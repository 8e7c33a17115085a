import ServiceMesh.Health.Monitor
import ServiceMesh.Proofs.Balancer.Selection
import ServiceMesh.Proofs.Registry.Representation

/-!
# Parts that follow the registry

A part of a node follows a set of ids when the entries it keeps are exactly for those
ids, or for some of them in the case of the health monitor. The set is given as a
function to truth values, so that the registry itself can stand for it. Each operation of
a part is said here to keep it following, with the set that it follows afterwards.
-/

namespace ServiceMesh

/-- A set of ids with one more. -/
def adding (id : String) (registered : String → Bool) : String → Bool :=
  fun other => id == other || registered other

/-- A set of ids with one less. -/
def removing (id : String) (registered : String → Bool) : String → Bool :=
  fun other => id != other && registered other

/-! ## The registry -/

namespace Store

theorem contains_modify (s : Store) (id : String) (f : Record → Record) :
    (s.modify id f).contains = s.contains := by
  funext other
  rw [contains, find?_modify, Option.isSome_map, contains]

theorem contains_register {s : Store} {r : Record} (done : (s.register r).1 = .ok ()) :
    (s.register r).2.contains = adding r.id s.contains := by
  unfold register at done ⊢
  split
  case h_1 refused => simp [refused] at done
  case h_2 accepted =>
    simp only [accepted] at done ⊢
    split
    case isTrue there => simp [there] at done
    case isFalse =>
      funext other
      rw [contains, find?, Table.isSome_insert, adding, contains, find?]

/-- A registration leaves the other ids alone. -/
theorem find?_register_ne (s : Store) {r : Record} {other : String} (differ : r.id ≠ other) :
    (s.register r).2.find? other = s.find? other := by
  unfold register
  split
  case h_1 => rfl
  case h_2 =>
    simp only
    split
    case isTrue => rfl
    case isFalse => exact Table.getElem?_insert_ne _ differ _

theorem find?_register_self {s : Store} {r : Record} (done : (s.register r).1 = .ok ()) :
    (s.register r).2.find? r.id = some r := by
  unfold register at done ⊢
  split
  case h_1 refused => simp [refused] at done
  case h_2 accepted =>
    simp only [accepted] at done ⊢
    split
    case isTrue there => simp [there] at done
    case isFalse => exact Table.getElem?_insert_self _ _ _

/-- A removal leaves the other ids alone. -/
theorem find?_unregister_ne (s : Store) {id other : String} (differ : id ≠ other) :
    (s.unregister id).2.find? other = s.find? other := by
  unfold unregister
  split
  case h_1 => rfl
  case h_2 =>
    split
    case h_1 => rfl
    case h_2 =>
      split
      case h_1 => rfl
      case h_2 => exact Table.getElem?_erase_ne _ differ

theorem contains_unregister {s : Store} {id : String} {r : Record}
    (done : (s.unregister id).1 = .ok r) :
    (s.unregister id).2.contains = removing id s.contains := by
  unfold unregister at done ⊢
  split
  case h_1 refused => simp [refused] at done
  case h_2 accepted =>
    simp only [accepted] at done ⊢
    split
    case h_1 absent => simp [absent] at done
    case h_2 found =>
      simp only [found] at done ⊢
      split
      case h_1 unlisted => simp [unlisted] at done
      case h_2 =>
        funext other
        rw [contains, find?, Table.isSome_erase, removing, contains, find?]

/-- A removal that is refused changes nothing. -/
theorem unregister_of_error {s : Store} {id : String} {e : Failure}
    (refused : (s.unregister id).1 = .error e) : (s.unregister id).2 = s := by
  unfold unregister at refused ⊢
  split
  case h_1 => rfl
  case h_2 accepted =>
    simp only [accepted] at refused
    split
    case h_1 => rfl
    case h_2 found =>
      simp only [found] at refused
      split
      case h_1 => rfl
      case h_2 listed => simp [listed] at refused

/-- What was removed is not there to be removed again. -/
theorem unregister_unregister {s : Store} {id : String} {r : Record}
    (done : (s.unregister id).1 = .ok r) :
    ((s.unregister id).2.unregister id).2 = (s.unregister id).2 := by
  have gone : (s.unregister id).2.contains id = false := by
    rw [contains_unregister done, removing, bne_self_eq_false, Bool.false_and]
  rw [contains, Option.isSome_eq_false_iff, Option.isNone_iff_eq_none] at gone
  generalize (s.unregister id).2 = left at gone ⊢
  unfold unregister
  split
  · rfl
  · rw [gone]

/-- A registration is refused only to a record that is invalid or whose id is taken. -/
theorem register_ok {s : Store} {r : Record} (valid : r.validate = .ok ())
    (free : s.contains r.id = false) : (s.register r).1 = .ok () := by
  simp [register, valid, free]

end Store

variable {registered : String → Bool}

/-! ## Breakers -/

namespace Breaker

private theorem settings_settle (b : Breaker) (success : Bool) (now : Moment) :
    (b.settle success now).settings = b.settings := by
  unfold settle
  split
  · rfl
  · simp only
    split <;> rfl
  all_goals rfl

theorem settings_record (b : Breaker) (success : Bool) (time : Duration) (now : Moment) :
    (b.record success time now).settings = b.settings := by
  rw [record, settings_settle, settings_refresh]

end Breaker

namespace Bank

/-- The bank has a breaker for each id of a set, all with the same settings. -/
structure Follows (b : Bank) (registered : String → Bool) (settings : BreakerSettings) : Prop where
  tracked : ∀ id, (b.find? id).isSome = registered id
  settings : ∀ id x, b.find? id = some x → x.settings = settings

theorem track_of_absent {b : Bank} {id : String} (absent : b.find? id = none)
    (settings : BreakerSettings) :
    b.track id settings = { b with breakers := b.breakers.insert id { settings } } := by
  rw [track, absent]

namespace Follows

variable {b : Bank} {settings : BreakerSettings}

theorem empty : Bank.empty.Follows (fun _ => false) settings where
  tracked _ := rfl
  settings _ _ h := nomatch h

/-- An id outside the set has no breaker. -/
theorem find?_eq_none (h : b.Follows registered settings) {id : String}
    (absent : registered id = false) : b.find? id = none := by
  rwa [← h.tracked, Option.isSome_eq_false_iff, Option.isNone_iff_eq_none] at absent

/-- Another breaker with the same settings takes the place of one. -/
theorem replace (h : b.Follows registered settings) {id : String} {before after : Breaker}
    (found : b.find? id = some before) (same : after.settings = before.settings)
    (transitions : Tally BreakerState) :
    Bank.Follows ⟨b.breakers.insert id after, transitions⟩ registered settings where
  tracked other := by
    rw [← h.tracked other]
    exact Table.isSome_insert_of_isSome (Option.isSome_of_eq_some found) after other
  settings other x hx := by
    rcases Table.insert_cases hx with ⟨rfl, rfl⟩ | ⟨-, old⟩
    · rw [same, h.settings id before found]
    · exact h.settings other x old

theorem track (h : b.Follows registered settings) {id : String} (new : registered id = false) :
    (b.track id settings).Follows (adding id registered) settings := by
  rw [track_of_absent (h.find?_eq_none new)]
  constructor
  · intro other
    rw [find?, Table.isSome_insert, adding, ← h.tracked other, find?]
  · intro other x hx
    rcases Table.insert_cases hx with ⟨-, rfl⟩ | ⟨-, old⟩
    · rfl
    · exact h.settings other x old

theorem forget (h : b.Follows registered settings) (id : String) :
    (b.forget id).Follows (removing id registered) settings where
  tracked other := by
    rw [find?, Bank.forget, Table.isSome_erase, removing, ← h.tracked other, find?]
  settings other x hx := h.settings other x (Table.erase_cases hx).2

theorem reconfigure (h : b.Follows registered settings) (new : BreakerSettings) :
    (b.reconfigure new).Follows registered new where
  tracked id := by
    rw [← h.tracked id, find?, find?, Bank.reconfigure, Std.ExtTreeMap.getElem?_map,
      Option.isSome_map]
  settings id x hx := by
    rw [find?, Bank.reconfigure, Std.ExtTreeMap.getElem?_map] at hx
    obtain ⟨old, -, rfl⟩ := Option.map_eq_some_iff.mp hx
    rfl

theorem refresh (h : b.Follows registered settings) (id : String) (now : Moment) :
    (b.refresh id now).Follows registered settings := by
  unfold Bank.refresh
  split
  case h_1 => exact h
  case h_2 found => exact h.replace found (Breaker.settings_refresh _ now) _

/-- Looking for fit members refreshes some breakers. -/
theorem fit (h : b.Follows registered settings) (useBreakers : Bool) (now : Moment)
    (members : List Record) :
    (Balancer.fit useBreakers now members b).2.Follows registered settings := by
  induction members generalizing b with
  | nil => exact h
  | cons r rest ih =>
    rw [Balancer.fit]
    split
    · split
      · exact ih (h.refresh r.id now)
      · exact ih h
    · exact ih h

end Follows

namespace Follows

variable {b next : Bank} {settings : BreakerSettings}

theorem report (h : b.Follows registered settings) {id : String} {success : Bool}
    {time : Duration} {now : Moment} {state : BreakerState}
    (done : b.report id success time now = .ok (state, next)) :
    next.Follows registered settings := by
  obtain ⟨before, found, rest⟩ := Failure.bind_eq_ok_iff.mp done
  cases rest
  exact h.replace (find?_of_get found) (Breaker.settings_record before success time now) _

theorem status (h : b.Follows registered settings) {id : String} {now : Moment}
    {status : BreakerStatus} (done : b.status id now = .ok (status, next)) :
    next.Follows registered settings := by
  obtain ⟨before, found, rest⟩ := Failure.bind_eq_ok_iff.mp done
  cases rest
  exact h.replace (find?_of_get found) (Breaker.settings_refresh before now) _

theorem reset (h : b.Follows registered settings) {id : String} (done : b.reset id = .ok next) :
    next.Follows registered settings := by
  obtain ⟨before, found, rest⟩ := Failure.bind_eq_ok_iff.mp done
  cases rest
  have kept : before.reset.settings = before.settings := rfl
  exact h.replace (find?_of_get found) kept _

end Follows

end Bank

/-! ## Load counters -/

namespace Balancer

/-- The balancer counts the load of each id of a set. -/
def Follows (b : Balancer) (registered : String → Bool) : Prop := ∀ id, b.tracks id = registered id

theorem track_of_absent {b : Balancer} {id : String} (absent : b.loads[id]? = none) :
    b.track id = { b with loads := b.loads.insert id {} } := by
  rw [track, absent]

namespace Follows

variable {b : Balancer}

theorem ofConfig (config : BalancerConfig) : (Balancer.ofConfig config).Follows fun _ => false :=
  fun _ => rfl

/-- An id outside the set has no load counters. -/
theorem loads_eq_none (h : b.Follows registered) {id : String} (absent : registered id = false) :
    b.loads[id]? = none := by
  rwa [← h id, tracks, Option.isSome_eq_false_iff, Option.isNone_iff_eq_none] at absent

theorem track (h : b.Follows registered) {id : String} (new : registered id = false) :
    (b.track id).Follows (adding id registered) := by
  intro other
  rw [track_of_absent (h.loads_eq_none new), tracks, Table.isSome_insert, adding, ← h other, tracks]

theorem forget (h : b.Follows registered) (id : String) :
    (b.forget id).Follows (removing id registered) := by
  intro other
  rw [tracks, Balancer.forget, Table.isSome_erase, removing, ← h other, tracks]

theorem choose (h : b.Follows registered) (name : String) (candidates : List Record)
    (request : Request) (draw : UInt64) :
    (b.choose name candidates request draw).2.Follows registered := by
  cases chosen : (b.consult name candidates request draw).1.bind (candidates[·]?) with
  | none =>
    rw [choose_of_none chosen]
    exact h
  | some r =>
    rw [choose_of_some chosen]
    intro other
    rw [tracks, Table.isSome_update, ← h other, tracks]

theorem select (h : b.Follows registered) (store : Store) (bank : Bank) (now : Moment)
    (name : String) (client : Option String) (draw : UInt64) :
    (b.select store bank now name client draw).2.1.Follows registered := by
  rcases (b.select_leaves store bank now name client draw).1 with
    ⟨-, -, same⟩ | ⟨-, reason, -, failed⟩ | ⟨candidates, request, -, chosen⟩
  · rw [same]
    exact h
  · rw [failed]
    exact h
  · rw [chosen]
    exact h.choose name candidates request draw

theorem reported (h : b.Follows registered) (name id : String) (time : Duration) (success : Bool) :
    (b.reported name id time success).Follows registered := by
  intro other
  rw [tracks, Balancer.reported, Table.isSome_update, ← h other, tracks]

end Follows

end Balancer

/-! ## Watches and slots -/

namespace Monitor

/-- Watched ids have a slot, and ids with a slot are in a set. -/
structure Follows (m : Monitor) (registered : String → Bool) : Prop where
  watched : ∀ id, m.isWatched id = true → (m.slots[id]?).isSome = true
  slotted : ∀ id, (m.slots[id]?).isSome = true → registered id = true

/-- What each step leaves alone is left alone by steps for several ids. -/
theorem foldl_keeps {α : Type} (view : Monitor → α) {step : Monitor → String → Monitor}
    (each : ∀ m id, view (step m id) = view m) (m : Monitor) (ids : List String) :
    view (ids.foldl step m) = view m := by
  induction ids generalizing m with
  | nil => rfl
  | cons id rest ih => rw [List.foldl_cons, ih, each]

theorem isWatched_beginLoop (m : Monitor) (id other : String) :
    (m.beginLoop id).isWatched other = m.isWatched other := by
  unfold beginLoop
  split
  case h_1 found =>
    exact Table.isSome_insert_of_isSome (Option.isSome_of_eq_some found) _ other
  case h_2 => rfl

theorem slots_beginLoop (m : Monitor) (id : String) : (m.beginLoop id).slots = m.slots := by
  unfold beginLoop
  split <;> rfl

private theorem isWatched_endLoop (m : Monitor) (id other : String) :
    (m.endLoop id).isWatched other = m.isWatched other := by
  unfold endLoop
  split
  case h_1 found =>
    exact Table.isSome_insert_of_isSome (Option.isSome_of_eq_some found) _ other
  case h_2 => rfl

theorem running_endLoop (m : Monitor) (id : String) : (m.endLoop id).running = m.running := by
  unfold endLoop
  split <;> rfl

/-- The monitor with a watch of an id that has no loop yet. -/
def renewed (m : Monitor) (id : String) (config : HealthConfig) : Monitor :=
  { m with
    watches := m.watches.insert id { config }
    slots := m.slots.insert id { m.slot id with tracker := {} } }

/-- What is done when an instance is to be watched and the request is accepted. -/
def rewatched (m : Monitor) (id : String) (config : HealthConfig) : Monitor :=
  if m.running then ((m.endLoop id).renewed id config).beginLoop id
  else (m.endLoop id).renewed id config

/-- A request to watch an instance is accepted if the instance is registered. -/
theorem watch_eq {m next : Monitor} {store : Store} {id : String} {config : HealthConfig}
    (done : m.watch store id config = .ok next) :
    store.contains id = true ∧ next = m.rewatched id config := by
  obtain ⟨-, -, checked⟩ := Failure.bind_eq_ok_iff.mp done
  obtain ⟨-, -, decided⟩ := Failure.bind_eq_ok_iff.mp checked
  split at decided
  case isFalse => cases decided
  case isTrue there =>
    cases decided
    refine ⟨there, ?_⟩
    rw [rewatched, ← m.running_endLoop id]
    rfl

namespace Follows

variable {m next : Monitor}

theorem empty (defaults : HealthConfig) :
    ({ defaults } : Monitor).Follows fun _ => false where
  watched _ h := nomatch h
  slotted _ h := nomatch h

/-- Only the keys of the tables matter. -/
theorem of_keys (h : m.Follows registered)
    (watches : ∀ id, next.isWatched id = m.isWatched id)
    (slots : ∀ id : String, (next.slots[id]?).isSome = (m.slots[id]?).isSome) :
    next.Follows registered where
  watched id hid := by
    rw [slots id]
    exact h.watched id (watches id ▸ hid)
  slotted id hid := h.slotted id (slots id ▸ hid)

/-- An id outside the set has no slot. -/
theorem slots_eq_none (h : m.Follows registered) {id : String} (absent : registered id = false) :
    m.slots[id]? = none := by
  rw [← Option.isNone_iff_eq_none, ← Option.isSome_eq_false_iff, Bool.eq_false_iff]
  intro slotted
  exact nomatch absent.symm.trans (h.slotted id slotted)

/-- An id outside the set is not watched. -/
theorem isWatched_eq_false (h : m.Follows registered) {id : String}
    (absent : registered id = false) : m.isWatched id = false := by
  rw [Bool.eq_false_iff]
  intro watched
  exact nomatch absent.symm.trans (h.slotted id (h.watched id watched))

theorem beginLoop (h : m.Follows registered) (id : String) :
    (m.beginLoop id).Follows registered :=
  h.of_keys (m.isWatched_beginLoop id) fun other => by rw [slots_beginLoop]

/-- The slot that the end of a loop makes sure of is there, for the id is watched. -/
theorem endLoop (h : m.Follows registered) (id : String) : (m.endLoop id).Follows registered := by
  refine h.of_keys (m.isWatched_endLoop id) fun other => ?_
  unfold Monitor.endLoop
  split
  case h_1 found =>
    have slot := h.watched id (Option.isSome_of_eq_some found)
    exact Table.isSome_insert_of_isSome slot _ other
  case h_2 => rfl

theorem foldl {step : Monitor → String → Monitor}
    (each : ∀ m id, m.Follows registered → (step m id).Follows registered)
    (h : m.Follows registered) (ids : List String) : (ids.foldl step m).Follows registered := by
  induction ids generalizing m with
  | nil => exact h
  | cons id rest ih => exact ih (each m id h)

theorem run (h : m.Follows registered) : m.run.Follows registered := by
  have running : ({ m with running := true } : Monitor).Follows registered := ⟨h.watched, h.slotted⟩
  exact running.foldl (fun _ id follows => follows.beginLoop id) m.watches.keys

theorem halt (h : m.Follows registered) : m.halt.Follows registered := by
  have halted : ({ m with running := false } : Monitor).Follows registered := ⟨h.watched, h.slotted⟩
  exact halted.foldl (fun _ id follows => follows.endLoop id) m.watches.keys

/-- A watch that is changed or dropped. -/
theorem setWatches (h : m.Follows registered) {watches : Table Watch}
    (fewer : ∀ id : String, (watches[id]?).isSome = true → m.isWatched id = true) :
    ({ m with watches } : Monitor).Follows registered where
  watched id hid := h.watched id (fewer id hid)
  slotted := h.slotted

theorem updateWatch (h : m.Follows registered) (id : String) (f : Watch → Watch) :
    ({ m with watches := m.watches.update id f } : Monitor).Follows registered :=
  h.setWatches fun other hother => by rwa [Table.isSome_update] at hother

theorem eraseWatch (h : m.Follows registered) (id : String) :
    ({ m with watches := m.watches.erase id } : Monitor).Follows registered :=
  h.setWatches fun other hother => by
    rw [Table.isSome_erase, Bool.and_eq_true] at hother
    exact hother.2

/-- An id of the set is given a slot. -/
theorem insertSlot (h : m.Follows registered) {id : String} (there : registered id = true)
    (slot : Slot) : ({ m with slots := m.slots.insert id slot } : Monitor).Follows registered where
  watched other hother := by
    rw [Table.isSome_insert, h.watched other hother, Bool.or_true]
  slotted other hother := by
    rw [Table.isSome_insert, Bool.or_eq_true, beq_iff_eq] at hother
    rcases hother with rfl | slotted
    · exact there
    · exact h.slotted other slotted

/-- An id with a slot is watched. -/
theorem insertWatch (h : m.Follows registered) {id : String}
    (slot : (m.slots[id]?).isSome = true) (w : Watch) :
    ({ m with watches := m.watches.insert id w } : Monitor).Follows registered where
  watched other hother := by
    rw [isWatched, Table.isSome_insert, Bool.or_eq_true, beq_iff_eq] at hother
    rcases hother with rfl | watched
    · exact slot
    · exact h.watched other watched
  slotted := h.slotted

/-- An id outside the set is not watched, so its slot is not missed. -/
theorem eraseSlot (h : m.Follows registered) {id : String} (absent : registered id = false) :
    ({ m with slots := m.slots.erase id } : Monitor).Follows registered where
  watched other hother := by
    have differ : id ≠ other := by
      rintro rfl
      exact nomatch (h.isWatched_eq_false absent).symm.trans hother
    rw [Table.isSome_erase, h.watched other hother, Bool.and_true, bne_iff_ne]
    exact differ
  slotted other hother := by
    rw [Table.isSome_erase, Bool.and_eq_true] at hother
    exact h.slotted other hother.2

/-- An id of the set is watched: it is given a slot first and its watch then. -/
theorem watch {store : Store} (h : m.Follows store.contains) {id : String} {config : HealthConfig}
    (done : m.watch store id config = .ok next) : next.Follows store.contains := by
  obtain ⟨there, rfl⟩ := watch_eq done
  have reset := (h.endLoop id).insertSlot there
    { (m.endLoop id).slot id with tracker := {} }
  have slot := Option.isSome_of_eq_some (Table.getElem?_insert_self (m.endLoop id).slots id
    { (m.endLoop id).slot id with tracker := {} })
  have renewed := reset.insertWatch slot { config }
  unfold rewatched
  split
  · exact renewed.beginLoop id
  · exact renewed

theorem drop (h : m.Follows registered) (id : String) : (m.drop id).Follows registered :=
  (h.endLoop id).eraseWatch id

/-- Nothing is kept for an id that is forgotten. -/
theorem forget (h : m.Follows registered) (id : String) :
    (m.forget id).Follows (removing id registered) where
  watched other hother := by
    have dropped := h.drop id
    rw [Monitor.forget, Table.isSome_erase, dropped.watched other hother, Bool.and_true]
    rw [Monitor.forget, Monitor.drop, isWatched, Table.isSome_erase, Bool.and_eq_true] at hother
    exact hother.1
  slotted other hother := by
    rw [Monitor.forget, Table.isSome_erase, Bool.and_eq_true] at hother
    rw [removing, hother.1, (h.drop id).slotted other hother.2, Bool.and_true]

/-- An id that joins the set is not known yet. -/
theorem grow (h : m.Follows registered) (id : String) : m.Follows (adding id registered) where
  watched := h.watched
  slotted other hother := by rw [adding, h.slotted other hother, Bool.or_true]

end Follows

end Monitor

end ServiceMesh
