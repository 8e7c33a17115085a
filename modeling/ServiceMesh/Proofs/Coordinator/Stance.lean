import ServiceMesh.Proofs.Coordinator.Share

/-!
# Where the loops stand

What the loop of an id does next depends on the configuration that the id is watched with and on
the phase of the loop, and not on its number. Monitors that agree on them and on the slots of a
share do the same for the share, whatever else they watch.
-/

namespace ServiceMesh

variable {σ : Share} {id other : String}

/-! ## Stances -/

/-- How an id is watched: its configuration, and where its loop stands if it has one. -/
abbrev Stance := HealthConfig × Option Phase

/-- The stance with a loop. One that has none begins a new one. -/
def Stance.engaged (s : Stance) : Stance := (s.1, some (s.2.getD .fresh))

/-- The stance without a loop. -/
def Stance.idle (s : Stance) : Stance := (s.1, none)

/-- The stance of a loop in another phase. -/
def Stance.turned (phase : Phase) (s : Stance) : Stance := (s.1, s.2.map fun _ => phase)

namespace Monitor

variable (m : Monitor)

/-- How an id is watched, if it is. -/
def stance? (id : String) : Option Stance :=
  (m.watches[id]?).map fun w => (w.config, w.loop.map Loop.phase)

variable {m} {next n : Monitor}

/-- Nothing changes but the stance and the slot of an id. -/
structure Alters (id : String) (stance : Option Stance → Option Stance) (slot : Slot → Slot)
    (m next : Monitor) : Prop where
  defaults : next.defaults = m.defaults
  running : next.running = m.running
  stances : ∀ other, next.stance? other =
    if id = other then stance (m.stance? other) else m.stance? other
  slots : ∀ other, next.slot other = if id = other then slot (m.slot other) else m.slot other

theorem Alters.trans {last : Monitor} {stance stance' : Option Stance → Option Stance}
    {slot slot' : Slot → Slot} (first : Alters id stance slot m next)
    (second : Alters id stance' slot' next last) :
    Alters id (stance' ∘ stance) (slot' ∘ slot) m last where
  defaults := second.defaults.trans first.defaults
  running := second.running.trans first.running
  stances other := by
    rw [second.stances, first.stances]
    split <;> rfl
  slots other := by
    rw [second.slots, first.slots]
    split <;> rfl

/-! ## What a monitor does to one id -/

theorem alters_insertWatch (m : Monitor) (id : String) (w : Watch) :
    Alters id (fun _ => some (w.config, w.loop.map Loop.phase)) (fun s => s) m
      { m with watches := m.watches.insert id w } := by
  refine ⟨rfl, rfl, fun other => ?_, fun other => (ite_self _).symm⟩
  by_cases self : id = other
  · subst self
    rw [if_pos rfl, stance?, Table.getElem?_insert_self, Option.map_some]
  · rw [if_neg self, stance?, Table.getElem?_insert_ne _ self, stance?]

theorem alters_eraseWatch (m : Monitor) (id : String) :
    Alters id (fun _ => none) (fun s => s) m { m with watches := m.watches.erase id } := by
  refine ⟨rfl, rfl, fun other => ?_, fun other => (ite_self _).symm⟩
  by_cases self : id = other
  · subst self
    rw [if_pos rfl, stance?, Table.getElem?_erase_self, Option.map_none]
  · rw [if_neg self, stance?, Table.getElem?_erase_ne _ self, stance?]

theorem alters_setPhase (t : Timeline) (id : String) (phase : Phase) :
    Alters id (Option.map (Stance.turned phase)) (fun s => s) t.mesh.monitor
      (t.setPhase id phase).mesh.monitor := by
  refine ⟨rfl, rfl, fun other => ?_, fun other => (ite_self _).symm⟩
  change ((t.mesh.monitor.watches.update id _)[other]?).map _ = _
  by_cases self : id = other
  · subst self
    rw [if_pos rfl, Table.getElem?_update_self, stance?, Option.map_map, Option.map_map]
    congr 1
    funext w
    simp [Stance.turned, Function.comp_def]
  · rw [if_neg self, Table.getElem?_update_ne _ self, stance?]

theorem alters_insertSlot (m : Monitor) (id : String) (slot : Slot) :
    Alters id (fun s => s) (fun _ => slot) m { m with slots := m.slots.insert id slot } := by
  refine ⟨rfl, rfl, fun other => (ite_self _).symm, fun other => ?_⟩
  by_cases self : id = other
  · subst self
    rw [if_pos rfl, Monitor.slot, Table.getElem?_insert_self, Option.getD_some]
  · rw [if_neg self, Monitor.slot, Table.getElem?_insert_ne _ self, Monitor.slot]

theorem alters_eraseSlot (m : Monitor) (id : String) :
    Alters id (fun s => s) (fun _ => {}) m { m with slots := m.slots.erase id } := by
  refine ⟨rfl, rfl, fun other => (ite_self _).symm, fun other => ?_⟩
  by_cases self : id = other
  · subst self
    rw [if_pos rfl, Monitor.slot, Table.getElem?_erase_self, Option.getD_none]
  · rw [if_neg self, Monitor.slot, Table.getElem?_erase_ne _ self, Monitor.slot]

theorem alters_countCheck (m : Monitor) (result : CheckResult) (id : String) :
    Alters id (fun s => s) (fun s => s) m (m.countCheck result) :=
  ⟨rfl, rfl, fun _ => (ite_self _).symm, fun _ => (ite_self _).symm⟩

theorem alters_beginLoop (m : Monitor) (id : String) :
    Alters id (Option.map Stance.engaged) (fun s => s) m (m.beginLoop id) := by
  refine ⟨?_, running_beginLoop m id, fun other => ?_, fun other => ?_⟩
  · unfold beginLoop
    split <;> rfl
  · rcases m.beginLoop_cases id with ⟨config, found, begun⟩ | ⟨busy, same⟩
    · rw [begun]
      by_cases self : id = other
      · subst self
        rw [if_pos rfl, stance?, Table.getElem?_insert_self, stance?, found]
        rfl
      · rw [if_neg self, stance?, Table.getElem?_insert_ne _ self, stance?]
    · rw [same]
      by_cases self : id = other
      · subst self
        rw [if_pos rfl, stance?]
        cases found : m.watches[id]? with
        | none => rfl
        | some w =>
          obtain ⟨config, loop⟩ := w
          cases loop with
          | none => exact absurd found (busy config)
          | some l => rfl
      · rw [if_neg self]
  · rw [slot_beginLoop, ite_self]

theorem alters_endLoop (m : Monitor) (id : String) :
    Alters id (Option.map Stance.idle) (fun s => s) m (m.endLoop id) := by
  refine ⟨?_, running_endLoop m id, fun other => ?_, fun other => ?_⟩
  · unfold endLoop
    split <;> rfl
  · unfold endLoop
    split
    case h_1 config l found =>
      by_cases self : id = other
      · subst self
        rw [if_pos rfl, withSlot, stance?, Table.getElem?_insert_self, stance?, found]
        rfl
      · rw [if_neg self, withSlot, stance?, Table.getElem?_insert_ne _ self, stance?]
    case h_2 idle =>
      by_cases self : id = other
      · subst self
        rw [if_pos rfl, stance?]
        cases found : m.watches[id]? with
        | none => rfl
        | some w =>
          obtain ⟨config, loop⟩ := w
          cases loop with
          | none => rfl
          | some l => exact absurd found (idle config l)
      · rw [if_neg self]
  · rw [slot_endLoop, ite_self]

/-- Watching an id anew begins a loop while the monitor runs, and counts outcomes from zero. -/
theorem alters_rewatched (m : Monitor) (id : String) (config : HealthConfig) :
    Alters id (fun _ => some (config, if m.running then some .fresh else none))
      (fun s => { s with tracker := {} }) m (m.rewatched id config) := by
  have ended := m.alters_endLoop id
  have watched := ended.trans ((m.endLoop id).alters_insertWatch id { config })
  have renewed : Alters id (fun _ => some (config, none)) (fun s => { s with tracker := {} }) m
      ((m.endLoop id).renewed id config) := by
    have counted := watched.trans (alters_insertSlot _ id
      { (m.endLoop id).slot id with tracker := {} })
    refine ⟨counted.defaults, counted.running, counted.stances, fun other => ?_⟩
    rw [renewed, counted.slots, slot_endLoop]
    by_cases self : id = other
    · subst self
      rw [if_pos rfl, if_pos rfl]
      rfl
    · rw [if_neg self, if_neg self]
  unfold rewatched
  split
  case isTrue running =>
    exact renewed.trans (alters_beginLoop _ id)
  case isFalse => exact renewed

theorem alters_drop (m : Monitor) (id : String) :
    Alters id (fun _ => none) (fun s => s) m (m.drop id) :=
  (m.alters_endLoop id).trans ((m.endLoop id).alters_eraseWatch id)

theorem alters_forget (m : Monitor) (id : String) :
    Alters id (fun _ => none) (fun _ => {}) m (m.forget id) :=
  (m.alters_drop id).trans ((m.drop id).alters_eraseSlot id)

/-- What a request to watch an id is answered, and what an accepted one does. -/
theorem watch_eq_bind (m : Monitor) (store : Store) (id : String) (config : HealthConfig) :
    m.watch store id config = (do
      Failure.requireText id "service_id"
      config.check
      if store.contains id then .ok (m.rewatched id config) else .error (.unknownId id)) := by
  unfold watch
  cases Failure.requireText id "service_id" with
  | error => rfl
  | ok _ =>
    cases config.check with
    | error => rfl
    | ok _ =>
      cases store.contains id with
      | false => rfl
      | true =>
        rw [rewatched, ← m.running_endLoop id]
        rfl

/-! ## What it does to all of them -/

/-- A step that is done for each of some ids is done once for each. -/
theorem stance?_foldl {step : Monitor → String → Monitor} {f : Stance → Stance}
    (once : ∀ s, f (f s) = f s)
    (stances : ∀ m id other, (step m id).stance? other =
      if id = other then (m.stance? other).map f else m.stance? other)
    (ids : List String) (m : Monitor) (other : String) :
    (ids.foldl step m).stance? other =
      if other ∈ ids then (m.stance? other).map f else m.stance? other := by
  induction ids generalizing m with
  | nil => rfl
  | cons id rest ih =>
    rw [List.foldl_cons, ih, stances]
    by_cases self : id = other
    · subst self
      simp [Function.comp_def, once]
    · simp [self, Ne.symm self]

theorem stance?_eq_none_of_not_mem_keys (absent : other ∉ m.watches.keys) :
    m.stance? other = none := by
  rw [stance?]
  cases found : m.watches[other]? with
  | none => rfl
  | some w => exact absurd (Table.mem_keys_iff.mpr ⟨w, found⟩) absent

theorem stance?_run (m : Monitor) (other : String) :
    m.run.stance? other = (m.stance? other).map Stance.engaged := by
  have all := stance?_foldl (f := Stance.engaged) (fun s => rfl)
    (fun m id => (m.alters_beginLoop id).stances) m.watches.keys { m with running := true } other
  rw [run, all]
  split
  · rfl
  · rename_i absent
    change m.stance? other = _
    rw [stance?_eq_none_of_not_mem_keys absent, Option.map_none]

theorem stance?_halt (m : Monitor) (other : String) :
    m.halt.stance? other = (m.stance? other).map Stance.idle := by
  have all := stance?_foldl (f := Stance.idle) (fun s => rfl)
    (fun m id => (m.alters_endLoop id).stances) m.watches.keys { m with running := false } other
  rw [halt, all]
  split
  · rfl
  · rename_i absent
    change m.stance? other = _
    rw [stance?_eq_none_of_not_mem_keys absent, Option.map_none]

/-! ## Agreement -/

/-- Two monitors run alike, and have the same stances and slots of the ids. -/
structure Agree (σ : Share) (m n : Monitor) : Prop where
  defaults : m.defaults = n.defaults
  running : m.running = n.running
  stances : ∀ id, σ.ids id = true → m.stance? id = n.stance? id
  slots : ∀ id, σ.ids id = true → m.slot id = n.slot id

namespace Agree

theorem refl (σ : Share) (m : Monitor) : m.Agree σ m := ⟨rfl, rfl, fun _ _ => rfl, fun _ _ => rfl⟩

theorem symm (h : m.Agree σ n) : n.Agree σ m :=
  ⟨h.defaults.symm, h.running.symm, fun id own => (h.stances id own).symm,
    fun id own => (h.slots id own).symm⟩

theorem trans {last : Monitor} (h : m.Agree σ n) (h' : n.Agree σ last) : m.Agree σ last :=
  ⟨h.defaults.trans h'.defaults, h.running.trans h'.running,
    fun id own => (h.stances id own).trans (h'.stances id own),
    fun id own => (h.slots id own).trans (h'.slots id own)⟩

/-- The same alteration of both. -/
theorem alter (h : m.Agree σ n) {m' n' : Monitor} {stance : Option Stance → Option Stance}
    {slot : Slot → Slot} (left : Alters id stance slot m m') (right : Alters id stance slot n n') :
    m'.Agree σ n' where
  defaults := left.defaults.trans (h.defaults.trans right.defaults.symm)
  running := left.running.trans (h.running.trans right.running.symm)
  stances other own := by rw [left.stances, right.stances, h.stances other own]
  slots other own := by rw [left.slots, right.slots, h.slots other own]

theorem alter_outside (outside : σ.ids id = false) {stance : Option Stance → Option Stance}
    {slot : Slot → Slot} (altered : Alters id stance slot m next) : m.Agree σ next where
  defaults := altered.defaults.symm
  running := altered.running.symm
  stances other own := by
    rw [altered.stances, if_neg (Table.AgreeOn.ne_of_outside outside own)]
  slots other own := by
    rw [altered.slots, if_neg (Table.AgreeOn.ne_of_outside outside own)]

/-- What leaves the stances and the slots alone. -/
theorem of_same (defaults : next.defaults = m.defaults) (running : next.running = m.running)
    (watches : next.watches = m.watches) (slots : next.slots = m.slots) : m.Agree σ next where
  defaults := defaults.symm
  running := running.symm
  stances id _ := by rw [stance?, ← watches, stance?]
  slots id _ := by rw [Monitor.slot, ← slots, Monitor.slot]

theorem rewatched (h : m.Agree σ n) (id : String) (config : HealthConfig) :
    (m.rewatched id config).Agree σ (n.rewatched id config) := by
  have right := n.alters_rewatched id config
  rw [← h.running] at right
  exact h.alter (m.alters_rewatched id config) right

theorem run (h : m.Agree σ n) : m.run.Agree σ n.run where
  defaults := by
    have kept : ∀ m : Monitor, m.run.defaults = m.defaults := fun m =>
      foldl_keeps Monitor.defaults (fun m id => (m.alters_beginLoop id).defaults)
        { m with running := true } _
    rw [kept, kept, h.defaults]
  running := (running_run m).trans (running_run n).symm
  stances id own := by rw [stance?_run, stance?_run, h.stances id own]
  slots id own := by rw [slot_run, slot_run, h.slots id own]

theorem halt (h : m.Agree σ n) : m.halt.Agree σ n.halt where
  defaults := by
    have kept : ∀ m : Monitor, m.halt.defaults = m.defaults := fun m =>
      foldl_keeps Monitor.defaults (fun m id => (m.alters_endLoop id).defaults)
        { m with running := false } _
    rw [kept, kept, h.defaults]
  running := (running_halt m).trans (running_halt n).symm
  stances id own := by rw [stance?_halt, stance?_halt, h.stances id own]
  slots id own := by rw [slot_halt, slot_halt, h.slots id own]

theorem configFor (h : m.Agree σ n) (own : σ.ids id = true) : m.configFor id = n.configFor id := by
  have settings : ∀ m : Monitor,
      m.configFor id = ((m.stance? id).map Prod.fst).getD m.defaults := by
    intro m
    rw [Monitor.configFor, stance?, Option.map_map]
    rfl
  rw [settings, settings, h.stances id own, h.defaults]

end Agree

end Monitor

end ServiceMesh
