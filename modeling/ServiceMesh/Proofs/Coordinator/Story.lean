import Mathlib.Data.List.Chain
import ServiceMesh.Proofs.Coordinator.Act
import ServiceMesh.Proofs.Health.Summary

/-!
# Status, history and notices

A check that is applied to an instance is written to three places: the record gets the
status, the slot of the instance the check, and the health subscriber is told of a change.
Nothing else writes to any of them while a registration lasts, so the three agree on which
checks there were: the status is that of the latest one, the history is the end of their
list, and the notices are the changes of status along it.
-/

namespace ServiceMesh

/-! ## Changes along a list of statuses -/

namespace Status

/-- The pairs of neighbours in a list of statuses that differ. -/
def changes (line : List Status) : List (Status × Status) :=
  (line.zip line.tail).filter fun p => p.1 ≠ p.2

theorem changes_cons_cons (first second : Status) (rest : List Status) :
    changes (first :: second :: rest) =
      (if second = first then [] else [(first, second)]) ++ changes (second :: rest) := by
  rw [changes, List.tail_cons, List.zip_cons_cons, List.filter_cons]
  by_cases same : second = first
  · simp [same, changes]
  · have differ : first ≠ second := fun h => same h.symm
    simp [same, differ, changes]

/-- The first change along a list begins where the list does. -/
theorem fst_of_mem_head?_changes {first : Status} {rest : List Status} {p : Status × Status}
    (head : (changes (first :: rest)).head? = some p) : p.1 = first := by
  induction rest generalizing first with
  | nil => cases head
  | cons second rest ih =>
    rw [changes_cons_cons] at head
    split at head
    case isTrue same => exact (ih head).trans same
    case isFalse =>
      cases head
      rfl

/-- Each change begins where the one before it ended. -/
theorem isChain_changes (line : List Status) :
    (changes line).IsChain fun p q => p.2 = q.1 := by
  induction line with
  | nil => exact .nil
  | cons first rest ih =>
    cases rest with
    | nil => exact .nil
    | cons second rest =>
      rw [changes_cons_cons]
      split
      case isTrue => exact ih
      case isFalse =>
        rw [List.singleton_append, List.isChain_cons]
        refine ⟨?_, ih⟩
        intro q hq
        exact (fst_of_mem_head?_changes hq).symm

private theorem ne_of_mem_changes {line : List Status} {p : Status × Status}
    (hp : p ∈ changes line) : p.1 ≠ p.2 := by
  simpa using List.of_mem_filter hp

end Status

/-! ## What the monitor leaves of a slot -/

namespace Monitor

variable (m : Monitor)

theorem slot_withSlot (id other : String) : (m.withSlot id).slot other = m.slot other := by
  rw [slot, withSlot]
  by_cases same : id = other
  · subst same
    rw [Table.getElem?_insert_self, Option.getD_some]
  · rw [Table.getElem?_insert_ne _ same, slot]

theorem slot_beginLoop (id other : String) : (m.beginLoop id).slot other = m.slot other := by
  rw [slot, slots_beginLoop, slot]

theorem slot_endLoop (id other : String) : (m.endLoop id).slot other = m.slot other := by
  unfold endLoop
  split
  case h_1 => exact slot_withSlot _ id other
  case h_2 => rfl

theorem slot_run (other : String) : m.run.slot other = m.slot other :=
  foldl_keeps (fun m => m.slot other) (fun m id => m.slot_beginLoop id other)
    { m with running := true } _

theorem slot_halt (other : String) : m.halt.slot other = m.slot other :=
  foldl_keeps (fun m => m.slot other) (fun m id => m.slot_endLoop id other)
    { m with running := false } _

theorem slot_drop (id other : String) : (m.drop id).slot other = m.slot other :=
  m.slot_endLoop id other

theorem slot_forget_ne {id other : String} (differ : id ≠ other) :
    (m.forget id).slot other = m.slot other := by
  rw [slot, forget, Table.getElem?_erase_ne _ differ]
  exact m.slot_drop id other

/-- Watching an instance anew counts outcomes from zero and keeps the history. -/
theorem history_watch {m next : Monitor} {store : Store} {id : String} {config : HealthConfig}
    (done : m.watch store id config = .ok next) (other : String) :
    (next.slot other).history = (m.slot other).history := by
  obtain ⟨-, rfl⟩ := watch_eq done
  have renewed : (((m.endLoop id).renewed id config).slot other).history =
      (m.slot other).history := by
    change ((((m.endLoop id).slots.insert id _)[other]?).getD {}).history = _
    by_cases same : id = other
    · subst same
      rw [Table.getElem?_insert_self, Option.getD_some, slot_endLoop]
    · rw [Table.getElem?_insert_ne _ same]
      exact congrArg Slot.history (m.slot_endLoop id other)
  unfold rewatched
  split
  · rw [slot_beginLoop]
    exact renewed
  · exact renewed

end Monitor

namespace Coordinator

variable {c next : Coordinator} {id : String}

/-! ## The three places -/

/-- The status of a registered instance. -/
def status? (c : Coordinator) (id : String) : Option Status :=
  (c.mesh.store.find? id).map Record.status

/-- The history of an id. -/
def checks (c : Coordinator) (id : String) : History := (c.mesh.monitor.slot id).history

/-- What was told of an id and to whom, oldest first. -/
def told (c : Coordinator) (id : String) : List (String × StatusChange) :=
  (c.mesh.notifier.statusChanges.filter fun notice => notice.2.id == id).reverse

/-- The health subscriber. -/
def listener (c : Coordinator) : Option String := c.mesh.notifier.healthListener

/-- What is to be told when an instance is given a status. -/
def notice (c : Coordinator) (id : String) (previous current : Status) :
    List (String × StatusChange) :=
  if current = previous then [] else c.listener.toList.map fun l => (l, { id, previous, current })

/-- None of the three places is another one. -/
structure Keeps (c next : Coordinator) (id : String) : Prop where
  status : next.status? id = c.status? id
  checks : next.checks id = c.checks id
  told : next.told id = c.told id

/-- One more check was applied to an instance, and is in all three places. -/
structure Takes (c next : Coordinator) (id : String) (previous : Status) (k : Check) : Prop where
  status : next.status? id = some k.status
  checks : next.checks id = (c.checks id).push k
  told : next.told id = c.told id ++ c.notice id previous k.status

theorem Keeps.trans {last : Coordinator} (first : c.Keeps next id) (second : next.Keeps last id) :
    c.Keeps last id :=
  ⟨second.status.trans first.status, second.checks.trans first.checks,
    second.told.trans first.told⟩

theorem Takes.trans {last : Coordinator} {previous : Status} {k : Check}
    (first : c.Takes next id previous k) (second : next.Keeps last id) :
    c.Takes last id previous k :=
  ⟨second.status.trans first.status, second.checks.trans first.checks,
    second.told.trans first.told⟩

theorem Untouched.keeps (h : c.Untouched next) (id : String) : c.Keeps next id := by
  constructor
  · rw [status?, h.records, status?]
  · rw [Coordinator.checks, h.slots, Coordinator.checks]
  · rw [Coordinator.told, h.notices, Coordinator.told]

/-! ## Calls -/

theorem told_setMesh_announce (c : Coordinator) (m : Mesh) (change : MembershipChange)
    (same : m.notifier = c.mesh.notifier) (id : String) :
    (c.setMesh (announce m change)).told id = c.told id := by
  change List.reverse (List.filter _ (m.notifier.membershipChanged change).statusChanges) = _
  rw [same, Notifier.membershipChanged]
  split <;> rfl

/-- While a registration lasts, no call writes to the status, the history or the notices. -/
theorem call_keeps {op : Operation} {answer : Answer} (made : Call c op answer next) {r : Record}
    (there : c.mesh.store.find? id = some r) (lasts : op ≠ .unregister id) : c.Keeps next id := by
  cases made with
  | register other _ free =>
    have differ : other.id ≠ id := by
      rintro rfl
      rw [Store.contains, there] at free
      cases free
    constructor
    · exact congrArg (Option.map Record.status) (Store.find?_register_ne c.mesh.store differ)
    · rfl
    · exact c.told_setMesh_announce _ _ rfl id
  | unregister done =>
    have differ : _ ≠ id := fun same => lasts (congrArg Operation.unregister same)
    constructor
    · exact congrArg (Option.map Record.status) (Store.find?_unregister_ne c.mesh.store differ)
    · exact congrArg Slot.history (c.mesh.monitor.slot_forget_ne differ)
    · exact c.told_setMesh_announce _ _ rfl id
  | setMetadata changed metadata =>
    have same : ((c.mesh.store.modify changed fun r => { r with metadata }).find? id).map
        Record.status = c.status? id :=
      c.mesh.store.map_find?_modify changed id fun _ => rfl
    exact ⟨same, rfl, rfl⟩
  | watch done => exact ⟨rfl, Monitor.history_watch done id, rfl⟩
  | unwatch dropped =>
    exact ⟨rfl, congrArg Slot.history (c.mesh.monitor.slot_drop dropped id), rfl⟩
  | @report reported _ time _ _ _ _ _ =>
    have same : ((c.mesh.store.modify reported fun r =>
        { r with lastResponse := some (.reported time) }).find? id).map Record.status =
          c.status? id :=
      c.mesh.store.map_find?_modify reported id fun _ => rfl
    exact ⟨same, rfl, rfl⟩
  | configure health balancer => cases health <;> cases balancer <;> exact ⟨rfl, rfl, rfl⟩
  | start => exact ⟨rfl, congrArg Slot.history (c.mesh.monitor.slot_run id), rfl⟩
  | stop => exact ⟨rfl, congrArg Slot.history (c.mesh.monitor.slot_halt id), rfl⟩
  | refused | spawn | select | readBreaker | resetBreaker | startAgain | stopAgain | listenHealth
  | listenServices | setTarget | wait => exact ⟨rfl, rfl, rfl⟩

/-- Only a call that replaces the health subscriber does so. -/
theorem listener_call {op : Operation} {answer : Answer} (made : Call c op answer next)
    (kept : ∀ l, op ≠ .listenHealth l) : next.listener = c.listener := by
  cases made with
  | register | unregister =>
    change Notifier.healthListener (Notifier.membershipChanged c.mesh.notifier _) = _
    rw [Notifier.membershipChanged]
    split <;> rfl
  | configure health balancer => cases health <;> cases balancer <;> rfl
  | listenHealth l => exact absurd rfl (kept l)
  | refused | setMetadata | watch | unwatch | spawn | select | report | readBreaker | resetBreaker
  | start | startAgain | stop | stopAgain | listenServices | setTarget | wait => rfl

/-! ## Probes -/

/-- The check that the end of a probe is for an instance: what the probe found, and the
status that follows. -/
def checkOf (c : Coordinator) (r : Record) (e : Ending) : Check :=
  { outcome := (c.finding e).1
    status := (c.mesh.verdict r (c.finding e).1 e.config).1
    time := (c.finding e).2 }

theorem told_statusChanged (c : Coordinator) (id : String) (previous current : Status)
    (same : next.mesh.notifier = if current = previous then c.mesh.notifier
      else c.mesh.notifier.statusChanged { id, previous, current }) :
    next.told id = c.told id ++ c.notice id previous current := by
  rw [told, same, notice]
  split
  case isTrue => rw [List.append_nil, told]
  case isFalse =>
    rw [Notifier.statusChanged, listener]
    cases c.mesh.notifier.healthListener with
    | none => exact (List.append_nil _).symm
    | some l => simp [told]

theorem ended_takes (attached : c.mesh.Attached) {e : Ending} {r : Record}
    (there : c.mesh.store.find? e.id = some r) :
    c.Takes (c.ended e) e.id r.status (c.checkOf r e) := by
  obtain ⟨-, same⟩ := attached.find?_eq_some there
  have lands := ended_lands attached there
  rw [← same]
  constructor
  · rw [status?, lands.record]
    rfl
  · exact lands.history
  · exact told_statusChanged c r.id r.status _ lands.notices

/-- The end of a probe of another id. -/
theorem ended_keeps (attached : c.mesh.Attached) {e : Ending} (differ : e.id ≠ id) :
    c.Keeps (c.ended e) id := by
  rcases mesh_ended_cases attached e with ⟨gone, -⟩ | ⟨r, there, same, checked⟩
  · exact (ended_untouched attached gone).keeps id
  · rw [← same] at differ
    constructor
    · rw [status?, checked, Mesh.find?_checked_ne _ _ _ _ _ differ, probed_store]
      rfl
    · rw [checks, checked, Mesh.slot_checked_ne _ _ _ _ _ differ, probed_slot]
      rfl
    · rw [told, checked, Mesh.notifier_checked, probed_notifier, Notifier.statusChanged]
      split
      · rfl
      · split
        · rfl
        · rw [List.filter_cons_of_neg (by simpa using differ)]
          rfl

/-! ## Acts -/

/-- The check that an act applies to an id, if there is one. -/
def applied (c : Coordinator) (id : String) (a : Act) : Option Check :=
  (c.ending? a).bind fun e =>
    if e.id = id then (c.mesh.store.find? id).map fun r => c.checkOf r e else none

/-- The checks that acts apply to an id, in their order. -/
def appliedBy (c : Coordinator) (id : String) : List Act → List Check
  | [] => []
  | a :: rest => (c.applied id a).toList ++ (c.act a).appliedBy id rest

/-- What an act does to the three places: nothing, or what the check does that it applies. -/
def Continues (c next : Coordinator) (id : String) (previous : Status) : Option Check → Prop
  | none => c.Keeps next id
  | some k => c.Takes next id previous k

/-- An act writes the check that it applies to all three places, and writes nothing else while
the registration lasts. -/
theorem act_continues (attached : c.mesh.Attached) {r : Record}
    (there : c.mesh.store.find? id = some r) {a : Act} (lasts : a ≠ .call (.unregister id)) :
    c.Continues (c.act a) id r.status (c.applied id a) := by
  obtain ⟨op, rfl, -, made⟩ | ⟨op, rfl, -, still⟩ | timed := c.act_kinds a
  · exact call_keeps made there fun same => lasts (congrArg Act.call same)
  · rw [still]
    exact (Untouched.refl c).keeps id
  · have rest := c.endedBy_untouched timed
    rw [applied]
    cases found : c.ending? a with
    | none =>
      rw [found] at rest
      exact rest.keeps id
    | some e =>
      rw [found] at rest
      rw [Option.bind_some]
      split
      case isTrue same =>
        subst same
        rw [there]
        exact (ended_takes attached there).trans (rest.keeps e.id)
      case isFalse differ => exact (ended_keeps attached differ).trans (rest.keeps id)

theorem listener_ended (attached : c.mesh.Attached) (e : Ending) :
    (c.ended e).listener = c.listener := by
  rcases mesh_ended_cases attached e with ⟨-, vacated⟩ | ⟨r, -, -, checked⟩
  · rw [listener, vacated]
    exact congrArg Notifier.healthListener (probed_notifier c.timeline e.probe)
  · rw [listener, checked, Mesh.notifier_checked, probed_notifier, Notifier.statusChanged]
    split
    · rfl
    · split <;> rfl

theorem listener_act (attached : c.mesh.Attached) {a : Act}
    (kept : ∀ l, a ≠ .call (.listenHealth l)) : (c.act a).listener = c.listener := by
  obtain ⟨op, rfl, -, made⟩ | ⟨op, rfl, -, still⟩ | timed := c.act_kinds a
  · exact listener_call made fun l same => kept l (congrArg Act.call same)
  · rw [still]
  · have rest := c.endedBy_untouched timed
    have same : (c.act a).listener = (c.endedBy (c.ending? a)).listener :=
      congrArg Notifier.healthListener rest.notices
    rw [same]
    cases c.ending? a with
    | none => rfl
    | some e => exact listener_ended attached e

/-! ## Runs -/

theorem status?_eq_some_iff {s : Status} :
    c.status? id = some s ↔ ∃ r, c.mesh.store.find? id = some r ∧ r.status = s :=
  Option.map_eq_some_iff

/-- After any acts the status of an instance is that of the latest check, and its history has
grown by all checks. -/
theorem acted_status_checks (attached : c.mesh.Attached) {s : Status}
    (known : c.status? id = some s) {acts : List Act}
    (lasts : ∀ a ∈ acts, a ≠ .call (.unregister id)) :
    (c.acted acts).status? id = some (((c.appliedBy id acts).map Check.status).getLastD s) ∧
    (c.acted acts).checks id = (c.appliedBy id acts).foldl History.push (c.checks id) := by
  induction acts generalizing c s with
  | nil => exact ⟨known, rfl⟩
  | cons a rest ih =>
    obtain ⟨first, others⟩ := List.forall_mem_cons.mp lasts
    obtain ⟨r, there, rfl⟩ := status?_eq_some_iff.mp known
    have step := act_continues attached there first
    have next := attached_act attached a
    rw [acted_cons, appliedBy]
    cases took : c.applied id a with
    | none =>
      rw [took] at step
      rw [← step.checks]
      exact ih next (step.status.trans known) others
    | some k =>
      rw [took] at step
      rw [Option.toList_some, List.singleton_append, List.map_cons, List.getLastD_cons,
        List.foldl_cons, ← step.checks]
      exact ih next step.status others

/-- After any acts that leave the health subscriber in place, it was told of the changes of
status along the checks. -/
theorem acted_told (attached : c.mesh.Attached) {s : Status} (known : c.status? id = some s)
    {l : String} (heard : c.listener = some l) {acts : List Act}
    (lasts : ∀ a ∈ acts, a ≠ .call (.unregister id))
    (kept : ∀ a ∈ acts, ∀ other, a ≠ .call (.listenHealth other)) :
    (c.acted acts).told id = c.told id ++
      (Status.changes (s :: (c.appliedBy id acts).map Check.status)).map
        fun p => (l, { id, previous := p.1, current := p.2 }) := by
  induction acts generalizing c s with
  | nil => exact (List.append_nil _).symm
  | cons a rest ih =>
    obtain ⟨first, others⟩ := List.forall_mem_cons.mp lasts
    obtain ⟨quiet, silent⟩ := List.forall_mem_cons.mp kept
    obtain ⟨r, there, rfl⟩ := status?_eq_some_iff.mp known
    have step := act_continues attached there first
    have next := attached_act attached a
    have still : (c.act a).listener = some l := (listener_act attached quiet).trans heard
    rw [acted_cons, appliedBy]
    cases took : c.applied id a with
    | none =>
      rw [took] at step
      rw [← step.told]
      exact ih next (step.status.trans known) still others silent
    | some k =>
      rw [took] at step
      rw [ih next step.status still others silent, step.told, notice, heard, List.append_assoc]
      change _ = c.told id ++ (Status.changes (r.status :: k.status ::
        ((c.act a).appliedBy id rest).map Check.status)).map _
      rw [Status.changes_cons_cons, List.map_append]
      split <;> rfl

/-! ## Registrations -/

theorem initialStatus_changes (chain : Changes c next) : next.initialStatus = c.initialStatus := by
  have step : ∀ middle last, Change middle last → middle.initialStatus = c.initialStatus →
      last.initialStatus = c.initialStatus := by
    intro middle last change same
    cases change with
    | call made => cases made <;> exact same
    | beat => exact same
  exact changes_preserve step chain rfl

/-- A registration begins with the initial status and without checks. -/
theorem status?_register {r : Record} (registered : (c.register r).1 = .ok ()) :
    (c.register r).2.status? r.id = some c.initialStatus := by
  rcases c.register_eq r with ⟨e, refused⟩ | ⟨valid, free, added⟩
  · rw [refused] at registered
    cases registered
  · rw [added]
    have listed : (c.mesh.store.register { r with status := c.initialStatus }).2.find? r.id =
        some { r with status := c.initialStatus } :=
      Store.find?_register_self (Store.register_ok valid free)
    exact congrArg (Option.map Record.status) listed

theorem history_of_status? (attached : c.mesh.Attached) {s : Status}
    (known : c.status? id = some s) :
    c.mesh.monitor.history c.mesh.store id = .ok (c.checks id).summary := by
  obtain ⟨r, there, -⟩ := status?_eq_some_iff.mp known
  obtain ⟨l, represents⟩ := attached.store
  obtain ⟨-, same⟩ := attached.find?_eq_some there
  have written := (represents.written (represents.mem_iff.mp (same.symm ▸ there))).2
  rw [same] at written
  have contains : c.mesh.store.contains id = true := Option.isSome_of_eq_some there
  rw [Monitor.history, Failure.requireText_of_written _ written, contains]
  rfl

/-- The three places tell one story. Let an id be registered and then let any acts happen
that do not end the registration. The status is that of the latest check applied to the id
since then, or the initial one without any. The history holds the latest hundred of these
checks, oldest first. A subscriber that was there all the time was told of the changes along
the initial status and those of the checks, in this order and each once; each of them begins
where the one before ended and leads to another status. -/
theorem one_story (config : Config) (before since : List Act) (r : Record)
    (registered : (((fresh config).acted before).register r).1 = .ok ())
    (lasts : ∀ a ∈ since, a ≠ .call (.unregister r.id)) :
    let new := (((fresh config).acted before).register r).2
    let later := new.acted since
    let checks := new.appliedBy r.id since
    let initial := config.registry.initialStatus
    let changes := Status.changes (initial :: checks.map Check.status)
    later.status? r.id = some ((checks.map Check.status).getLastD initial) ∧
    (∃ summary, later.mesh.monitor.history later.mesh.store r.id = .ok summary ∧
      summary.checks = checks.drop (checks.length - 100)) ∧
    (∀ l, new.listener = some l →
      (∀ a ∈ since, ∀ other, a ≠ .call (.listenHealth other)) →
      later.told r.id = new.told r.id ++
        changes.map fun p => (l, { id := r.id, previous := p.1, current := p.2 })) ∧
    changes.IsChain (fun p q => p.2 = q.1) ∧ ∀ p ∈ changes, p.1 ≠ p.2 := by
  intro new later checks initial changes
  have earlier : ((fresh config).acted before).mesh.Attached :=
    attached_acted (attached_fresh config) before
  have attached : new.mesh.Attached :=
    attached_changes (.single (.call (Coordinator.register_call _ r))) earlier
  have known : new.status? r.id = some initial := by
    rw [status?_register registered, initialStatus_changes (acted_changes (fresh config) before)]
    rfl
  have empty : new.checks r.id = {} :=
    congrArg History.mk (new_of_register earlier registered).unchecked
  obtain ⟨status, grown⟩ := acted_status_checks attached known lasts
  refine ⟨status, ⟨_, history_of_status? (attached_acted attached since) status, ?_⟩, ?_,
    Status.isChain_changes _, fun p => Status.ne_of_mem_changes⟩
  · rw [grown, empty]
    exact History.checks_foldl_push checks
  · exact fun l heard kept => acted_told attached known heard lasts kept

/-- An instance that fails once and then answers again, as the watcher sees it. -/
def outage : List Act :=
  [.call (.watch "a" none), .call .start, .loop "a", .loop "a", .call .stop,
    .finish "a" ⟨0, 1, false⟩ {}, .call .start, .finish "a" ⟨1, 2, false⟩ {}]

/-- A probe of a loop makes the instance unhealthy, and two checks by hand make it healthy
again, with the node stopped and started in between. -/
theorem one_story_of_outage :
    let r : Record := { serviceName := "svc", id := "a", endpoint := "127.0.0.1", port := 8080 }
    let before : List Act :=
      [.call (.listenHealth (some "watcher")),
        .call (.setTarget "a" fun t => { t with outcomes := [.down, .up, .up] })]
    let new := (((fresh impatient).acted before).register r).2
    (((fresh impatient).acted before).register r).1 = .ok () ∧
    (∀ a ∈ outage, a ≠ .call (.unregister "a")) ∧
    (new.appliedBy "a" outage).map Check.status = [.unhealthy, .unhealthy, .healthy] ∧
    (new.acted outage).status? "a" = some .healthy ∧
    (new.acted outage).told "a" =
      [("watcher", { id := "a", previous := .healthy, current := .unhealthy }),
        ("watcher", { id := "a", previous := .unhealthy, current := .healthy })] := by
  intro r before new
  have registered : (((fresh impatient).acted before).register r).1 = .ok () := by decide +kernel
  have lasts : ∀ a ∈ outage, a ≠ .call (.unregister r.id) := by simp [outage]
  have kept : ∀ a ∈ outage, ∀ other, a ≠ .call (.listenHealth other) := by simp [outage]
  have line : (new.appliedBy "a" outage).map Check.status = [.unhealthy, .unhealthy, .healthy] := by
    decide +kernel
  have heard : new.listener = some "watcher" := by decide +kernel
  have untold : new.told "a" = [] := by decide +kernel
  obtain ⟨status, -, told, -⟩ := one_story impatient before outage r registered lasts
  refine ⟨registered, lasts, line, status.trans ?_, (told "watcher" heard kept).trans ?_⟩
  · change some (((new.appliedBy "a" outage).map Check.status).getLastD _) = _
    rw [line]
    rfl
  · change new.told "a" ++ (Status.changes (_ :: (new.appliedBy "a" outage).map Check.status)).map
      _ = _
    rw [untold, line]
    decide +kernel

end Coordinator

end ServiceMesh
