import ServiceMesh.Proofs.Coordinator.Loops

/-!
# Probes and registrations

A probe takes time, and the instance that it was begun for may be removed and registered
anew before it ends. A loop ends with the registration that it was begun in, and what it
still finds is thrown away. A check that was begun by hand is not ended: what it finds is
applied to the registration that is there when it ends, if there is one.
-/

namespace ServiceMesh

namespace Coordinator

variable {c : Coordinator} {id : String}

/-- No record, tracker or history is another one, and nobody was told of a change. -/
structure Untouched (c next : Coordinator) : Prop where
  records : next.mesh.store = c.mesh.store
  slots : ∀ id, next.mesh.monitor.slot id = c.mesh.monitor.slot id
  notices : next.mesh.notifier = c.mesh.notifier

/-- A probe of a loop that was ended in the meantime comes to its end. -/
def late (c : Coordinator) (id : String) (outcome : Outcome) (time : Option Duration)
    (config : HealthConfig) : Coordinator :=
  c.setMesh (c.mesh.applyCheck id outcome time config true).2

/-! ## Loops -/

theorem late_untouched (c : Coordinator) (id : String) (outcome : Outcome)
    (time : Option Duration) (config : HealthConfig) :
    c.Untouched (c.late id outcome time config) := by
  refine ⟨rfl, fun other => ?_, rfl⟩
  change ((c.mesh.monitor.slots.insert id (c.mesh.monitor.slot id))[other]?).getD {} = _
  by_cases same : id = other
  · subst same
    rw [Table.getElem?_insert_self, Option.getD_some]
  · rw [Table.getElem?_insert_ne _ same, Monitor.slot]

/-- Every loop has a number that was given. -/
theorem serial_lt_begun_of_changes {config : Config} (changes : Changes (fresh config) c)
    {l : Loop} (live : c.mesh.monitor.loop? id = some l) : l.serial < c.mesh.monitor.begun := by
  rcases (ages_changes changes (attached_fresh config)).loops id l live with
    ⟨old, there, -⟩ | ⟨-, before⟩
  · exact nomatch there
  · exact before

theorem serial_lt_begun (config : Config) (events : List Event) {l : Loop}
    (live : ((fresh config).after events).mesh.monitor.loop? id = some l) :
    l.serial < ((fresh config).after events).mesh.monitor.begun :=
  serial_lt_begun_of_changes (after_changes _ events) live

/-- After a removal, or an attempt to remove what is not there, an id has no loop. -/
theorem loop?_unregister (attached : c.mesh.Attached) (id : String) :
    (c.unregister id).2.mesh.monitor.loop? id = none := by
  rcases c.unregister_eq id with ⟨e, refused⟩ | ⟨r, -, removed⟩
  · rw [refused]
    cases live : c.mesh.monitor.loop? id with
    | none => rfl
    | some l =>
      obtain ⟨w, there, -⟩ := Monitor.loop?_eq_some_iff.mp live
      have watched : c.mesh.monitor.isWatched id = true := Option.isSome_of_eq_some there
      have registered := attached.monitor.slotted id (attached.monitor.watched id watched)
      obtain ⟨r, removed⟩ := unregister_of_contains attached registered
      exact nomatch (congrArg Prod.fst refused).symm.trans (congrArg Prod.fst removed)
  · rw [removed]
    change Option.bind (((c.mesh.monitor.endLoop id).watches.erase id)[id]?) Watch.loop = none
    rw [Table.getElem?_erase_self, Option.bind_none]

/-! ## Checks that were begun by hand -/

/-- What the end of a check does to the instance that is registered then. -/
structure Lands (c next : Coordinator) (r : Record) (outcome : Outcome) (time : Option Duration)
    (config : HealthConfig) : Prop where
  record : next.mesh.store.find? r.id = some { r with
    status := (c.mesh.verdict r outcome config).1
    lastResponse := (time.map .measured).or r.lastResponse }
  tracker : (next.mesh.monitor.slot r.id).tracker = (c.mesh.verdict r outcome config).2
  history : (next.mesh.monitor.slot r.id).history = (c.mesh.monitor.slot r.id).history.push
    { outcome, status := (c.mesh.verdict r outcome config).1, time }
  notices : next.mesh.notifier =
    if (c.mesh.verdict r outcome config).1 = r.status then c.mesh.notifier
    else c.mesh.notifier.statusChanged
      { id := r.id, previous := r.status, current := (c.mesh.verdict r outcome config).1 }

/-- A probe that is at its end. -/
structure Ending where
  id : String
  probe : Probe
  config : HealthConfig

/-- The node when a probe has ended and nothing else has happened. -/
def ended (c : Coordinator) (e : Ending) : Coordinator :=
  { c with timeline := (c.timeline.endProbe e.id e.probe e.config).2 }

/-- What a probe that is at its end finds. -/
def finding (c : Coordinator) (e : Ending) : Outcome × Option Duration :=
  c.timeline.finding e.id e.probe

theorem attached_probed (attached : c.mesh.Attached) (probe : Probe) :
    (c.timeline.probed probe).Attached := by
  unfold Timeline.probed
  split
  · exact attached.setMonitor ⟨attached.monitor.watched, attached.monitor.slotted⟩
  · exact attached

theorem probed_store (t : Timeline) (probe : Probe) : (t.probed probe).store = t.mesh.store := by
  unfold Timeline.probed
  split <;> rfl

theorem probed_notifier (t : Timeline) (probe : Probe) :
    (t.probed probe).notifier = t.mesh.notifier := by
  unfold Timeline.probed
  split <;> rfl

theorem probed_slots (t : Timeline) (probe : Probe) :
    (t.probed probe).monitor.slots = t.mesh.monitor.slots := by
  unfold Timeline.probed
  split <;> rfl

theorem probed_slot (t : Timeline) (probe : Probe) (id : String) :
    (t.probed probe).monitor.slot id = t.mesh.monitor.slot id := by
  rw [Monitor.slot, probed_slots, Monitor.slot]

theorem probed_verdict (t : Timeline) (probe : Probe) (r : Record) (outcome : Outcome)
    (config : HealthConfig) :
    (t.probed probe).verdict r outcome config = t.mesh.verdict r outcome config := by
  rw [Mesh.verdict, probed_slot, Mesh.verdict]

/-- A probe that ends when its instance is gone only takes the slot away. Otherwise it is
applied to the instance that has the id by then. -/
theorem mesh_ended_cases (attached : c.mesh.Attached) (e : Ending) :
    (c.mesh.store.find? e.id = none ∧
      (c.ended e).mesh = (c.timeline.probed e.probe).vacated e.id) ∨
    ∃ r, c.mesh.store.find? e.id = some r ∧ r.id = e.id ∧
      (c.ended e).mesh =
        (c.timeline.probed e.probe).checked r (c.finding e).1 (c.finding e).2 e.config := by
  have store : (c.timeline.probed e.probe).store = c.mesh.store := probed_store c.timeline e.probe
  have applies : (c.ended e).mesh = ((c.timeline.probed e.probe).applyCheck e.id
      (c.finding e).1 (c.finding e).2 e.config false).2 :=
    c.timeline.mesh_endProbe e.id e.probe e.config
  rw [applies]
  rcases (attached_probed attached e.probe).applyCheck_eq e.id (c.finding e).1 (c.finding e).2
      e.config with
    ⟨gone, failure, -, refused⟩ | ⟨r, there, same, applied⟩
  · rw [store, Store.contains, Option.isSome_eq_false_iff, Option.isNone_iff_eq_none] at gone
    exact .inl ⟨gone, by rw [refused]⟩
  · rw [store] at there
    exact .inr ⟨r, there, same, by rw [applied]⟩

/-- The end of a probe neither registers nor removes anyone. -/
theorem contains_ended (attached : c.mesh.Attached) (e : Ending) (other : String) :
    (c.ended e).mesh.store.contains other = c.mesh.store.contains other := by
  rcases mesh_ended_cases attached e with ⟨-, vacated⟩ | ⟨r, there, same, checked⟩
  · rw [vacated]
    exact congrArg (fun store : Store => store.contains other) (probed_store c.timeline e.probe)
  · rw [checked, Store.contains]
    have seen : (c.timeline.probed e.probe).store.find? other = c.mesh.store.find? other := by
      rw [probed_store]
      rfl
    by_cases self : r.id = other
    · subst self
      have found : (c.timeline.probed e.probe).store.find? r.id = some r := by
        rw [seen, same, there]
      rw [Mesh.find?_checked _ _ _ _ found, Store.contains, same, there, Option.isSome_some,
        Option.isSome_some]
    · rw [Mesh.find?_checked_ne _ _ _ _ _ self, seen, Store.contains]

/-- The slot of an id that is gone is not there to be taken away. -/
theorem slot_vacated (attached : c.mesh.Attached) {gone : String}
    (absent : c.mesh.store.find? gone = none) (probe : Probe) (id : String) :
    ((c.timeline.probed probe).vacated gone).monitor.slot id = c.mesh.monitor.slot id := by
  change (((c.timeline.probed probe).monitor.slots.erase gone)[id]?).getD {} = _
  rw [probed_slots]
  by_cases same : gone = id
  · subst same
    have unregistered : c.mesh.store.contains gone = false := by
      rw [Store.contains, absent, Option.isSome_none]
    rw [Table.getElem?_erase_self, Monitor.slot, attached.monitor.slots_eq_none unregistered]
  · rw [Table.getElem?_erase_ne _ same]
    rfl

/-- A probe that ends when its instance is gone is thrown away. -/
theorem ended_untouched (attached : c.mesh.Attached) {e : Ending}
    (gone : c.mesh.store.find? e.id = none) : c.Untouched (c.ended e) := by
  rcases mesh_ended_cases attached e with ⟨absent, vacated⟩ | ⟨r, there, -⟩
  · constructor
    · rw [vacated]
      exact probed_store c.timeline e.probe
    · intro other
      rw [vacated]
      exact slot_vacated attached absent e.probe other
    · rw [vacated]
      exact probed_notifier c.timeline e.probe
  · exact nomatch gone.symm.trans there

/-- A probe that ends when its id is registered is applied to that registration. -/
theorem ended_lands (attached : c.mesh.Attached) {e : Ending} {r : Record}
    (there : c.mesh.store.find? e.id = some r) :
    c.Lands (c.ended e) r (c.finding e).1 (c.finding e).2 e.config := by
  rcases mesh_ended_cases attached e with ⟨absent, -⟩ | ⟨r', seen, same, checked⟩
  · exact nomatch there.symm.trans absent
  · have known : r' = r := Option.some.inj (seen.symm.trans there)
    subst known
    have listed : (c.timeline.probed e.probe).store.find? r'.id = some r' := by
      rw [probed_store, same]
      exact seen
    constructor
    · have turned := Mesh.find?_checked (c.timeline.probed e.probe) (c.finding e).1
        (c.finding e).2 e.config listed
      rw [probed_verdict] at turned
      rw [checked]
      exact turned
    · rw [checked, Mesh.slot_checked, Mesh.checkedSlot, probed_verdict]
      rfl
    · rw [checked, Mesh.slot_checked, Mesh.checkedSlot, probed_verdict, probed_slot]
      rfl
    · rw [checked, Mesh.notifier_checked, probed_verdict, probed_notifier]
      rfl

/-- A spawned check that is probing ends by applying what it found. -/
theorem mesh_check {serial : Nat} {k : SpawnedCheck} {probe : Probe} {config : HealthConfig}
    (found : (c.timeline.spawned.find? fun k => k.serial == serial) = some k)
    (probing : k.phase = .probing probe config) :
    (c.occur (.check serial)).mesh = (c.ended ⟨k.id, probe, config⟩).mesh := by
  change (c.timeline.stepCheck serial).mesh = _
  unfold Timeline.stepCheck Timeline.stepSpawned
  simp only [found, probing]
  rfl

/-- A check that ends when its instance is gone is thrown away. -/
theorem check_untouched (attached : c.mesh.Attached) {serial : Nat} {k : SpawnedCheck}
    {probe : Probe} {config : HealthConfig}
    (found : (c.timeline.spawned.find? fun k => k.serial == serial) = some k)
    (probing : k.phase = .probing probe config) (gone : c.mesh.store.contains k.id = false) :
    c.Untouched (c.occur (.check serial)) := by
  rw [Store.contains, Option.isSome_eq_false_iff, Option.isNone_iff_eq_none] at gone
  obtain ⟨records, slots, notices⟩ :=
    ended_untouched attached (e := ⟨k.id, probe, config⟩) gone
  rw [← mesh_check found probing] at records slots notices
  exact ⟨records, slots, notices⟩

/-- A check that ends when its id is registered is applied to that registration, whichever
it was begun for. -/
theorem check_lands (attached : c.mesh.Attached) {serial : Nat} {k : SpawnedCheck}
    {probe : Probe} {config : HealthConfig}
    (found : (c.timeline.spawned.find? fun k => k.serial == serial) = some k)
    (probing : k.phase = .probing probe config) {r : Record}
    (there : c.mesh.store.find? k.id = some r) :
    ∃ outcome time, c.Lands (c.occur (.check serial)) r outcome time config := by
  obtain ⟨record, tracker, history, notices⟩ :=
    ended_lands attached (e := ⟨k.id, probe, config⟩) there
  rw [← mesh_check found probing] at record tracker history notices
  exact ⟨_, _, record, tracker, history, notices⟩

/-! ## Both kinds of probes -/

/-- Which probes stay within the registration that they were begun in. Let an id be removed
and let anything happen then, a new registration of the id included. The loops that the id
has are numbered after all that were begun before its removal, so a probe of an earlier
loop can only end late, and then nothing is touched. A check that was begun by hand
touches nothing if the id is not registered when it ends; if the id is registered by then,
the check lands on that registration. -/
theorem probe_stays_or_lands (config : Config) (before events : List Event) (id : String) :
    let c := (fresh config).after before
    let later := (c.unregister id).2.after events
    (∀ other l, c.mesh.monitor.loop? other = some l → l.serial < c.mesh.monitor.begun) ∧
    (∀ l, later.mesh.monitor.loop? id = some l → c.mesh.monitor.begun ≤ l.serial) ∧
    (∀ outcome time settings, later.Untouched (later.late id outcome time settings)) ∧
    ∀ serial k probe settings,
      (later.timeline.spawned.find? fun k => k.serial == serial) = some k → k.id = id →
      k.phase = .probing probe settings →
      (later.mesh.store.contains id = false → later.Untouched (later.occur (.check serial))) ∧
      ∀ r, later.mesh.store.find? id = some r →
        ∃ outcome time, later.Lands (later.occur (.check serial)) r outcome time settings := by
  intro c later
  have attached : c.mesh.Attached := attached_after config before
  have ended : (c.unregister id).2.mesh.Attached :=
    attached_changes (c.unregister_changes id) attached
  have attachedLater : later.mesh.Attached :=
    attached_changes (after_changes _ events) ended
  refine ⟨fun _ _ => serial_lt_begun config before, ?_, ?_, ?_⟩
  · intro l live
    have begun := (ages_changes (c.unregister_changes id) attached).begun
    have aged := ages_changes (after_changes _ events) ended
    rcases aged.loops id l live with ⟨old, there, -⟩ | ⟨since, -⟩
    · exact nomatch (loop?_unregister attached id).symm.trans there
    · exact begun.trans since
  · exact fun outcome time settings => later.late_untouched id outcome time settings
  · rintro serial k probe settings found rfl probing
    exact ⟨check_untouched attachedLater found probing,
      fun _ there => check_lands attachedLater found probing there⟩

/-- A configuration by which one failure makes an instance unhealthy. -/
def impatient : Config := { healthCheck := { maxFailures := 1 } }

/-- An instance is removed and registered anew while a check of it is under way. -/
def replaced : List Operation :=
  let r : Record := { serviceName := "svc", id := "a", endpoint := "127.0.0.1", port := 8080 }
  [.listenHealth (some "watcher"),
    .setTarget "a" fun t => { t with delay := 10, steady := some .down },
    .register r, .spawn "m" "a", .advance 5, .unregister "a", .register r]

/-- A check that was begun before the removal makes the new registration unhealthy, and the
watcher is told. No other probe was begun. -/
theorem check_crosses_registrations :
    let new := (fresh impatient).run replaced
    let later := new.run [.advance 100]
    (new.mesh.store.find? "a").map Record.status = some .healthy ∧
    (new.mesh.monitor.slot "a").history.checks.length = 0 ∧
    new.mesh.notifier.statusChanges = [] ∧
    (later.mesh.store.find? "a").map Record.status = some .unhealthy ∧
    (later.mesh.monitor.slot "a").history.checks.length = 1 ∧
    later.mesh.notifier.statusChanges =
      [("watcher", { id := "a", previous := .healthy, current := .unhealthy })] ∧
    (later.timeline.target "a").calls = 1 := by
  decide +kernel

end Coordinator

end ServiceMesh
