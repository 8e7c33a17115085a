import ServiceMesh.Proofs.Coordinator.Attached

/-!
# Checks of instances that are gone

A probe may come to its end when its instance has been removed and nothing is known of it any more.
If its loop goes on, the end of the probe leaves the parts of the node as they are: the slot that it
makes is taken away again. If its loop was ended meanwhile, the slot stays. It is empty, nobody who
asks can see it, and it lasts until the id is forgotten again.
-/

namespace ServiceMesh

namespace Mesh

variable {m : Mesh} {id : String}

/-- An id of which nothing is known: it is not registered and has no slot. -/
structure Vanished (m : Mesh) (id : String) : Prop where
  unregistered : m.store.contains id = false
  unslotted : m.monitor.slots[id]? = none

/-- The parts of a node with an empty slot for an id. -/
def littered (m : Mesh) (id : String) : Mesh :=
  { m with monitor := { m.monitor with slots := m.monitor.slots.insert id {} } }

namespace Vanished

theorem get_eq_error (gone : m.Vanished id) :
    m.store.get id =
      .error (if Text.isBlank id then .blank "service_id" else .unknownId id) := by
  have absent : m.store.find? id = none :=
    Option.isNone_iff_eq_none.mp (Option.isSome_eq_false_iff.mp gone.unregistered)
  unfold Store.get
  cases blank : Text.isBlank id with
  | true =>
    rw [Failure.requireText_of_blank _ blank]
    rfl
  | false =>
    rw [Failure.requireText_of_written _ blank, absent]
    rfl

/-- The slot that a check makes is taken away again. -/
theorem vacated_eq (gone : m.Vanished id) : m.vacated id = m := by
  rw [vacated, Table.erase_of_absent gone.unslotted]

theorem withSlot_eq (gone : m.Vanished id) :
    { m with monitor := m.monitor.withSlot id } = m.littered id := by
  rw [Monitor.withSlot, Monitor.slot, gone.unslotted]
  rfl

/-- Whoever reads a slot reads an empty one where there is none. -/
theorem slot_littered (gone : m.Vanished id) (other : String) :
    (m.littered id).monitor.slot other = m.monitor.slot other := by
  show ((m.monitor.slots.insert id {})[other]?).getD {} = _
  by_cases same : id = other
  · subst same
    rw [Table.getElem?_insert_self, Monitor.slot, gone.unslotted]
    rfl
  · rw [Table.getElem?_insert_ne _ same, Monitor.slot]

/-- A slot without a record adds nothing to the statuses. -/
theorem statuses_littered (gone : m.Vanished id) :
    (m.littered id).monitor.statuses m.store = m.monitor.statuses m.store := by
  -- A watched id that is not registered is left out for its record, whether it has a slot or not.
  refine List.filterMap_congr fun other _ => ?_
  by_cases same : id = other
  · subst same
    rw [gone.get_eq_error]
    exact (ite_self _).trans (ite_self _).symm
  · have kept : (m.littered id).monitor.slots.contains other = m.monitor.slots.contains other := by
      rw [Std.ExtTreeMap.contains_eq_isSome_getElem?, Std.ExtTreeMap.contains_eq_isSome_getElem?]
      exact congrArg Option.isSome (Table.getElem?_insert_ne _ same _)
    rw [kept]

theorem history_littered (gone : m.Vanished id) (other : String) :
    (m.littered id).monitor.history m.store other = m.monitor.history m.store other := by
  unfold Monitor.history
  rw [gone.slot_littered]

end Vanished

/-- A check of an instance that is gone is refused and changes nothing, if its loop goes on. If its
loop was ended meanwhile it is not refused, and it leaves an empty slot behind; that is all that it
changes. The slot is seen in no history and in no status, another such check leaves it as it is, and
it is gone when the id is forgotten. -/
theorem check_of_vanished (m : Mesh) (id : String) (gone : m.Vanished id) (outcome : Outcome)
    (time : Option Duration) (config : HealthConfig) :
    m.applyCheck id outcome time config false =
      (.error (if Text.isBlank id then .blank "service_id" else .unknownId id), m) ∧
    m.applyCheck id outcome time config true = (.ok none, m.littered id) ∧
    (∀ other, (m.littered id).monitor.slot other = m.monitor.slot other ∧
      (m.littered id).monitor.history (m.littered id).store other =
        m.monitor.history m.store other) ∧
    (m.littered id).monitor.statuses (m.littered id).store = m.monitor.statuses m.store ∧
    ((m.littered id).applyCheck id outcome time config true).2 = m.littered id ∧
    (m.littered id).vacated id = m := by
  refine ⟨?_, ?_, fun other => ⟨gone.slot_littered other, gone.history_littered other⟩,
    gone.statuses_littered, ?_, ?_⟩
  · have refused := gone.get_eq_error
    have same : { m with monitor := { m.monitor with slots := m.monitor.slots.erase id } } = m :=
      gone.vacated_eq
    simp only [applyCheck, refused, same]
    rfl
  · rw [applyCheck, if_pos rfl, gone.withSlot_eq]
  · have empty : (m.littered id).monitor.slot id = {} := by
      rw [gone.slot_littered, Monitor.slot, gone.unslotted]
      rfl
    rw [applyCheck, if_pos rfl, Monitor.withSlot, empty]
    show { m with monitor := { m.monitor with
      slots := (m.monitor.slots.insert id {}).insert id {} } } = _
    rw [Table.insert_insert, littered]
  · show { m with monitor := { m.monitor with slots := (m.monitor.slots.insert id {}).erase id } }
      = m
    rw [Table.erase_insert_of_absent gone.unslotted]

/-- An instance is registered, watched and removed, and a probe of its loop ends after that. -/
theorem late_check_litters :
    let r : Record := { serviceName := "svc", id := "a", endpoint := "127.0.0.1", port := 8080 }
    let c := (Coordinator.fresh {}).run [.register r, .watch "a" none, .start, .unregister "a"]
    let next := (c.mesh.applyCheck "a" .up (some (Duration.ofMillis 1)) {} true).2
    c.mesh.Vanished "a" ∧ c.mesh.monitor.slots.keys = [] ∧ next.monitor.slots.keys = ["a"] :=
  ⟨⟨by decide +kernel, by decide +kernel⟩, by decide +kernel, by decide +kernel⟩

end Mesh

end ServiceMesh
