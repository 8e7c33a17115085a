import ServiceMesh.Coordinator.Operation

/-!
# Events

A run lets the loops and the spawned checks do what is next at the moments of a schedule.
What holds of a node should not rest on the schedule, so an event is either an operation,
or the passing of time in which nobody does anything, or one step of a loop or of a
spawned check at any moment whatever. Every run is a history of events.
-/

namespace ServiceMesh

/-- Let the spawned check with a number do what is next. -/
def Timeline.stepCheck (t : Timeline) (serial : Nat) : Timeline :=
  match t.spawned.find? fun k => k.serial == serial with
  | none => t
  | some k => t.stepSpawned k

/-- Something that happens to a node, at any moment and in any order. -/
inductive Event where
  | operation (op : Operation)
  /-- time passes on the clock of the probes -/
  | pass (ms : Nat)
  /-- the loop of an id does what is next -/
  | loop (id : String)
  /-- the spawned check with a number does what is next -/
  | check (serial : Nat)

namespace Coordinator

/-- Let an event happen. -/
def occur (c : Coordinator) : Event → Coordinator
  | .operation op => (c.perform op).2
  | .pass ms => { c with timeline := { c.timeline with now := c.timeline.now + ms } }
  | .loop id => { c with timeline := c.timeline.stepLoop id }
  | .check serial => { c with timeline := c.timeline.stepCheck serial }

/-- The node after events that happen one after the other. -/
def after (c : Coordinator) (events : List Event) : Coordinator := events.foldl occur c

@[simp] theorem after_nil (c : Coordinator) : c.after [] = c := rfl

@[simp] theorem after_cons (c : Coordinator) (e : Event) (events : List Event) :
    c.after (e :: events) = (c.occur e).after events := rfl

/-- A run is a history in which only operations happen. -/
theorem run_eq_after (c : Coordinator) (ops : List Operation) :
    c.run ops = c.after (ops.map .operation) := by
  induction ops generalizing c with
  | nil => rfl
  | cons op rest ih => rw [run_cons, List.map_cons, after_cons, ih, occur]

end Coordinator

end ServiceMesh
