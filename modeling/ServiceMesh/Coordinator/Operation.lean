import ServiceMesh.Coordinator.Basic

/-!
# Operations

Everything that can happen to a node is an operation: what its callers ask of it, what
the instances do with their probes, and the passing of time. A run performs operations
one after the other, so what holds of every run holds of every history of the node.
-/

namespace ServiceMesh

/-- Something that happens to a node. -/
inductive Operation where
  | register (record : Record)
  | unregister (id : String)
  | setMetadata (id : String) (metadata : Json)
  /-- watch an instance; without a configuration, with the default one -/
  | watch (id : String) (config : Option HealthConfig)
  | unwatch (id : String)
  /-- check an instance and wait for the answer -/
  | check (id : String)
  /-- begin to check an instance without waiting -/
  | spawn (handle id : String)
  /-- wait for the check that was begun under a handle -/
  | join (handle : String)
  | select (name : String) (client : Option String) (draw : UInt64)
  | report (id : String) (time : Duration) (success : Bool)
  | readBreaker (id : String)
  | resetBreaker (id : String)
  | configure (health : Option HealthConfig) (balancer : Option BalancerConfig)
  | start
  /-- start where nothing could run the loops -/
  | startOutside
  | stop
  /-- replace the health subscriber -/
  | listenHealth (listener : Option String)
  /-- replace the service subscriber -/
  | listenServices (listener : Option String)
  /-- change what the probes of an id meet -/
  | setTarget (id : String) (change : Target → Target)
  /-- wait on the clock of the probes -/
  | advance (ms : Nat)
  /-- move the clock of the breakers -/
  | wait (ms : Nat)

/-- What an operation gives back. -/
inductive Answer where
  | done
  | record (record : Record)
  | status (status : Status)
  | breaker (status : BreakerStatus)
  | refused (failure : Failure)
  /-- no check was begun under the handle -/
  | unknownHandle

namespace Coordinator

/-- The answer of an operation that gives back nothing and changes nothing when it is
refused. -/
def settle (c : Coordinator) : Except Failure Coordinator → Answer × Coordinator
  | .ok next => (.done, next)
  | .error e => (.refused e, c)

/-- The answer that holds the result of an operation. -/
def answerOf (answer : α → Answer) : Except Failure α → Answer
  | .ok value => answer value
  | .error e => .refused e

/-- Change the subscribers. -/
def setNotifier (c : Coordinator) (change : Notifier → Notifier) : Coordinator :=
  c.setMesh { c.mesh with notifier := change c.mesh.notifier }

/-- Let an operation happen. -/
def perform (c : Coordinator) : Operation → Answer × Coordinator
  | .register r =>
    let (result, next) := c.register r
    (answerOf (fun _ => .done) result, next)
  | .unregister id =>
    let (result, next) := c.unregister id
    (answerOf .record result, next)
  | .setMetadata id metadata => c.settle (c.setMetadata id metadata)
  | .watch id config => c.settle (c.watch id config)
  | .unwatch id => c.settle (c.unwatch id)
  | .check id =>
    let (result, timeline) := c.timeline.check id
    (answerOf .status result, { c with timeline })
  | .spawn handle id => (.done, { c with timeline := c.timeline.spawn handle id })
  | .join handle =>
    let (result, timeline) := c.timeline.join handle
    ((result.map (answerOf .status)).getD .unknownHandle, { c with timeline })
  | .select name client draw =>
    let (result, next) := c.select name client draw
    (answerOf .record result, next)
  | .report id time success =>
    let (result, next) := c.report id time success
    (answerOf (fun _ => .done) result, next)
  | .readBreaker id =>
    match c.breakerStatus id with
    | .ok (status, next) => (.breaker status, next)
    | .error e => (.refused e, c)
  | .resetBreaker id => c.settle (c.resetBreaker id)
  | .configure health balancer =>
    let (result, next) := c.configure health balancer
    (answerOf (fun _ => .done) result, next)
  | .start => (.done, c.start)
  | .startOutside => (.refused noRuntime, c)
  | .stop => (.done, c.stop)
  | .listenHealth listener =>
    (.done, c.setNotifier fun n => { n with healthListener := listener })
  | .listenServices listener =>
    (.done, c.setNotifier fun n => { n with serviceListener := listener })
  | .setTarget id change => (.done, { c with timeline := c.timeline.setTarget id change })
  | .advance ms => (.done, { c with timeline := c.timeline.advance ms })
  | .wait ms => (.done, { c with timeline := c.timeline.wait ms })

/-- Let operations happen one after the other. -/
def run (c : Coordinator) (ops : List Operation) : Coordinator :=
  ops.foldl (fun c op => (c.perform op).2) c

/-- The answers of operations that happen one after the other. -/
def answers (c : Coordinator) : List Operation → List Answer
  | [] => []
  | op :: rest => (c.perform op).1 :: (c.perform op).2.answers rest

@[simp] theorem run_nil (c : Coordinator) : c.run [] = c := rfl

@[simp] theorem run_cons (c : Coordinator) (op : Operation) (ops : List Operation) :
    c.run (op :: ops) = (c.perform op).2.run ops := rfl

theorem run_append (c : Coordinator) (first second : List Operation) :
    c.run (first ++ second) = (c.run first).run second := by
  simp [run, List.foldl_append]

end Coordinator

end ServiceMesh
