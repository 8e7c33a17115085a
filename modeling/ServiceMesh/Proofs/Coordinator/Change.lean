import Mathlib.Logic.Relation
import ServiceMesh.Proofs.Coordinator.Effect
import ServiceMesh.Proofs.Coordinator.Event

/-!
# Changes

However long an event takes, it changes a node by a few kinds of changes only. A beat is
what the passing of time, a loop or a check does to the parts of the node; a call is an
operation that takes no time, with its answer. Every event is a chain of beats and calls, so
what each of them preserves holds after every history.
-/

namespace ServiceMesh

open Relation (ReflTransGen)

/-! ## Beats -/

/-- What the passing of time does at once. -/
inductive Beat (t : Timeline) : Timeline → Prop
  /-- only clocks, targets and the phases of spawned checks change -/
  | aside {next : Timeline} (same : next.mesh = t.mesh) : Beat t next
  | setPhase (id : String) (phase : Phase) : Beat t (t.setPhase id phase)
  | abandon (id : String) : Beat t (t.abandon id)
  | count (result : CheckResult) : Beat t (t.setMonitor (t.mesh.monitor.countCheck result))
  | apply (id : String) (outcome : Outcome) (time : Option Duration) (config : HealthConfig) :
      Beat t { t with mesh := (t.mesh.applyCheck id outcome time config false).2 }

/-- A chain of beats. -/
abbrev Beats : Timeline → Timeline → Prop := ReflTransGen Beat

namespace Timeline

theorem beats_of_mesh_eq {t next : Timeline} (same : next.mesh = t.mesh) : Beats t next :=
  .single (.aside same)

/-- The parts of a node when a probe has ended. One that timed out is counted as such. -/
def probed (t : Timeline) (probe : Probe) : Mesh :=
  if probe.timedOut then
    { t.mesh with monitor := t.mesh.monitor.countCheck .timedOut }
  else t.mesh

/-- What a probe finds: its outcome, and its response time if it was answered. -/
def finding (t : Timeline) (id : String) (probe : Probe) : Outcome × Option Duration :=
  if probe.timedOut then (.down, none)
  else ((t.target id).answer.1, some (Duration.ofMillis (probe.ends - probe.started)))

theorem mesh_endProbe (t : Timeline) (id : String) (probe : Probe) (config : HealthConfig) :
    (t.endProbe id probe config).2.mesh =
      ((t.probed probe).applyCheck id (t.finding id probe).1 (t.finding id probe).2 config
        false).2 := by
  unfold endProbe probed finding
  split <;> rfl

/-- A probe that ends is answered with the status that it gives the instance, unless it timed
out. -/
theorem answer_endProbe (t : Timeline) (id : String) (probe : Probe) (config : HealthConfig) :
    (t.endProbe id probe config).1 =
      match ((t.probed probe).applyCheck id (t.finding id probe).1 (t.finding id probe).2 config
        false).1 with
      | .error e => .error e
      | .ok given =>
        if probe.timedOut then .error (.timeout config.timeout)
        else given.elim (.error (.internal "manual check was cancelled")) .ok := by
  unfold endProbe probed finding
  split
  case isTrue => rfl
  case isFalse =>
    simp only
    split
    case h_1 answered => rw [answered]
    case h_2 answered =>
      rw [answered]
      rfl
    case h_3 answered =>
      rw [answered]
      rfl

theorem endProbe_beats (t : Timeline) (id : String) (probe : Probe) (config : HealthConfig) :
    Beats t (t.endProbe id probe config).2 := by
  unfold endProbe
  split
  case isTrue =>
    exact .trans (.single (.count .timedOut)) (.single (.apply id .down none config))
  case isFalse =>
    have answered :
        Beats t { t with targets := t.targets.insert id (t.target id).answer.2 } :=
      beats_of_mesh_eq rfl
    exact answered.tail (.apply id (t.target id).answer.1
      (some (Duration.ofMillis (probe.ends - probe.started))) config)

theorem beginProbe_beats (t : Timeline) (id : String) (config : HealthConfig) :
    Beats t (t.beginProbe id config).2 :=
  beats_of_mesh_eq rfl

theorem tick_beats (t : Timeline) (id : String) (config : HealthConfig) (due : Nat) :
    Beats t (t.tick id config due) := by
  unfold tick
  split
  case isTrue => exact .tail (t.beginProbe_beats id config) (.setPhase id _)
  case isFalse => exact .single (.abandon id)

theorem stepLoop_beats (t : Timeline) (id : String) : Beats t (t.stepLoop id) := by
  unfold stepLoop
  split
  case h_1 config loop _ =>
    split
    case h_1 => exact t.tick_beats id config t.now
    case h_2 due _ => exact t.tick_beats id config due
    case h_3 probe due _ =>
      have ended := t.endProbe_beats id probe config
      split
      case h_1 h =>
        rw [h] at ended
        exact ended.tail (.setPhase id _)
      case h_2 h =>
        rw [h] at ended
        exact ended.tail (.setPhase id _)
      case h_3 h =>
        rw [h] at ended
        exact ended.tail (.abandon id)
  case h_2 => exact .refl

theorem stepSpawned_beats (t : Timeline) (k : SpawnedCheck) : Beats t (t.stepSpawned k) := by
  unfold stepSpawned
  split
  case h_1 =>
    split
    case h_1 => exact beats_of_mesh_eq rfl
    case h_2 config _ => exact beats_of_mesh_eq rfl
  case h_2 probe config _ =>
    exact .trans (t.endProbe_beats k.id probe config) (beats_of_mesh_eq rfl)
  case h_3 => exact .refl

theorem stepCheck_beats (t : Timeline) (serial : Nat) : Beats t (t.stepCheck serial) := by
  unfold stepCheck
  split
  · exact .refl
  · exact t.stepSpawned_beats _

/-- A job begins with the clock set to its moment. -/
theorem perform_beats (t : Timeline) (w : Wake) : Beats t (t.perform w) := by
  have moved : Beats t { t with now := max t.now w.time } := beats_of_mesh_eq rfl
  unfold perform
  split
  · exact moved.trans (stepLoop_beats _ _)
  · exact moved.trans (stepSpawned_beats _ _)

theorem runFor_beats (limit fuel : Nat) (t : Timeline) : Beats t (runFor limit fuel t) := by
  induction fuel generalizing t with
  | zero => exact .refl
  | succ fuel ih =>
    unfold runFor
    split
    · exact .refl
    · exact (t.perform_beats _).trans (ih _)

theorem run_beats (t : Timeline) (limit : Nat) : Beats t (t.run limit) :=
  runFor_beats limit (t.work limit) t

theorem advance_beats (t : Timeline) (ms : Nat) : Beats t (t.advance ms) := by
  unfold advance
  split
  · exact .refl
  · exact (t.run_beats _).trans (beats_of_mesh_eq rfl)

theorem check_beats (t : Timeline) (id : String) : Beats t (t.check id).2 := by
  unfold check
  split
  case h_1 => exact .refl
  case h_2 config _ =>
    have begun := t.beginProbe_beats id config
    exact (begun.trans (advance_beats _ _)).trans (endProbe_beats _ _ _ config)

theorem join_beats (t : Timeline) (handle : String) : Beats t (t.join handle).2 := by
  unfold join
  split
  · exact .refl
  · have first := t.run_beats (t.now + 1)
    simp only
    split
    · exact first.trans (run_beats _ _)
    · exact first

end Timeline

/-! ## Calls -/

/-- Whether an operation takes time. -/
def Operation.waits : Operation → Bool
  | .check _ | .join _ | .advance _ => true
  | _ => false

/-- Whether an event takes time, as everything does but an operation at once. -/
def Event.timed : Event → Bool
  | .operation op => op.waits
  | _ => true

theorem Event.eq_operation_of_timed {e : Event} (atOnce : e.timed = false) :
    ∃ op, op.waits = false ∧ e = .operation op := by
  cases e with
  | operation op => exact ⟨op, atOnce, rfl⟩
  | pass | loop | check => cases atOnce

/-- What an operation that takes no time does, with its answer. One that is refused does
nothing; a selection may be refused after it has looked at breakers. -/
inductive Call (c : Coordinator) : Operation → Answer → Coordinator → Prop
  | refused (op : Operation) (e : Failure) : Call c op (.refused e) c
  | register (r : Record) (valid : r.validate = .ok ())
      (free : c.mesh.store.contains r.id = false) :
      Call c (.register r) .done (c.setMesh (c.added r))
  | unregister {id : String} {r : Record} (done : (c.mesh.store.unregister id).1 = .ok r) :
      Call c (.unregister id) (.record r) (c.setMesh (c.removed id r))
  | setMetadata (id : String) (metadata : Json) :
      Call c (.setMetadata id metadata) .done (c.setMesh { c.mesh with
        store := c.mesh.store.modify id fun r => { r with metadata } })
  | watch {id : String} {config : Option HealthConfig} {monitor : Monitor}
      (done : c.mesh.monitor.watch c.mesh.store id (config.getD c.mesh.monitor.defaults) =
        .ok monitor) : Call c (.watch id config) .done (c.setMonitor monitor)
  | unwatch (id : String) : Call c (.unwatch id) .done (c.setMonitor (c.mesh.monitor.drop id))
  | spawn (handle id : String) :
      Call c (.spawn handle id) .done { c with timeline := c.timeline.spawn handle id }
  | select (name : String) (client : Option String) (draw : UInt64) :
      Call c (.select name client draw) (Coordinator.answerOf .record (c.select name client draw).1)
        (c.select name client draw).2
  | report {id : String} {r : Record} {time : Duration} {success : Bool} {state : BreakerState}
      {bank : Bank} (got : c.mesh.store.get id = .ok r)
      (counted : c.mesh.bank.report id success time c.timeline.moment = .ok (state, bank)) :
      Call c (.report id time success) .done (c.setMesh (c.mesh.reported r id time success bank))
  | readBreaker {id : String} {status : BreakerStatus} {bank : Bank}
      (done : c.mesh.bank.status id c.timeline.moment = .ok (status, bank)) :
      Call c (.readBreaker id) (.breaker status) (c.setMesh { c.mesh with bank })
  | resetBreaker {id : String} {bank : Bank} (done : c.mesh.bank.reset id = .ok bank) :
      Call c (.resetBreaker id) .done (c.setMesh { c.mesh with bank })
  | configure (health : Option HealthConfig) (balancer : Option BalancerConfig) :
      Call c (.configure health balancer) .done
        (c.setMesh (Coordinator.configured c.mesh health balancer))
  | start (h : c.lifecycle ≠ .started) :
      Call c .start .done { c.setMonitor c.mesh.monitor.run with lifecycle := .started }
  | startAgain (h : c.lifecycle = .started) : Call c .start .done c
  | stop (h : c.lifecycle = .started) :
      Call c .stop .done { c.setMonitor c.mesh.monitor.halt with lifecycle := .stopped }
  | stopAgain (h : c.lifecycle ≠ .started) : Call c .stop .done c
  | listenHealth (listener : Option String) :
      Call c (.listenHealth listener) .done
        (c.setNotifier fun n => { n with healthListener := listener })
  | listenServices (listener : Option String) :
      Call c (.listenServices listener) .done
        (c.setNotifier fun n => { n with serviceListener := listener })
  | setTarget (id : String) (change : Target → Target) :
      Call c (.setTarget id change) .done { c with timeline := c.timeline.setTarget id change }
  | wait {ms : Nat} {moment : Moment} (later : (c.timeline.wait ms).moment = moment) :
      Call c (.wait ms) .done { c with timeline := { c.timeline with moment } }

namespace Coordinator

variable {c next : Coordinator}

theorem register_call (c : Coordinator) (r : Record) :
    Call c (.register r) (answerOf (fun _ => .done) (c.register r).1) (c.register r).2 := by
  rcases c.register_eq r with ⟨e, refused⟩ | ⟨valid, free, registered⟩
  · rw [refused]
    exact .refused _ e
  · rw [registered]
    exact .register r valid free

theorem unregister_call (c : Coordinator) (id : String) :
    Call c (.unregister id) (answerOf .record (c.unregister id).1) (c.unregister id).2 := by
  rcases c.unregister_eq id with ⟨e, refused⟩ | ⟨r, done, removed⟩
  · rw [refused]
    exact .refused _ e
  · rw [removed]
    exact .unregister done

private theorem report_call (c : Coordinator) (id : String) (time : Duration) (success : Bool) :
    Call c (.report id time success) (answerOf (fun _ => .done) (c.report id time success).1)
      (c.report id time success).2 := by
  rcases c.report_eq id time success with ⟨e, refused⟩ | ⟨r, state, bank, got, counted, taken⟩
  · rw [refused]
    exact .refused _ e
  · rw [taken]
    exact .report got counted

private theorem configure_call (c : Coordinator) (health : Option HealthConfig)
    (balancer : Option BalancerConfig) :
    Call c (.configure health balancer)
      (answerOf (fun _ => .done) (c.configure health balancer).1)
      (c.configure health balancer).2 := by
  rcases c.configure_eq health balancer with ⟨e, refused⟩ | taken
  · rw [refused]
    exact .refused _ e
  · rw [taken]
    exact .configure health balancer

private theorem start_call (c : Coordinator) : Call c .start .done c.start := by
  rw [start]
  split
  case isTrue started => exact .startAgain started
  case isFalse created => exact .start created

private theorem stop_call (c : Coordinator) : Call c .stop .done c.stop := by
  rw [stop]
  split
  case isTrue started => exact .stop started
  case isFalse stopped => exact .stopAgain stopped

/-- An operation that changes nothing when it is refused. -/
theorem settle_call {op : Operation} {result : Except Failure Coordinator}
    (done : ∀ next, result = .ok next → Call c op .done next) :
    Call c op (c.settle result).1 (c.settle result).2 := by
  cases result with
  | ok next => exact done next rfl
  | error e => exact .refused op e

private theorem call_of_setMetadata {id : String} {metadata : Json}
    (done : c.setMetadata id metadata = .ok next) :
    Call c (.setMetadata id metadata) .done next := by
  obtain ⟨store, changed, rest⟩ := Failure.bind_eq_ok_iff.mp done
  cases rest
  rw [Store.eq_modify_of_setMetadata changed]
  exact .setMetadata id metadata

theorem call_of_watch {id : String} {config : Option HealthConfig}
    (done : c.watch id config = .ok next) : Call c (.watch id config) .done next := by
  obtain ⟨monitor, watched, rest⟩ := Failure.bind_eq_ok_iff.mp done
  cases rest
  exact .watch watched

theorem unwatch_eq {id : String} (done : c.unwatch id = .ok next) :
    next = c.setMonitor (c.mesh.monitor.drop id) := by
  obtain ⟨monitor, dropped, rest⟩ := Failure.bind_eq_ok_iff.mp done
  obtain ⟨-, -, same⟩ := Failure.bind_eq_ok_iff.mp dropped
  cases same
  cases rest
  rfl

private theorem call_of_unwatch {id : String} (done : c.unwatch id = .ok next) :
    Call c (.unwatch id) .done next := by
  rw [unwatch_eq done]
  exact .unwatch id

private theorem call_of_breakerStatus {id : String} {status : BreakerStatus}
    (done : c.breakerStatus id = .ok (status, next)) :
    Call c (.readBreaker id) (.breaker status) next := by
  obtain ⟨⟨_, bank⟩, read, rest⟩ := Failure.bind_eq_ok_iff.mp done
  cases rest
  exact .readBreaker read

private theorem call_of_resetBreaker {id : String} (done : c.resetBreaker id = .ok next) :
    Call c (.resetBreaker id) .done next := by
  obtain ⟨bank, reset, rest⟩ := Failure.bind_eq_ok_iff.mp done
  cases rest
  exact .resetBreaker reset

theorem perform_call (c : Coordinator) {op : Operation} (atOnce : op.waits = false) :
    Call c op (c.perform op).1 (c.perform op).2 := by
  cases op with
  | register r => exact c.register_call r
  | unregister id => exact c.unregister_call id
  | setMetadata id metadata => exact settle_call fun _ => call_of_setMetadata
  | watch id config => exact settle_call fun _ => call_of_watch
  | unwatch id => exact settle_call fun _ => call_of_unwatch
  | check | join | advance => cases atOnce
  | spawn handle id => exact .spawn handle id
  | select name client draw => exact .select name client draw
  | report id time success => exact c.report_call id time success
  | readBreaker id =>
    simp only [perform]
    split
    case h_1 done => exact call_of_breakerStatus done
    case h_2 e _ => exact .refused _ e
  | resetBreaker id => exact settle_call fun _ => call_of_resetBreaker
  | configure health balancer => exact c.configure_call health balancer
  | start => exact c.start_call
  | startOutside => exact .refused _ noRuntime
  | stop => exact c.stop_call
  | listenHealth listener => exact .listenHealth listener
  | listenServices listener => exact .listenServices listener
  | setTarget id change => exact .setTarget id change
  | wait ms => exact .wait rfl

end Coordinator

/-! ## Changes -/

/-- What happens to a node at once. -/
inductive Change (c : Coordinator) : Coordinator → Prop
  | call {op : Operation} {answer : Answer} {next : Coordinator}
      (made : Call c op answer next) : Change c next
  | beat {t : Timeline} (b : Beat c.timeline t) : Change c { c with timeline := t }

/-- A chain of changes. -/
abbrev Changes : Coordinator → Coordinator → Prop := ReflTransGen Change

namespace Coordinator

variable {c next : Coordinator}

theorem changes_of_beats {t : Timeline} (beats : Beats c.timeline t) :
    Changes c { c with timeline := t } := by
  induction beats with
  | refl => exact .refl
  | tail _ b ih => exact ih.tail (Change.beat (c := { c with timeline := _ }) b)

theorem unregister_changes (c : Coordinator) (id : String) : Changes c (c.unregister id).2 :=
  .single (.call (c.unregister_call id))

/-- An operation that takes time happens by beats. -/
theorem perform_beats (c : Coordinator) {op : Operation} (takes : op.waits = true) :
    ∃ t, Beats c.timeline t ∧ (c.perform op).2 = { c with timeline := t } := by
  cases op with
  | check id => exact ⟨_, c.timeline.check_beats id, rfl⟩
  | join handle => exact ⟨_, c.timeline.join_beats handle, rfl⟩
  | advance ms => exact ⟨_, c.timeline.advance_beats ms, rfl⟩
  | _ => cases takes

/-- An event that takes time happens by beats. -/
theorem occur_beats (c : Coordinator) {e : Event} (timed : e.timed = true) :
    ∃ t, Beats c.timeline t ∧ c.occur e = { c with timeline := t } := by
  cases e with
  | operation op => exact c.perform_beats timed
  | pass ms =>
    have moved : Beats c.timeline { c.timeline with now := c.timeline.now + ms } :=
      Timeline.beats_of_mesh_eq rfl
    exact ⟨_, moved, rfl⟩
  | loop id => exact ⟨_, c.timeline.stepLoop_beats id, rfl⟩
  | check serial => exact ⟨_, c.timeline.stepCheck_beats serial, rfl⟩

theorem perform_changes (c : Coordinator) (op : Operation) : Changes c (c.perform op).2 := by
  cases takes : op.waits with
  | false => exact .single (.call (c.perform_call takes))
  | true =>
    obtain ⟨t, beats, happened⟩ := c.perform_beats takes
    rw [happened]
    exact changes_of_beats beats

theorem occur_changes (c : Coordinator) (e : Event) : Changes c (c.occur e) := by
  cases timed : e.timed with
  | false =>
    obtain ⟨op, -, rfl⟩ := Event.eq_operation_of_timed timed
    exact c.perform_changes op
  | true =>
    obtain ⟨t, beats, happened⟩ := c.occur_beats timed
    rw [happened]
    exact changes_of_beats beats

theorem after_changes (c : Coordinator) (events : List Event) : Changes c (c.after events) := by
  induction events generalizing c with
  | nil => exact .refl
  | cons e rest ih => exact (c.occur_changes e).trans (ih _)

/-- What every change preserves is preserved by a chain of changes. -/
theorem changes_preserve {holds : Coordinator → Prop}
    (step : ∀ c next, Change c next → holds c → holds next)
    (chain : Changes c next) (start : holds c) : holds next := by
  induction chain with
  | refl => exact start
  | tail _ change ih => exact step _ _ change ih

end Coordinator

end ServiceMesh
