import ServiceMesh.Balancer.Basic
import ServiceMesh.Health.Monitor
import ServiceMesh.Metrics

/-!
# The parts of a node

A node consists of the registry, the breakers, the load balancer, the health monitor and
the notifier. They know of each other only through the operations below; nothing here
decides which of them an instance takes part in.
-/

namespace ServiceMesh

/-- The parts of a node. -/
structure Mesh where
  store : Store := {}
  bank : Bank := {}
  balancer : Balancer := {}
  monitor : Monitor := {}
  notifier : Notifier := {}
  /-- the size of the registry when it was last recorded -/
  recordedSize : Option Nat := none
  deriving Inhabited

namespace Mesh

/-- The parts of a node with these defaults, without any instance. -/
def ofConfig (health : HealthConfig) (balancer : BalancerConfig) : Mesh :=
  { balancer := .ofConfig balancer, monitor := { defaults := health } }

/-- Give an instance a status that differs from the one before, and tell the subscriber. -/
def changeStatus (m : Mesh) (id : String) (previous current : Status) :
    Except Failure Unit × Mesh :=
  match m.store.setStatus id current with
  | .error e => (.error e, m)
  | .ok (_, store) =>
    (.ok (), { m with
      store
      monitor := { m.monitor with gauge := m.monitor.gauge.insert id current.selectable }
      notifier := m.notifier.statusChanged { id, previous, current } })

/-- Note the response time of a probe that was answered, and count it by its outcome. -/
def noteAnswer (m : Mesh) (id : String) (outcome : Outcome) (time : Option Duration) :
    Except Failure Unit × Mesh :=
  match time with
  | none => (.ok (), m)
  | some t =>
    match m.store.setResponse id (.measured t) with
    | .error e => (.error e, m)
    | .ok store =>
      (.ok (), { m with store, monitor := m.monitor.countCheck (.answered outcome) })

/-- Apply the outcome of a probe to a registered instance. The time is absent if the
probe timed out. The answer holds the status after the check. -/
def applyTo (m : Mesh) (r : Record) (outcome : Outcome) (time : Option Duration)
    (config : HealthConfig) : Except Failure Status × Mesh :=
  let slot := m.monitor.slot r.id
  let (next, tracker) := slot.tracker.observe r.status outcome config
  let history := slot.history.push { outcome, status := next, time }
  let m := { m with
    monitor := { m.monitor with slots := m.monitor.slots.insert r.id { tracker, history } } }
  match m.noteAnswer r.id outcome time with
  | (.error e, m) => (.error e, m)
  | (.ok (), m) =>
    if next = r.status then (.ok next, m)
    else
      match m.changeStatus r.id r.status next with
      | (.error e, m) => (.error e, m)
      | (.ok (), m) => (.ok next, m)

/-- Apply the outcome of a probe. A probe of a loop that was ended in the meantime changes
nothing but makes sure of the slot; one of an instance that is gone takes its slot away. -/
def applyCheck (m : Mesh) (id : String) (outcome : Outcome) (time : Option Duration)
    (config : HealthConfig) (cancelled : Bool) : Except Failure (Option Status) × Mesh :=
  if cancelled then (.ok none, { m with monitor := m.monitor.withSlot id })
  else
    match m.store.get id with
    | .error e =>
      (.error e, { m with monitor := { m.monitor with slots := m.monitor.slots.erase id } })
    | .ok r =>
      match m.applyTo r outcome time config with
      | (.error e, m) => (.error e, m)
      | (.ok next, m) => (.ok (some next), m)

/-- Select an instance of a name. -/
def select (m : Mesh) (now : Moment) (name : String) (client : Option String) (draw : UInt64) :
    Except Failure Record × Mesh :=
  let (answer, balancer, bank) := m.balancer.select m.store m.bank now name client draw
  (answer, { m with balancer, bank })

/-- Report how a request to an instance went. -/
def report (m : Mesh) (now : Moment) (id : String) (time : Duration) (success : Bool) :
    Except Failure Unit × Mesh :=
  let (answer, balancer, store, bank) := m.balancer.report m.store m.bank now id time success
  (answer, { m with balancer, store, bank })

/-- Everything that has been recorded. A series without a record is left out. -/
def metrics (m : Mesh) : List (Series × Sample) :=
  (match m.recordedSize with
    | none => []
    | some n => [(⟨"mesh_services_registered", []⟩, .number n)]) ++
  m.monitor.gauge.toList.map (fun (id, selectable) =>
    (⟨"mesh_service_health", [("service_id", id)]⟩, .number (if selectable then 1 else 0))) ++
  m.monitor.checks.map (fun (result, n) =>
    (⟨"mesh_health_checks_total", [("outcome", result.label)]⟩, .number n)) ++
  m.balancer.selections.map (fun ((name, algorithm), n) =>
    (⟨"mesh_selections_total", [("algorithm", algorithm.name), ("service_name", name)]⟩,
      .number n)) ++
  m.balancer.failures.map (fun (reason, n) =>
    (⟨"mesh_selection_failures_total", [("reason", reason.label)]⟩, .number n)) ++
  (if m.balancer.responseTimes.isEmpty then []
    else [(⟨"mesh_reported_response_time_ms", []⟩,
      .distribution m.balancer.responseTimes.reverse)]) ++
  m.bank.transitions.map (fun (state, n) =>
    (⟨"mesh_circuit_breaker_transitions_total", [("state", state.label)]⟩, .number n))

end Mesh

end ServiceMesh
