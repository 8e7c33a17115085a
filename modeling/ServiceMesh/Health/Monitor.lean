import ServiceMesh.Config.Check
import ServiceMesh.Health.History
import ServiceMesh.Health.Loop
import ServiceMesh.Health.Tracker
import ServiceMesh.Notice
import ServiceMesh.Registry.Store
import ServiceMesh.Tally

/-!
# The health monitor

The monitor keeps the configuration of each watched instance and, while it runs, one
probe loop for each of them. It also keeps a slot with the tracker and the history of
each instance that was ever watched or checked. Watching an instance anew begins a new
loop and counts outcomes from zero, and keeps its history.

Applying a check is what changes the world: the tracker decides the status, the history
grows, the registry learns the status and the response time, and the subscriber is told
of a change.
-/

namespace ServiceMesh

/-- A watched instance. While the monitor runs it has a loop. -/
structure Watch where
  config : HealthConfig
  loop : Option Loop := none
  deriving DecidableEq

/-- What is known of the checks of one instance. -/
structure Slot where
  tracker : Tracker := {}
  history : History := {}
  deriving DecidableEq, Inhabited

/-- How a check is counted. -/
inductive CheckResult where
  | answered (outcome : Outcome)
  | timedOut
  deriving DecidableEq, Repr

def CheckResult.label : CheckResult → String
  | answered outcome => outcome.name
  | timedOut => "timeout"

/-- The health of a registered instance at one moment. -/
structure HealthSnapshot where
  id : String
  serviceName : String
  status : Status
  lastResponse : Option ResponseTime

def Record.snapshot (r : Record) : HealthSnapshot :=
  { id := r.id, serviceName := r.serviceName, status := r.status, lastResponse := r.lastResponse }

/-- The health monitor. -/
structure Monitor where
  defaults : HealthConfig := {}
  watches : Table Watch := ∅
  slots : Table Slot := ∅
  running : Bool := false
  /-- the number of loops and spawned checks begun so far -/
  begun : Nat := 0
  /-- probes by result -/
  checks : Tally CheckResult := []
  /-- whether an instance was selectable after its latest change of status -/
  gauge : Table Bool := ∅

namespace Monitor

instance : Inhabited Monitor := ⟨{}⟩

/-- Replace the default configuration by a valid one. -/
def setDefaults (m : Monitor) (config : HealthConfig) : Except Failure Monitor := do
  config.check
  return { m with defaults := config }

/-- The configuration for checks of an instance: that of its watch, or the default. -/
def configFor (m : Monitor) (id : String) : HealthConfig :=
  ((m.watches[id]?).map Watch.config).getD m.defaults

def isWatched (m : Monitor) (id : String) : Bool := (m.watches[id]?).isSome

/-- The slot of an instance; an empty one if it has none. -/
def slot (m : Monitor) (id : String) : Slot := m.slots[id]?.getD {}

/-- Make sure that an instance has a slot. -/
def withSlot (m : Monitor) (id : String) : Monitor :=
  { m with slots := m.slots.insert id (m.slot id) }

/-- Begin a loop for a watched instance that has none. -/
def beginLoop (m : Monitor) (id : String) : Monitor :=
  match m.watches[id]? with
  | some { config, loop := none } =>
    { m with
      watches := m.watches.insert id { config, loop := some { serial := m.begun } }
      begun := m.begun + 1 }
  | _ => m

/-- End the loop of a watched instance. A probe under way is dropped. -/
def endLoop (m : Monitor) (id : String) : Monitor :=
  match m.watches[id]? with
  | some { config, loop := some _ } =>
    { m with watches := m.watches.insert id { config, loop := none } }.withSlot id
  | _ => m

/-- Begin to probe every watched instance. -/
def run (m : Monitor) : Monitor :=
  m.watches.keys.foldl beginLoop { m with running := true }

/-- Stop probing. What is watched stays known for a later run. -/
def halt (m : Monitor) : Monitor := m.watches.keys.foldl endLoop { m with running := false }

/-- Watch a registered instance, from now on with this configuration. -/
def watch (m : Monitor) (store : Store) (id : String) (config : HealthConfig) :
    Except Failure Monitor := do
  Failure.requireText id "service_id"
  config.check
  if store.contains id then
    let m := m.endLoop id
    let m := { m with
      watches := m.watches.insert id { config }
      slots := m.slots.insert id { m.slot id with tracker := {} } }
    return if m.running then m.beginLoop id else m
  else .error (.unknownId id)

/-- Watch an instance no longer. -/
def drop (m : Monitor) (id : String) : Monitor :=
  let m := m.endLoop id
  { m with watches := m.watches.erase id }

/-- Watch an instance no longer, if it was watched at all. -/
def unwatch (m : Monitor) (id : String) : Except Failure Monitor := do
  Failure.requireText id "service_id"
  return m.drop id

/-- Drop everything that is known of an instance. -/
def forget (m : Monitor) (id : String) : Monitor :=
  let m := m.drop id
  { m with slots := m.slots.erase id }

/-- The health of every watched instance that is still registered, by id. -/
def statuses (m : Monitor) (store : Store) : List HealthSnapshot :=
  m.watches.keys.filterMap fun id =>
    if m.slots.contains id then (store.get id).toOption.map Record.snapshot else none

/-- The summary of the checks of a registered instance. -/
def history (m : Monitor) (store : Store) (id : String) : Except Failure HistorySummary := do
  Failure.requireText id "service_id"
  if store.contains id then return (m.slot id).history.summary
  else .error (.unknownId id)

/-- Count a probe by its result. -/
def countCheck (m : Monitor) (result : CheckResult) : Monitor :=
  { m with checks := m.checks.add result }

/-- One line about the monitor. -/
def describe (m : Monitor) : String :=
  "HealthMonitor \x7b monitored: " ++ toString m.watches.size ++
    ", running: " ++ toString m.running ++ " \x7d"

end Monitor

end ServiceMesh
