import ServiceMesh.Health.Target
import ServiceMesh.Mesh

/-!
# The mesh in time

Probing takes time on a clock of its own, in milliseconds. The clock stands still during
an operation and moves when a caller waits: to the next moment at which a loop or a
spawned check has something to do, and in the end to the moment the caller waits for. Of
two things that are due at once the one begun earlier is done first, and a caller that
waits for a moment goes on before what else is due then.

Breakers have a second clock that only moves when it is told to.
-/

namespace ServiceMesh

/-- Where a spawned check stands. -/
inductive SpawnPhase where
  | fresh
  | probing (probe : Probe) (config : HealthConfig)
  | finished (result : Except Failure Status)

/-- A check outside the schedule that nobody waits for yet. -/
structure SpawnedCheck where
  handle : String
  serial : Nat
  id : String
  phase : SpawnPhase := .fresh

/-- The mesh with its clocks, the targets of its probes and the spawned checks. -/
structure Timeline where
  mesh : Mesh := {}
  /-- the clock of the probes in milliseconds -/
  now : Nat := 0
  /-- the clock of the breakers -/
  moment : Moment := 0
  targets : Table Target := ∅
  spawned : List SpawnedCheck := []
  deriving Inhabited

namespace Timeline

/-- What the probes of an id meet. -/
def target (t : Timeline) (id : String) : Target := t.targets[id]?.getD {}

/-- Change what the probes of an id meet. -/
def setTarget (t : Timeline) (id : String) (f : Target → Target) : Timeline :=
  { t with targets := t.targets.insert id (f (t.target id)) }

/-- Change the health monitor. -/
def setMonitor (t : Timeline) (monitor : Monitor) : Timeline :=
  { t with mesh := { t.mesh with monitor } }

/-! ## Probes -/

/-- Begin a probe of an id. -/
def beginProbe (t : Timeline) (id : String) (config : HealthConfig) : Probe × Timeline :=
  (Probe.begin t.now config.timeoutMs.toNat (t.target id).reaction, t.setTarget id Target.called)

/-- End a probe of an id and apply what it found. A probe whose time ran out counts as
down and has no response time. -/
def endProbe (t : Timeline) (id : String) (probe : Probe) (config : HealthConfig) :
    Except Failure Status × Timeline :=
  if probe.timedOut then
    let mesh := { t.mesh with monitor := t.mesh.monitor.countCheck .timedOut }
    let (answer, mesh) := mesh.applyCheck id .down none config false
    (match answer with
      | .error e => .error e
      | .ok _ => .error (.timeout config.timeout),
      { t with mesh })
  else
    let (outcome, target) := (t.target id).answer
    let t := { t with targets := t.targets.insert id target }
    let time := Duration.ofMillis (probe.ends - probe.started)
    let (answer, mesh) := t.mesh.applyCheck id outcome (some time) config false
    (match answer with
      | .error e => .error e
      | .ok (some status) => .ok status
      | .ok none => .error (.internal "manual check was cancelled"),
      { t with mesh })

/-! ## Loops -/

/-- Let a loop stand in a new phase. -/
def setPhase (t : Timeline) (id : String) (phase : Phase) : Timeline :=
  t.setMonitor { t.mesh.monitor with
    watches := t.mesh.monitor.watches.update id fun w =>
      { w with loop := w.loop.map fun l => { l with phase } } }

/-- A loop that finds its instance gone ends for good. -/
def abandon (t : Timeline) (id : String) : Timeline :=
  t.setMonitor { t.mesh.monitor with watches := t.mesh.monitor.watches.erase id }

/-- Begin the probe of a loop that was due. -/
def tick (t : Timeline) (id : String) (config : HealthConfig) (due : Nat) : Timeline :=
  if t.mesh.store.contains id then
    let (probe, t) := t.beginProbe id config
    t.setPhase id (.probing probe (nextDue config.intervalMs.toNat due t.now))
  else t.abandon id

/-- Let the loop of an id do what is next. -/
def stepLoop (t : Timeline) (id : String) : Timeline :=
  match t.mesh.monitor.watches[id]? with
  | some { config, loop := some loop } =>
    match loop.phase with
    | .fresh => t.tick id config t.now
    | .waiting due => t.tick id config due
    | .probing probe due =>
      match t.endProbe id probe config with
      | (.ok _, t) => t.setPhase id (.waiting due)
      | (.error (.timeout _), t) => t.setPhase id (.waiting due)
      | (.error _, t) => t.abandon id
  | _ => t

/-! ## Spawned checks -/

/-- Let a spawned check stand in a new phase. -/
def setSpawned (t : Timeline) (serial : Nat) (phase : SpawnPhase) : Timeline :=
  { t with spawned := t.spawned.map fun c => if c.serial = serial then { c with phase } else c }

/-- What a check of an id needs to begin: the id is written and registered. -/
def checkConfig (t : Timeline) (id : String) : Except Failure HealthConfig := do
  Failure.requireText id "service_id"
  let _ ← t.mesh.store.get id
  return t.mesh.monitor.configFor id

/-- Let a spawned check do what is next. -/
def stepSpawned (t : Timeline) (c : SpawnedCheck) : Timeline :=
  match c.phase with
  | .fresh =>
    match t.checkConfig c.id with
    | .error e => t.setSpawned c.serial (.finished (.error e))
    | .ok config =>
      let (probe, t) := t.beginProbe c.id config
      t.setSpawned c.serial (.probing probe config)
  | .probing probe config =>
    let (result, t) := t.endProbe c.id probe config
    t.setSpawned c.serial (.finished result)
  | .finished _ => t

/-! ## The schedule -/

/-- Something that has to be done at a moment. -/
inductive Job where
  | loop (id : String)
  | spawned (check : SpawnedCheck)

/-- A job with the moment it is due and its number. -/
structure Wake where
  time : Nat
  serial : Nat
  job : Job

/-- When a loop has something to do. -/
def wakeOfLoop (now : Nat) (loop : Loop) : Nat :=
  match loop.phase with
  | .fresh => now
  | .waiting due => due
  | .probing probe _ => probe.ends

/-- When a spawned check has something to do, if it is not finished. -/
def wakeOfSpawned? (now : Nat) (c : SpawnedCheck) : Option Nat :=
  match c.phase with
  | .fresh => some now
  | .probing probe _ => some probe.ends
  | .finished _ => none

/-- All jobs. -/
def wakes (t : Timeline) : List Wake :=
  (t.mesh.monitor.watches.toList.filterMap fun (id, w) =>
    w.loop.map fun l => ⟨wakeOfLoop t.now l, l.serial, .loop id⟩) ++
  t.spawned.filterMap fun c =>
    (wakeOfSpawned? t.now c).map fun time => ⟨time, c.serial, .spawned c⟩

/-- Whether one job is done before another. -/
def Wake.before (a b : Wake) : Bool :=
  a.time < b.time || (a.time == b.time && a.serial < b.serial)

/-- The job that is done next, if it is due before a limit. -/
def next? (t : Timeline) (limit : Nat) : Option Wake :=
  (firstLeast? Wake.before t.wakes).filter fun w => w.time < limit

/-- Do one job at its moment. -/
def perform (t : Timeline) (w : Wake) : Timeline :=
  let t := { t with now := max t.now w.time }
  match w.job with
  | .loop id => t.stepLoop id
  | .spawned c => t.stepSpawned c

/-- Do jobs while they are due before a limit, at most a number of them. -/
def runFor (limit : Nat) : Nat → Timeline → Timeline
  | 0, t => t
  | fuel + 1, t =>
    match t.next? limit with
    | none => t
    | some w => runFor limit fuel (t.perform w)

/-- A bound on the jobs of a loop before a limit: each probe is two jobs, and the next
one is due later by at least a millisecond. -/
def Phase.work (now limit : Nat) : Phase → Nat
  | .fresh => 2 * (limit - now) + 2
  | .waiting due => 2 * (limit - due) + 2
  | .probing _ due => 2 * (limit - due) + 3

/-- A bound on the jobs of a watched instance before a limit. -/
def Watch.work (now limit : Nat) (w : Watch) : Nat :=
  match w.loop with
  | none => 0
  | some l => Phase.work now limit l.phase

/-- A bound on the jobs before a limit. -/
def work (t : Timeline) (limit : Nat) : Nat :=
  t.mesh.monitor.watches.values.foldr (fun w n => Watch.work t.now limit w + n)
    (2 * t.spawned.length)

/-- Do all jobs that are due before a limit. -/
def run (t : Timeline) (limit : Nat) : Timeline := runFor limit (t.work limit) t

/-! ## Waiting -/

/-- Wait for a number of milliseconds. Waiting for no time does nothing. -/
def advance (t : Timeline) (ms : Nat) : Timeline :=
  if ms = 0 then t
  else
    let limit := t.now + ms
    { t.run limit with now := limit }

/-- Move the clock of the breakers. -/
def wait (t : Timeline) (ms : Nat) : Timeline := { t with moment := t.moment + ms * 1_000_000 }

/-- Check an id now and wait for the answer. -/
def check (t : Timeline) (id : String) : Except Failure Status × Timeline :=
  match t.checkConfig id with
  | .error e => (.error e, t)
  | .ok config =>
    let (probe, t) := t.beginProbe id config
    let t := t.advance (probe.ends - t.now)
    t.endProbe id probe config

/-- Begin a check of an id without waiting. -/
def spawn (t : Timeline) (handle id : String) : Timeline :=
  let monitor := t.mesh.monitor
  { t.setMonitor { monitor with begun := monitor.begun + 1 } with
    spawned := t.spawned ++ [{ handle, serial := monitor.begun, id }] }

/-- The latest check that was spawned under a handle. -/
def spawned? (t : Timeline) (handle : String) : Option SpawnedCheck :=
  (t.spawned.filter (·.handle == handle)).getLast?

/-- The result of a spawned check, if it is finished. -/
def result? (t : Timeline) (handle : String) : Option (Except Failure Status) :=
  match (t.spawned? handle).map SpawnedCheck.phase with
  | some (.finished result) => some result
  | _ => none

/-- Wait for a spawned check. -/
def join (t : Timeline) (handle : String) : Option (Except Failure Status) × Timeline :=
  match t.result? handle with
  | some result => (some result, t)
  | none =>
    let t := t.run (t.now + 1)
    match (t.spawned? handle).map SpawnedCheck.phase with
    | some (.probing probe _) =>
      let t := t.run (probe.ends + 1)
      (t.result? handle, t)
    | _ => (t.result? handle, t)

end Timeline

end ServiceMesh
