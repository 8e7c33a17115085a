import ServiceMesh.Config.Check
import ServiceMesh.Timeline

/-!
# The coordinator

The coordinator is the face of one node. It keeps the breaker, the load and the watch of
an instance in step with the registry: they appear with the registration and go with the
removal. Its lifecycle only decides whether watched instances are probed; everything else
works in every state.
-/

namespace ServiceMesh

/-- Whether watched instances are probed. -/
inductive Lifecycle where
  | created
  | started
  | stopped
  deriving DecidableEq, Repr, Inhabited

/-- The name of a lifecycle state. -/
def Lifecycle.name : Lifecycle → String
  | created => "Created"
  | started => "Started"
  | stopped => "Stopped"

/-- The identity of a node: the configured one, or one made up for it. -/
inductive NodeId where
  | configured (id : String)
  | generated
  deriving DecidableEq, Repr, Inhabited

/-- A blank identity is replaced by a made up one. -/
def NodeId.ofText (s : String) : NodeId := if Text.isBlank s then generated else configured s

/-- One node of the mesh. -/
structure Coordinator where
  nodeId : NodeId
  listenPort : UInt16
  initialStatus : Status
  lifecycle : Lifecycle := .created
  timeline : Timeline := {}
  deriving Inhabited

/-- The settings that a load balancer configuration has for breakers. -/
def BalancerConfig.breakerSettings (c : BalancerConfig) : BreakerSettings :=
  { threshold := c.breakerThreshold, timeout := c.breakerTimeout }

namespace Coordinator

/-- A node to which nothing has happened yet. -/
def fresh (config : Config) : Coordinator :=
  { nodeId := .ofText config.nodeId
    listenPort := config.listenPort
    initialStatus := config.registry.initialStatus
    timeline := { mesh := .ofConfig config.healthCheck config.loadBalancer } }

/-- A node with a valid configuration. Its seeds are checked and not registered. -/
def create (config : Config) : Except Failure Coordinator := do
  config.check
  return fresh config

/-- The parts of the node. -/
def mesh (c : Coordinator) : Mesh := c.timeline.mesh

/-- Change the parts of the node. -/
def setMesh (c : Coordinator) (mesh : Mesh) : Coordinator :=
  { c with timeline := { c.timeline with mesh } }

/-- Change the health monitor. -/
def setMonitor (c : Coordinator) (monitor : Monitor) : Coordinator :=
  c.setMesh { c.mesh with monitor }

/-! ## Lifecycle -/

/-- Begin to probe the watched instances. Starting twice is starting once. -/
def start (c : Coordinator) : Coordinator :=
  if c.lifecycle = .started then c
  else { c.setMonitor c.mesh.monitor.run with lifecycle := .started }

/-- Stop probing. Only a started node can be stopped. -/
def stop (c : Coordinator) : Coordinator :=
  if c.lifecycle = .started then { c.setMonitor c.mesh.monitor.halt with lifecycle := .stopped }
  else c

/-- Why a node cannot be started where nothing could run its loops. -/
def noRuntime : Failure := .internal "start requires a Tokio runtime"

def isRunning (c : Coordinator) : Bool := c.lifecycle == .started

/-- Give the monitor a new default configuration, if there is one. -/
def setHealth (m : Mesh) : Option HealthConfig → Except Failure Unit × Mesh
  | none => (.ok (), m)
  | some config =>
    match m.monitor.setDefaults config with
    | .error e => (.error e, m)
    | .ok monitor => (.ok (), { m with monitor })

/-- Give every breaker and then the load balancer a new configuration, if there is one. -/
def setBalancer (m : Mesh) : Option BalancerConfig → Except Failure Unit × Mesh
  | none => (.ok (), m)
  | some config =>
    let m := { m with bank := m.bank.reconfigure config.breakerSettings }
    match m.balancer.setConfig config with
    | .error e => (.error e, m)
    | .ok balancer => (.ok (), { m with balancer })

/-- Accept the sections that are given. -/
def checkSections (health : Option HealthConfig) (balancer : Option BalancerConfig) :
    Except Failure Unit := do
  if let some config := health then config.check
  if let some config := balancer then config.check

/-- Replace defaults. Both configurations are checked before either takes effect. -/
def configure (c : Coordinator) (health : Option HealthConfig) (balancer : Option BalancerConfig) :
    Except Failure Unit × Coordinator :=
  match checkSections health balancer with
  | .error e => (.error e, c)
  | .ok () =>
    match setHealth c.mesh health with
    | (.error e, m) => (.error e, c.setMesh m)
    | (.ok (), m) =>
      let (answer, m) := setBalancer m balancer
      (answer, c.setMesh m)

/-! ## Registry -/

/-- Record the size of the registry and tell the subscriber of a change. -/
def announce (m : Mesh) (change : MembershipChange) : Mesh :=
  { m with recordedSize := some m.store.size, notifier := m.notifier.membershipChanged change }

/-- Register an instance. Its status is the initial one, whatever the record says. Its
breaker and its load are there before its record, and are dropped again if the registry
refuses the record. -/
def register (c : Coordinator) (r : Record) : Except Failure Unit × Coordinator :=
  match r.validate with
  | .error e => (.error e, c)
  | .ok () =>
    let r := { r with status := c.initialStatus }
    let m := c.mesh
    if m.store.contains r.id then (.error (.duplicateId r.id), c)
    else
      let bank := m.bank.track r.id m.balancer.config.breakerSettings
      let balancer := m.balancer.track r.id
      match m.store.register r with
      | (.error e, store) =>
        (.error e, c.setMesh { m with
          store, bank := bank.forget r.id, balancer := balancer.forget r.id })
      | (.ok (), store) =>
        (.ok (), c.setMesh (announce { m with store, bank, balancer } (.registered r)))

/-- Remove an instance and everything attached to it. -/
def unregister (c : Coordinator) (id : String) : Except Failure Record × Coordinator :=
  match Failure.requireText id "service_id" with
  | .error e => (.error e, c)
  | .ok () =>
    let m := c.mesh
    match m.store.unregister id with
    | (.error e, store) => (.error e, c.setMesh { m with store })
    | (.ok r, store) =>
      let m := { m with
        store
        monitor := m.monitor.forget id
        bank := m.bank.forget id
        balancer := m.balancer.forget id }
      (.ok r, c.setMesh (announce m (.unregistered r)))

def setMetadata (c : Coordinator) (id : String) (metadata : Json) :
    Except Failure Coordinator := do
  let store ← c.mesh.store.setMetadata id metadata
  return c.setMesh { c.mesh with store }

/-- The instances of a name in the order of registration. -/
def discover (c : Coordinator) (name : String) : Except Failure (List Record) := do
  Failure.requireText name "service_name"
  c.mesh.store.list name

/-- The health of a registered instance, without probing it. -/
def serviceHealth (c : Coordinator) (id : String) : Except Failure HealthSnapshot := do
  let r ← c.mesh.store.get id
  return r.snapshot

/-! ## Health -/

/-- Watch an instance, with the default configuration if none is given. -/
def watch (c : Coordinator) (id : String) (config : Option HealthConfig) :
    Except Failure Coordinator := do
  let m := c.mesh
  let monitor ← m.monitor.watch m.store id (config.getD m.monitor.defaults)
  return c.setMonitor monitor

/-- Watch an instance no longer. -/
def unwatch (c : Coordinator) (id : String) : Except Failure Coordinator := do
  let monitor ← c.mesh.monitor.unwatch id
  return c.setMonitor monitor

/-! ## Load balancing -/

def select (c : Coordinator) (name : String) (client : Option String) (draw : UInt64) :
    Except Failure Record × Coordinator :=
  let (answer, mesh) := c.mesh.select c.timeline.moment name client draw
  (answer, c.setMesh mesh)

def report (c : Coordinator) (id : String) (time : Duration) (success : Bool) :
    Except Failure Unit × Coordinator :=
  let (answer, mesh) := c.mesh.report c.timeline.moment id time success
  (answer, c.setMesh mesh)

/-- The status of a breaker. Looking at it may change it. -/
def breakerStatus (c : Coordinator) (id : String) :
    Except Failure (BreakerStatus × Coordinator) := do
  let (status, bank) ← c.mesh.bank.status id c.timeline.moment
  return (status, c.setMesh { c.mesh with bank })

def resetBreaker (c : Coordinator) (id : String) : Except Failure Coordinator := do
  let bank ← c.mesh.bank.reset id
  return c.setMesh { c.mesh with bank }

/-- One line about the node. -/
def describe (c : Coordinator) (nodeId : String) : String :=
  "MeshCoordinator \x7b node_id: " ++ nodeId ++ ", state: " ++ c.lifecycle.name ++
    ", services: " ++ toString c.mesh.store.size ++ " \x7d"

/-! ## Coming up -/

/-- The node after a registration that succeeded. -/
def registered (c : Coordinator) (r : Record) : Except Failure Coordinator :=
  match c.register r with
  | (.ok (), c) => .ok c
  | (.error e, _) => .error e

/-- Register and watch the seeds in their order. -/
def plant (c : Coordinator) : List Seed → Except Failure Coordinator
  | [] => .ok c
  | seed :: rest => do
    let r ← seed.record
    let c ← c.registered r
    let c ← c.watch seed.id none
    c.plant rest

/-- The node whose probes meet some targets. -/
def facing (c : Coordinator) (targets : Table Target) : Coordinator :=
  { c with timeline := { c.timeline with targets } }

/-- A running node with its seeds registered and watched. Probing begins after the last
seed is registered. -/
def bootstrap (config : Config) (targets : Table Target := ∅) : Except Failure Coordinator := do
  let c ← create config
  let c ← (c.facing targets).plant config.services
  return c.start

end Coordinator

end ServiceMesh
