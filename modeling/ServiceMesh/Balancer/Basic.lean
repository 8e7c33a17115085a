import ServiceMesh.Balancer.Selector
import ServiceMesh.Balancer.Statistics
import ServiceMesh.Breaker.Bank
import ServiceMesh.Config.Check
import ServiceMesh.Registry.Store

/-!
# The load balancer

The balancer chooses an instance of a service name among its fit ones. An instance is
fit when its status is selectable and, if breakers are in use, its breaker is not open.
Each name has its own selector and, from its first successful selection on, its own
statistics. Each tracked instance has its own load.

A new configuration takes effect at the next selection of each name. It replaces the
selector only if it changes something that the selector depends on.
-/

namespace ServiceMesh

/-- Why a selection was counted as failed. -/
inductive SelectionFailure where
  | serviceNotFound
  | noHealthyInstances
  deriving DecidableEq, Repr

def SelectionFailure.label : SelectionFailure → String
  | serviceNotFound => "service_not_found"
  | noHealthyInstances => "no_healthy_instances"

/-- The state of one service name. `revision` tells which configuration it follows. -/
structure Group where
  revision : Nat
  config : BalancerConfig
  selector : Selector
  statistics : Option Statistics := none

/-- The load balancer. The revision counts the configurations it has been given. -/
structure Balancer where
  config : BalancerConfig := {}
  revision : Nat := 0
  groups : Table Group := ∅
  loads : Table Load := ∅
  /-- selections by service name and algorithm -/
  selections : Tally (String × Algorithm) := []
  /-- failed selections by reason -/
  failures : Tally SelectionFailure := []
  /-- reported response times in milliseconds, newest first -/
  responseTimes : List Float := []

namespace Balancer

/-- A balancer that has not been used yet. -/
def ofConfig (config : BalancerConfig) : Balancer := { config }

instance : Inhabited Balancer := ⟨ofConfig {}⟩

/-- Replace the configuration by a valid one. -/
def setConfig (b : Balancer) (config : BalancerConfig) : Except Failure Balancer := do
  config.check
  return { b with config, revision := b.revision + 1 }

/-- Begin to count the load of an instance, unless it is counted. -/
def track (b : Balancer) (id : String) : Balancer :=
  match b.loads[id]? with
  | some _ => b
  | none => { b with loads := b.loads.insert id {} }

/-- Drop the load of an instance. -/
def forget (b : Balancer) (id : String) : Balancer := { b with loads := b.loads.erase id }

/-- Whether the load of an instance is counted. -/
def tracks (b : Balancer) (id : String) : Bool := (b.loads[id]?).isSome

/-- The load of an instance. One that is not tracked has none. -/
def load (b : Balancer) (id : String) : Load := b.loads[id]?.getD {}

/-- The open selections of an instance. -/
def inFlight (b : Balancer) (id : String) : Nat := (b.load id).inFlight

/-- The fit instances among the members of a name. With breakers in use, the breaker of
each selectable member is looked at in turn, which may change it. -/
def fit (useBreakers : Bool) (now : Moment) : List Record → Bank → List Record × Bank
  | [], bank => ([], bank)
  | r :: rest, bank =>
    if r.status.selectable then
      if useBreakers then
        let (isOpen, bank) := bank.isOpen r.id now
        let (kept, bank) := fit useBreakers now rest bank
        (if isOpen then kept else r :: kept, bank)
      else
        let (kept, bank) := fit useBreakers now rest bank
        (r :: kept, bank)
    else fit useBreakers now rest bank

/-- The group of a name, brought up to the current configuration. -/
def group (b : Balancer) (name : String) : Group :=
  match b.groups[name]? with
  | none => { revision := b.revision, config := b.config, selector := .ofConfig b.config }
  | some g =>
    if g.revision = b.revision then g
    else
      { g with
        revision := b.revision
        config := b.config
        selector :=
          if Selector.outdated g.config b.config then .ofConfig b.config else g.selector }

/-- Count a failed selection. -/
def fail (b : Balancer) (reason : SelectionFailure) : Balancer :=
  { b with failures := b.failures.add reason }

/-- Choose among candidates of a name and count the choice. -/
def choose (b : Balancer) (name : String) (candidates : List Record) (request : Request)
    (draw : UInt64) : Except Failure Record × Balancer :=
  let group := b.group name
  let offered := candidates.map fun r => { record := r, load := b.load r.id : Candidate }
  let (position, selector) := group.selector.choose offered request draw
  match position.bind (candidates[·]?) with
  | none =>
    (.error (.internal ("selector returned no instance for '" ++ name ++ "'")),
      { b with groups := b.groups.insert name { group with selector } })
  | some r =>
    let algorithm := b.config.algorithm
    let statistics := group.statistics.getD { serviceName := name, algorithm }
    (.ok r,
      { b with
        groups := b.groups.insert name
          { group with selector, statistics := some (statistics.addSelection r.id algorithm) }
        loads := b.loads.update r.id Load.start
        selections := b.selections.add (name, algorithm) })

/-- Select an instance of a name. An empty client key is no key. -/
def select (b : Balancer) (store : Store) (bank : Bank) (now : Moment) (name : String)
    (client : Option String) (draw : UInt64) : Except Failure Record × Balancer × Bank :=
  match store.list name with
  | .error e => (.error e, b, bank)
  | .ok [] => (.error (.unknownName name), b.fail .serviceNotFound, bank)
  | .ok members =>
    match fit b.config.breakerEnabled now members bank with
    | ([], bank) => (.error (.noneHealthy name), b.fail .noHealthyInstances, bank)
    | (candidates, bank) =>
      let request : Request :=
        { client := client.filter (· ≠ ""), members := members.map Record.id }
      let (answer, b) := b.choose name candidates request draw
      (answer, b, bank)

/-- Report how a request to an instance went. The breaker, the load, the statistics of
the name and the record all learn of it; nothing does if the instance is not registered
or has no breaker. -/
def report (b : Balancer) (store : Store) (bank : Bank) (now : Moment) (id : String)
    (time : Duration) (success : Bool) : Except Failure Unit × Balancer × Store × Bank :=
  match store.get id with
  | .error e => (.error e, b, store, bank)
  | .ok record =>
    match bank.report id success time now with
    | .error e => (.error e, b, store, bank)
    | .ok (_, bank) =>
      let alpha := b.config.responseTimeAlpha
      let window := b.config.successWindow.toNat
      let b := { b with
        loads := b.loads.update id fun l => l.finish success time alpha window
        groups := b.groups.update record.serviceName fun g =>
          { g with statistics := g.statistics.map fun s => s.addReport success time alpha } }
      match store.setResponse id (.reported time) with
      | .error e => (.error e, b, store, bank)
      | .ok store =>
        (.ok (), { b with responseTimes := time.toMilliseconds :: b.responseTimes }, store, bank)

/-- The statistics of a name that has been selected from. -/
def statistics (b : Balancer) (name : String) : Except Failure Statistics := do
  Failure.requireText name "service_name"
  match (b.groups[name]?).bind Group.statistics with
  | none => .error (.unknownName name)
  | some s => .ok s

/-- The statistics of all names in ascending order. -/
def allStatistics (b : Balancer) : List Statistics := b.groups.values.filterMap Group.statistics

end Balancer

/-- The ids and weights of the instances of a name in the order of registration. -/
def Store.weights (s : Store) (name : String) : Except Failure (List (String × UInt32)) := do
  let members ← s.list name
  return members.map fun r => (r.id, r.weight)

end ServiceMesh
