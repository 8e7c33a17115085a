import ServiceMesh.Duration
import ServiceMesh.Status

/-!
# Configuration

The settings of one node of the mesh. Every setting except the identity of a seeded
service has a default, so a configuration may be as small as nothing at all.
-/

namespace ServiceMesh

/-- How an instance is chosen among the fit ones. -/
inductive Algorithm where
  | roundRobin
  | leastConnections
  | weightedRoundRobin
  | performanceBased
  | random
  | consistentHash
  deriving DecidableEq, Repr, Inhabited

namespace Algorithm

def name : Algorithm → String
  | roundRobin => "round_robin"
  | leastConnections => "least_connections"
  | weightedRoundRobin => "weighted_round_robin"
  | performanceBased => "performance_based"
  | random => "random"
  | consistentHash => "consistent_hash"

def all : List Algorithm :=
  [roundRobin, leastConnections, weightedRoundRobin, performanceBased, random, consistentHash]

/-- The algorithm with a name. -/
def ofName? (s : String) : Option Algorithm := all.find? (·.name == s)

theorem ofName?_name (a : Algorithm) : ofName? a.name = some a := by
  cases a <;> decide

end Algorithm

/-- How instances are probed. -/
structure HealthConfig where
  /-- time from one probe to the next -/
  intervalMs : UInt64 := 10000
  /-- time after which a probe counts as failed -/
  timeoutMs : UInt64 := 5000
  /-- failures in a row that make an instance unhealthy -/
  maxFailures : UInt32 := 3
  /-- successes in a row that bring an unhealthy instance back -/
  recoveryChecks : UInt32 := 2
  deriving DecidableEq, Repr, Inhabited

namespace HealthConfig

def interval (c : HealthConfig) : Duration := .ofMillis c.intervalMs.toNat
def timeout (c : HealthConfig) : Duration := .ofMillis c.timeoutMs.toNat

end HealthConfig

/-- How instances are selected and when they are isolated. -/
structure BalancerConfig where
  algorithm : Algorithm := .roundRobin
  /-- leave out instances whose breaker is open -/
  breakerEnabled : Bool := true
  /-- failed reports in a row that open a breaker -/
  breakerThreshold : UInt32 := 5
  /-- time an open breaker waits before it lets a report decide -/
  breakerTimeoutMs : UInt64 := 60000
  /-- points of one instance on the hash ring -/
  hashReplicas : UInt32 := 100
  /-- whether random choice follows the weights -/
  weightedRandom : Bool := false
  /-- weight of the newest response time in the smoothed average -/
  responseTimeAlpha : Float := 0.3
  /-- number of latest reports that make up the success rate -/
  successWindow : UInt64 := 20
  /-- success rate below which performance based choice avoids an instance -/
  minSuccessRate : Float := 0.5
  deriving DecidableEq, Repr, Inhabited

namespace BalancerConfig

def breakerTimeout (c : BalancerConfig) : Duration := .ofMillis c.breakerTimeoutMs.toNat

end BalancerConfig

/-- What the registry does at registration. -/
structure RegistryConfig where
  initialStatus : Status := .healthy
  deriving DecidableEq, Repr, Inhabited

/-- What a node shows of itself. -/
structure ObservabilityConfig where
  logLevel : String := "info"
  metricsEnabled : Bool := false
  metricsAddress : String := "127.0.0.1:9090"
  deriving DecidableEq, Repr, Inhabited

/-- A service that is registered when the node comes up. -/
structure Seed where
  name : String
  id : String
  endpoint : String
  port : UInt16
  weight : UInt32 := 1
  /-- metadata as JSON text -/
  metadata : Option String := none
  deriving DecidableEq, Repr, Inhabited

/-- The settings of a node. -/
structure Config where
  nodeId : String := ""
  listenPort : UInt16 := 0
  healthCheck : HealthConfig := {}
  loadBalancer : BalancerConfig := {}
  registry : RegistryConfig := {}
  observability : ObservabilityConfig := {}
  services : List Seed := []
  deriving DecidableEq, Repr, Inhabited

end ServiceMesh
