import ServiceMesh.Config.Basic
import ServiceMesh.Json.Basic

/-!
# Configurations as JSON

Every field is written, in the order in which its section declares it.
-/

namespace ServiceMesh

def HealthConfig.toJson (c : HealthConfig) : Json :=
  .obj
    [("interval_ms", .int c.intervalMs.toNat),
     ("timeout_ms", .int c.timeoutMs.toNat),
     ("max_failures", .int c.maxFailures.toNat),
     ("recovery_checks", .int c.recoveryChecks.toNat)]

def BalancerConfig.toJson (c : BalancerConfig) : Json :=
  .obj
    [("algorithm", .str c.algorithm.name),
     ("enable_circuit_breaker", .bool c.breakerEnabled),
     ("circuit_breaker_threshold", .int c.breakerThreshold.toNat),
     ("circuit_breaker_timeout_ms", .int c.breakerTimeoutMs.toNat),
     ("hash_replicas", .int c.hashReplicas.toNat),
     ("weighted_random", .bool c.weightedRandom),
     ("response_time_alpha", .float c.responseTimeAlpha),
     ("success_window", .int c.successWindow.toNat),
     ("min_success_rate", .float c.minSuccessRate)]

def RegistryConfig.toJson (c : RegistryConfig) : Json :=
  .obj [("initial_status", .str c.initialStatus.name)]

def ObservabilityConfig.toJson (c : ObservabilityConfig) : Json :=
  .obj
    [("log_level", .str c.logLevel),
     ("metrics_enabled", .bool c.metricsEnabled),
     ("metrics_address", .str c.metricsAddress)]

def Seed.toJson (s : Seed) : Json :=
  .obj
    [("name", .str s.name),
     ("id", .str s.id),
     ("endpoint", .str s.endpoint),
     ("port", .int s.port.toNat),
     ("weight", .int s.weight.toNat),
     ("metadata", match s.metadata with
       | none => .null
       | some text => .str text)]

def Config.toJson (c : Config) : Json :=
  .obj
    [("node_id", .str c.nodeId),
     ("listen_port", .int c.listenPort.toNat),
     ("health_check", c.healthCheck.toJson),
     ("load_balancer", c.loadBalancer.toJson),
     ("registry", c.registry.toJson),
     ("observability", c.observability.toJson),
     ("services", .arr (c.services.map Seed.toJson))]

end ServiceMesh
