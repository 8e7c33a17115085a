import ServiceMesh.Config.Basic
import ServiceMesh.Json.Basic

/-!
# Decoding configurations

A section is written as an object or as an array. In an object the fields are found by
name and unknown ones are ignored; in an array they stand in the order in which the
section declares them, and an array may end early. A field that is absent takes its
default, and a section without a default for it is refused. Numbers must fit the width
of their field; an integer may stand for a binary64 number and not the other way round.

The two text formats of configurations differ in two points, which a dialect names:
whether an array may be longer than its section, and what counts as an empty value.
-/

namespace ServiceMesh.Config

/-- The points in which the text formats differ. -/
structure Dialect where
  /-- whether elements after the last field of a section are ignored -/
  surplus : Bool
  /-- the values that say no more than the name they are given to -/
  isUnit : Json → Bool

/-- JSON: an array has at most as many elements as the section has fields, and the empty
value is `null`. -/
def Dialect.json : Dialect :=
  { surplus := false
    isUnit := fun | .null => true | _ => false }

/-- TOML: surplus elements are ignored, and an empty table or array is the empty value. -/
def Dialect.toml : Dialect :=
  { surplus := true
    isUnit := fun | .obj [] | .arr [] => true | _ => false }

/-- The written fields of a section. -/
inductive Section where
  | named (fields : List (String × Json))
  | positional (items : List Json)

namespace Section

/-- Open a section with a number of fields. -/
def ofJson? (dialect : Dialect) (arity : Nat) : Json → Option Section
  | .obj fields => some (.named fields)
  | .arr items =>
    if dialect.surplus || items.length ≤ arity then some (.positional items) else none
  | _ => none

/-- What is written for the field with a position and a name. -/
def written? (s : Section) (position : Nat) (name : String) : Option Json :=
  match s with
  | .named fields => Json.lookup name fields
  | .positional items => items[position]?

/-- A field that must be written. -/
def required (s : Section) (position : Nat) (name : String) (decode : Json → Option α) :
    Option α :=
  (s.written? position name).bind decode

/-- A field with a default. -/
def optional (s : Section) (position : Nat) (name : String) (default : α)
    (decode : Json → Option α) : Option α :=
  match s.written? position name with
  | none => some default
  | some value => decode value

end Section

/-- A natural number below a bound. -/
def natBelow? (bound : Nat) : Json → Option Nat
  | .int n => if 0 ≤ n ∧ n < bound then some n.toNat else none
  | _ => none

def uint16? (v : Json) : Option UInt16 := (natBelow? UInt16.size v).map Nat.toUInt16
def uint32? (v : Json) : Option UInt32 := (natBelow? UInt32.size v).map Nat.toUInt32
def uint64? (v : Json) : Option UInt64 := (natBelow? UInt64.size v).map Nat.toUInt64

def float? : Json → Option Float
  | .float x => some x
  | .int n => some (Float.ofInt n)
  | _ => none

def bool? : Json → Option Bool
  | .bool b => some b
  | _ => none

/-- A text or nothing. -/
def optionalText? : Json → Option (Option String)
  | .null => some none
  | .str s => some (some s)
  | _ => none

/-- A list whose elements all decode. -/
def list? (decode : Json → Option α) : Json → Option (List α)
  | .arr items => items.mapM decode
  | _ => none

/-- A value of a finite kind: its name, or an object whose only field has that name and
an empty value. -/
def choice? (dialect : Dialect) (ofName? : String → Option α) : Json → Option α
  | .str s => ofName? s
  | .obj [(name, value)] => if dialect.isUnit value then ofName? name else none
  | _ => none

def algorithm? (d : Dialect) : Json → Option Algorithm := choice? d Algorithm.ofName?
def status? (d : Dialect) : Json → Option Status := choice? d Status.ofName?

def health? (d : Dialect) (v : Json) : Option HealthConfig := do
  let s ← Section.ofJson? d 4 v
  let base : HealthConfig := {}
  let intervalMs ← s.optional 0 "interval_ms" base.intervalMs uint64?
  let timeoutMs ← s.optional 1 "timeout_ms" base.timeoutMs uint64?
  let maxFailures ← s.optional 2 "max_failures" base.maxFailures uint32?
  let recoveryChecks ← s.optional 3 "recovery_checks" base.recoveryChecks uint32?
  return { intervalMs, timeoutMs, maxFailures, recoveryChecks }

def balancer? (d : Dialect) (v : Json) : Option BalancerConfig := do
  let s ← Section.ofJson? d 9 v
  let base : BalancerConfig := {}
  let algorithm ← s.optional 0 "algorithm" base.algorithm (algorithm? d)
  let breakerEnabled ← s.optional 1 "enable_circuit_breaker" base.breakerEnabled bool?
  let breakerThreshold ←
    s.optional 2 "circuit_breaker_threshold" base.breakerThreshold uint32?
  let breakerTimeoutMs ←
    s.optional 3 "circuit_breaker_timeout_ms" base.breakerTimeoutMs uint64?
  let hashReplicas ← s.optional 4 "hash_replicas" base.hashReplicas uint32?
  let weightedRandom ← s.optional 5 "weighted_random" base.weightedRandom bool?
  let responseTimeAlpha ← s.optional 6 "response_time_alpha" base.responseTimeAlpha float?
  let successWindow ← s.optional 7 "success_window" base.successWindow uint64?
  let minSuccessRate ← s.optional 8 "min_success_rate" base.minSuccessRate float?
  return { algorithm, breakerEnabled, breakerThreshold, breakerTimeoutMs, hashReplicas,
           weightedRandom, responseTimeAlpha, successWindow, minSuccessRate }

def registryConfig? (d : Dialect) (v : Json) : Option RegistryConfig := do
  let s ← Section.ofJson? d 1 v
  let base : RegistryConfig := {}
  let initialStatus ← s.optional 0 "initial_status" base.initialStatus (status? d)
  return { initialStatus }

def observability? (d : Dialect) (v : Json) : Option ObservabilityConfig := do
  let s ← Section.ofJson? d 3 v
  let base : ObservabilityConfig := {}
  let logLevel ← s.optional 0 "log_level" base.logLevel Json.text?
  let metricsEnabled ← s.optional 1 "metrics_enabled" base.metricsEnabled bool?
  let metricsAddress ← s.optional 2 "metrics_address" base.metricsAddress Json.text?
  return { logLevel, metricsEnabled, metricsAddress }

def seed? (d : Dialect) (v : Json) : Option Seed := do
  let s ← Section.ofJson? d 6 v
  let name ← s.required 0 "name" Json.text?
  let id ← s.required 1 "id" Json.text?
  let endpoint ← s.required 2 "endpoint" Json.text?
  let port ← s.required 3 "port" uint16?
  let weight ← s.optional 4 "weight" 1 uint32?
  let metadata ← s.optional 5 "metadata" none optionalText?
  return { name, id, endpoint, port, weight, metadata }

/-- The configuration that a value describes. -/
def ofJson? (d : Dialect) (v : Json) : Option Config := do
  let s ← Section.ofJson? d 7 v
  let base : Config := {}
  let nodeId ← s.optional 0 "node_id" base.nodeId Json.text?
  let listenPort ← s.optional 1 "listen_port" base.listenPort uint16?
  let healthCheck ← s.optional 2 "health_check" base.healthCheck (health? d)
  let loadBalancer ← s.optional 3 "load_balancer" base.loadBalancer (balancer? d)
  let registry ← s.optional 4 "registry" base.registry (registryConfig? d)
  let observability ← s.optional 5 "observability" base.observability (observability? d)
  let services ← s.optional 6 "services" base.services (list? (seed? d))
  return { nodeId, listenPort, healthCheck, loadBalancer, registry, observability, services }

end ServiceMesh.Config
