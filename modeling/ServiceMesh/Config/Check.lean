import ServiceMesh.Config.Basic
import ServiceMesh.Failure
import ServiceMesh.Text.Blank

/-!
# Checking configurations

A configuration is usable when it breaks none of the rules below. Checking gives every
broken rule, in the order in which the schema declares the fields, so that an operator
sees all problems at once.
-/

namespace ServiceMesh

/-- A rule that a configuration breaks. Seeds are counted from zero. -/
inductive Problem where
  | zeroInterval
  | zeroTimeout
  | noMaxFailures
  | noRecoveryChecks
  | noBreakerThreshold
  | zeroBreakerTimeout
  | noHashReplicas
  | alphaOutOfRange
  | noSuccessWindow
  | successRateOutOfRange
  | blankSeedName (index : Nat)
  | blankSeedId (index : Nat)
  | duplicateSeedId (index : Nat) (id : String)
  | zeroSeedWeight (index : Nat)
  deriving DecidableEq, Repr

namespace Problem

/-- The place of a field of a seed. -/
def seedField (index : Nat) (name : String) : String :=
  "services[" ++ toString index ++ "]." ++ name

/-- The dotted path of the field that breaks the rule. -/
def field : Problem → String
  | zeroInterval => "health_check.interval_ms"
  | zeroTimeout => "health_check.timeout_ms"
  | noMaxFailures => "health_check.max_failures"
  | noRecoveryChecks => "health_check.recovery_checks"
  | noBreakerThreshold => "load_balancer.circuit_breaker_threshold"
  | zeroBreakerTimeout => "load_balancer.circuit_breaker_timeout_ms"
  | noHashReplicas => "load_balancer.hash_replicas"
  | alphaOutOfRange => "load_balancer.response_time_alpha"
  | noSuccessWindow => "load_balancer.success_window"
  | successRateOutOfRange => "load_balancer.min_success_rate"
  | blankSeedName i => seedField i "name"
  | blankSeedId i => seedField i "id"
  | duplicateSeedId i _ => seedField i "id"
  | zeroSeedWeight i => seedField i "weight"

/-- What the rule asks for. -/
def message : Problem → String
  | zeroInterval | zeroTimeout | zeroBreakerTimeout => "must be greater than zero"
  | noMaxFailures | noRecoveryChecks | noBreakerThreshold | noHashReplicas
  | noSuccessWindow | zeroSeedWeight _ => "must be at least 1"
  | alphaOutOfRange => "must be within (0, 1]"
  | successRateOutOfRange => "must be within [0, 1]"
  | blankSeedName _ | blankSeedId _ => "must not be empty"
  | duplicateSeedId _ id => "duplicate service id '" ++ id ++ "'"

/-- A problem on one line. -/
def text (p : Problem) : String := p.field ++ ": " ++ p.message

end Problem

/-- A problem that is there if a rule is broken. -/
def Problem.when (broken : Bool) (p : Problem) : List Problem := if broken then [p] else []

/-- The broken rules of a health check section. -/
def HealthConfig.problems (c : HealthConfig) : List Problem :=
  Problem.when (c.intervalMs == 0) .zeroInterval ++
  Problem.when (c.timeoutMs == 0) .zeroTimeout ++
  Problem.when (c.maxFailures == 0) .noMaxFailures ++
  Problem.when (c.recoveryChecks == 0) .noRecoveryChecks

/-- The broken rules of a load balancer section. A rate that is not a number is out of
every range. -/
def BalancerConfig.problems (c : BalancerConfig) : List Problem :=
  Problem.when (c.breakerThreshold == 0) .noBreakerThreshold ++
  Problem.when (c.breakerTimeoutMs == 0) .zeroBreakerTimeout ++
  Problem.when (c.hashReplicas == 0) .noHashReplicas ++
  Problem.when (!(c.responseTimeAlpha > 0.0 && c.responseTimeAlpha ≤ 1.0)) .alphaOutOfRange ++
  Problem.when (c.successWindow == 0) .noSuccessWindow ++
  Problem.when (!(0.0 ≤ c.minSuccessRate && c.minSuccessRate ≤ 1.0)) .successRateOutOfRange

/-- The broken rules of the seeds from an index on, where `seen` are the ids before it.
A blank id is reported as blank only, and is never a duplicate. -/
def seedProblems (seen : List String) (index : Nat) : List Seed → List Problem
  | [] => []
  | seed :: rest =>
    let blankId := Text.isBlank seed.id
    Problem.when (Text.isBlank seed.name) (.blankSeedName index) ++
    Problem.when blankId (.blankSeedId index) ++
    Problem.when (!blankId && seen.contains seed.id) (.duplicateSeedId index seed.id) ++
    Problem.when (seed.weight == 0) (.zeroSeedWeight index) ++
    seedProblems (if blankId then seen else seed.id :: seen) (index + 1) rest

/-- The broken rules of a configuration. -/
def Config.problems (c : Config) : List Problem :=
  c.healthCheck.problems ++ c.loadBalancer.problems ++ seedProblems [] 0 c.services

/-- Problems as one text. -/
def Problem.join (separator : String) (ps : List Problem) : String :=
  separator.intercalate (ps.map text)

/-- A section is accepted when it breaks no rule. -/
def Problem.accept (separator : String) (ps : List Problem) : Except Failure Unit :=
  if ps.isEmpty then .ok () else .error (.configuration (join separator ps))

theorem Problem.accept_eq_ok_iff {separator : String} {ps : List Problem} :
    accept separator ps = .ok () ↔ ps = [] := by
  unfold accept
  split <;> simp_all

/-- Accept a health check section on its own. -/
def HealthConfig.check (c : HealthConfig) : Except Failure Unit :=
  Problem.accept ", " c.problems

/-- Accept a load balancer section on its own. -/
def BalancerConfig.check (c : BalancerConfig) : Except Failure Unit :=
  Problem.accept ", " c.problems

/-- Accept a whole configuration. -/
def Config.check (c : Config) : Except Failure Unit :=
  Problem.accept "; " c.problems

end ServiceMesh
