import ServiceMesh.Config.Basic
import ServiceMesh.Status

/-!
# Health trackers

A tracker counts outcomes in a row. An instance becomes unhealthy when failures in a row
reach the limit, and leaves that status when successes in a row reach the limit for
recovery. The failures of an instance that is already unhealthy, and the successes of
one that is not, are not counted.
-/

namespace ServiceMesh

/-- Outcomes in a row. The counts have 32 bits. -/
structure Tracker where
  failures : UInt32 := 0
  successes : UInt32 := 0
  deriving DecidableEq, Repr, Inhabited

namespace Tracker

/-- Take one outcome. The answer holds the status that follows from it. -/
def observe (t : Tracker) (current : Status) (outcome : Outcome) (config : HealthConfig) :
    Status × Tracker :=
  if outcome.isSuccess then
    if current ≠ .unhealthy then (outcome.landing, { failures := 0, successes := 0 })
    else if config.recoveryChecks ≤ t.successes + 1 then
      (outcome.landing, { failures := 0, successes := 0 })
    else (.unhealthy, { failures := 0, successes := t.successes + 1 })
  else if current = .unhealthy then (current, { t with successes := 0 })
  else if config.maxFailures ≤ t.failures + 1 then (.unhealthy, { failures := 0, successes := 0 })
  else (current, { failures := t.failures + 1, successes := 0 })

end Tracker

end ServiceMesh
