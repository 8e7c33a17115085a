import ServiceMesh.Duration
import ServiceMesh.Status

/-!
# Check histories

The latest checks of a service are kept, oldest first, up to a fixed number. A summary
gives the share of successful probes, the share of checks after which the service could
be selected, and the mean response time of the probes that answered.
-/

namespace ServiceMesh

/-- One check that was applied. -/
structure Check where
  outcome : Outcome
  /-- the status after the check -/
  status : Status
  /-- absent if the probe timed out -/
  time : Option Duration
  deriving DecidableEq

/-- A summary of checks. -/
structure HistorySummary where
  checks : List Check
  /-- share of successful probes; one without checks -/
  successRate : Float
  /-- share of checks that left the service selectable, in percent -/
  uptimePercent : Float
  /-- mean response time of the probes that answered -/
  averageTime : Option Duration

/-- The latest checks of a service, oldest first. -/
structure History where
  checks : List Check := []
  deriving DecidableEq, Inhabited

namespace History

/-- The number of checks that are kept. -/
def capacity : Nat := 100

/-- Add a check; the oldest one makes room. -/
def push (h : History) (c : Check) : History :=
  ⟨(if h.checks.length = capacity then h.checks.drop 1 else h.checks) ++ [c]⟩

/-- A part of a whole as a binary64 number. -/
def share (part whole : Nat) : Float := Float.ofNat part / Float.ofNat whole

/-- The mean of durations, rounded down to the nanosecond. -/
def mean : List Duration → Option Duration
  | [] => none
  | times => some ((times.foldl (· + ·) Duration.zero).share times.length)

/-- The summary of the checks. -/
def summary (h : History) : HistorySummary :=
  let total := h.checks.length
  { checks := h.checks
    successRate :=
      if total = 0 then 1.0 else share (h.checks.countP fun c => c.outcome.isSuccess) total
    uptimePercent :=
      if total = 0 then 100.0
      else share (h.checks.countP fun c => c.status.selectable) total * 100.0
    averageTime := mean (h.checks.filterMap Check.time) }

end History

end ServiceMesh
