import ServiceMesh.Health.Loop
import ServiceMesh.Status

/-!
# Probe targets

A target is what a probe of one id meets. It counts the probes, answers them after a
delay or lets them hang, and gives the outcomes that were queued for it, then its steady
outcome, and without one it is up.
-/

namespace ServiceMesh

/-- What the probes of one id meet. -/
structure Target where
  outcomes : List Outcome := []
  steady : Option Outcome := none
  delay : Nat := 0
  hanging : Bool := false
  calls : Nat := 0
  deriving DecidableEq, Repr, Inhabited

namespace Target

/-- What a probe that begins now will meet. -/
def reaction (t : Target) : Reaction := if t.hanging then .hangs else .answers t.delay

/-- The target with one more probe begun. -/
def called (t : Target) : Target := { t with calls := t.calls + 1 }

/-- The outcome of a probe that is answered now. -/
def answer (t : Target) : Outcome × Target :=
  match t.outcomes with
  | outcome :: rest => (outcome, { t with outcomes := rest })
  | [] => (t.steady.getD .up, t)

end Target

end ServiceMesh
