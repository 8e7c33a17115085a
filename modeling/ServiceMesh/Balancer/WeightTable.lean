import ServiceMesh.Balancer.Candidate

/-!
# Weight tables

Weighted choices lay the candidates side by side on a line, each as long as its weight.
A position on the line belongs to the candidate it falls on.
-/

namespace ServiceMesh

/-- The upper ends of the candidates on the line. -/
structure WeightTable where
  ends : List Nat
  deriving DecidableEq, Repr

namespace WeightTable

/-- The running sums of lengths. -/
def sums (start : Nat) : List Nat → List Nat
  | [] => []
  | n :: rest => (start + n) :: sums (start + n) rest

/-- The table of a list of candidates. -/
def ofCandidates (cs : List Candidate) : WeightTable := ⟨sums 0 (cs.map Candidate.share)⟩

/-- The length of the line. -/
def total (t : WeightTable) : Nat := t.ends.getLast?.getD 0

/-- The candidate that a position belongs to. -/
def owner? (t : WeightTable) (position : Nat) : Option Nat :=
  if position < t.total then some (t.ends.takeWhile (· ≤ position)).length else none

end WeightTable

end ServiceMesh
