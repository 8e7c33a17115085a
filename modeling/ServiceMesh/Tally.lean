/-!
# Tallies

A tally counts events by their kind. Kinds that never occurred have no entry.
-/

namespace ServiceMesh

/-- Counts by kind, in the order in which the kinds first occurred. -/
abbrev Tally (κ : Type u) := List (κ × Nat)

namespace Tally

variable {κ : Type u} [DecidableEq κ]

/-- Count one event. -/
def add (kind : κ) : Tally κ → Tally κ
  | [] => [(kind, 1)]
  | (k, n) :: rest => if k = kind then (k, n + 1) :: rest else (k, n) :: add kind rest

end Tally

end ServiceMesh
