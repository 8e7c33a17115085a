import ServiceMesh.Balancer.Ring

/-!
# Drawn numbers

Random choices take their numbers from a sequence: a counter that moves by a fixed odd
step, each value spread over all 64 bits. The sequence repeats only after `2 ^ 64`
numbers.
-/

namespace ServiceMesh

/-- A place in the sequence. -/
structure Draws where
  counter : UInt64 := 0
  deriving DecidableEq, Repr, Inhabited

/-- The next number. -/
def Draws.next (d : Draws) : UInt64 × Draws :=
  let counter := d.counter + 0x9e3779b97f4a7c15
  (spread counter, ⟨counter⟩)

end ServiceMesh
