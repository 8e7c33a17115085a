/-!
# Rounding a quotient

Numbers are written and measured on grids: nanoseconds, one decimal place. A quotient
is moved to the nearest point of the grid, and from the middle between two points to
the even one.
-/

namespace ServiceMesh.Decimal

/-- A power of ten. -/
def tenTo (n : Nat) : Nat := Nat.pow 10 n

/-- The natural number nearest to `num / den`; the even one of two equally near. -/
def roundHalfEven (num den : Nat) : Nat :=
  let q := num / den
  let r := num % den
  if 2 * r < den then q
  else if den < 2 * r then q + 1
  else if q % 2 = 0 then q else q + 1

end ServiceMesh.Decimal
