import ServiceMesh.Decimal.Binary64
import ServiceMesh.Decimal.Rounding

/-!
# A fixed number of decimal places

Shares are printed with one decimal place. The exact value of the number is rounded
to the grid, a half going to the even neighbour, so 6.25 is written 6.2.
-/

namespace ServiceMesh.Decimal

/-- Digits with a point before the last `places` of them. -/
def pointed (places n : Nat) : String :=
  let fraction := toString (n % tenTo places)
  toString (n / tenTo places) ++ "." ++ "".pushn '0' (places - fraction.length) ++ fraction

/-- A finite number with one decimal place. -/
def oneDecimal (x : Float) : String :=
  match Binary64.ofFloat? x with
  | none => ""
  | some b =>
    let (num, den) := b.ratio
    (if b.negative then "-" else "") ++ pointed 1 (roundHalfEven (num * 10) den)

end ServiceMesh.Decimal
