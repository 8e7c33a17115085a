import ServiceMesh.Decimal.Binary64
import ServiceMesh.Decimal.Rounding

/-!
# The shortest decimal that reads back

A binary64 number is printed with the fewest significant digits that still name it,
and of several such decimals with the nearest one. The numbers that read back as `x`
form an interval around `x`; its ends belong to it when the significand of `x` is even,
because a tie is read as the even neighbour.

The search tries the decimal grids from coarse to fine. On each grid only the two
neighbours of the exact value can be the nearest point inside the interval.
-/

namespace ServiceMesh.Decimal

/-- A positive decimal number `digits * 10 ^ exponent`. -/
structure Scientific where
  digits : Nat
  exponent : Int
  deriving Repr, DecidableEq

namespace Scientific

/-- Leave out trailing zeros of the digits. -/
def trim : Nat → Scientific → Scientific
  | 0, d => d
  | fuel + 1, d =>
    if d.digits ≠ 0 ∧ d.digits % 10 = 0 then trim fuel ⟨d.digits / 10, d.exponent + 1⟩ else d

end Scientific

/-- The interval of values that read back as one number, all counted in units of
`2 ^ unit`: the value itself and its two ends. -/
structure Interval where
  low : Nat
  value : Nat
  high : Nat
  unit : Int
  closed : Bool

/-- The interval around a number. Below a power of two the neighbour is half as far
away, unless the number is already on the finest grid. -/
def Binary64.interval (x : Binary64) : Interval :=
  let narrow := x.significand = Binary64.leadingBit ∧ x.exponent ≠ -1074
  { low := 4 * x.significand - (if narrow then 1 else 2)
    value := 4 * x.significand
    high := 4 * x.significand + 2
    unit := x.exponent - 2
    closed := x.significand % 2 == 0 }

namespace Interval

/-- The factors that bring `n * 2 ^ unit` and `k * 10 ^ exponent` to one scale. -/
def scales (i : Interval) (exponent : Int) : Nat × Nat :=
  (tenTo (-exponent).toNat <<< i.unit.toNat, tenTo exponent.toNat <<< (-i.unit).toNat)

/-- Whether the grid point `k * 10 ^ exponent` reads back as the value. -/
def contains (i : Interval) (exponent : Int) (k : Nat) : Bool :=
  let (bin, dec) := i.scales exponent
  if i.closed then i.low * bin ≤ k * dec && k * dec ≤ i.high * bin
  else i.low * bin < k * dec && k * dec < i.high * bin

/-- The grid point nearest to the value that reads back, if the grid has one. A tie
goes to the even point. -/
def nearest? (i : Interval) (exponent : Int) : Option Nat :=
  let (bin, dec) := i.scales exponent
  let below := i.value * bin / dec
  let above := below + 1
  let lower := i.contains exponent below && below != 0
  let upper := i.contains exponent above
  let toLower := i.value * bin - below * dec
  let toUpper := above * dec - i.value * bin
  match lower, upper with
  | true, true =>
    if toLower < toUpper then some below
    else if toUpper < toLower then some above
    else if below % 2 = 0 then some below else some above
  | true, false => some below
  | false, true => some above
  | false, false => none

/-- Try the grids from `10 ^ exponent` downwards. -/
def search (i : Interval) : Nat → Int → Scientific
  | 0, exponent => ⟨i.value * (i.scales exponent).1 / (i.scales exponent).2, exponent⟩
  | fuel + 1, exponent =>
    match i.nearest? exponent with
    | some k => ⟨k, exponent⟩
    | none => search i fuel (exponent - 1)

end Interval

/-- The shortest decimal that reads back as the absolute value of a finite number
other than zero. No binary64 number reaches `10 ^ 309`, and seventeen digits always
suffice, so the search from there ends. -/
def Binary64.shortest (x : Binary64) : Scientific :=
  (x.interval.search 640 309).trim 20

/-- How a number is laid out: exponents from `-5` to `16` are written positionally
with at least one decimal place, all others with a power of ten. -/
def Scientific.layout (d : Scientific) : String :=
  let digits := toString d.digits
  let length : Int := digits.length
  let point := length + d.exponent
  if 0 ≤ d.exponent ∧ point ≤ 16 then
    digits ++ "".pushn '0' d.exponent.toNat ++ ".0"
  else if 0 < point ∧ point ≤ 16 then
    String.ofList (digits.toList.take point.toNat) ++ "." ++
      String.ofList (digits.toList.drop point.toNat)
  else if -5 < point ∧ point ≤ 0 then
    "0." ++ "".pushn '0' (-point).toNat ++ digits
  else
    let mantissa := match digits.toList with
      | [] => ""
      | [c] => String.ofList [c]
      | c :: rest => String.ofList (c :: '.' :: rest)
    mantissa ++ "e" ++ toString (point - 1)

/-- The text of a finite number: its shortest decimal, `-` before negative ones, zero
with its sign. Other values have no number text. -/
def shortestText? (x : Float) : Option String := do
  let b ← Binary64.ofFloat? x
  let sign := if b.negative then "-" else ""
  if b.significand = 0 then some (sign ++ "0.0") else some (sign ++ b.shortest.layout)

end ServiceMesh.Decimal
