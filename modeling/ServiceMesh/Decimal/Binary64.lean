/-!
# Binary64 numbers as exact values

A finite binary64 number is a sign, a whole significand and a power of two. Printing
and time keeping work on that exact value, never on an intermediate text. The module
also gives the total order of all binary64 bit patterns, which selection uses so that
no two averages are incomparable.
-/

namespace ServiceMesh.Decimal

/-- The value `± significand * 2 ^ exponent` of a finite binary64 number. -/
structure Binary64 where
  negative : Bool
  significand : Nat
  exponent : Int
  deriving Repr, DecidableEq

namespace Binary64

/-- The leading bit of a significand, which is not stored. -/
def leadingBit : Nat := 1 <<< 52

/-- The exact value of a finite number; infinities and NaN have none. A stored
exponent of zero marks the numbers without the hidden leading bit. -/
def ofFloat? (x : Float) : Option Binary64 :=
  let bits := x.toBits.toNat
  let stored : Nat := (bits >>> 52) % 2048
  let fraction : Nat := bits % leadingBit
  let negative := bits >>> 63 == 1
  if stored = 2047 then none
  else if stored = 0 then some ⟨negative, fraction, -1074⟩
  else some ⟨negative, leadingBit + fraction, (stored : Int) - 1075⟩

/-- The absolute value as a quotient of natural numbers. -/
def ratio (x : Binary64) : Nat × Nat :=
  if 0 ≤ x.exponent then (x.significand <<< x.exponent.toNat, 1)
  else (x.significand, 1 <<< (-x.exponent).toNat)

end Binary64

/-- The bit of the sign. -/
def signBit : Nat := 1 <<< 63

/-- The place of a number in the total order of binary64: negative NaN, then the
negative numbers, -0, 0, the positive numbers and positive NaN. -/
def orderKey (x : Float) : Nat :=
  let bits := x.toBits.toNat
  if bits < signBit then bits + signBit else 2 * signBit - 1 - bits

/-- The binary64 number nearest to `digits * 10 ^ exponent`, a tie going to the even
significand. Beyond the range the answer is infinity or zero; the exponent is cut at
the ends of the range so that no large power is ever computed. -/
def ofScientific (digits : Nat) (exponent : Int) : Float :=
  if digits = 0 then 0.0
  else if 310 < exponent then 1.0 / 0.0
  else
    let size : Int := (toString digits).length
    if exponent + size < -330 then 0.0
    else if 310 < exponent + size then 1.0 / 0.0
    else Float.ofScientific digits (exponent < 0) exponent.natAbs

end ServiceMesh.Decimal
