import ServiceMesh.Json.Basic

/-!
# Reading JSON numbers

A number without fraction and exponent is an integer while it fits 64 bits. Every other
number is read in two steps: its digits are collected into a 64-bit significand, digits
that no longer fit only count as powers of ten, and the significand is then scaled by
powers of ten in binary64 arithmetic. Each scaling rounds once, so a number of many
digits may differ in its last bit from the nearest one. A number beyond the binary64
range is refused.
-/

namespace ServiceMesh.Json

/-- The parts of a written number: its digits before and after the point and its power
of ten. Absent parts are `none`, so `1`, `1.0` and `1e0` stay apart. -/
structure Numeral where
  negative : Bool
  whole : List Char
  fraction : Option (List Char)
  exponent : Option (Bool × List Char)
  deriving Repr

def digitValue (c : Char) : Nat := c.toNat - '0'.toNat

/-- The number written by decimal digits. -/
def digitsValue (cs : List Char) : Nat := cs.foldl (fun n c => 10 * n + digitValue c) 0

/-- Collect digits while the significand stays below `2 ^ 64`. The answer is the
significand and the number of digits that were left out. -/
def gather : Nat → List Char → Nat × Nat
  | n, [] => (n, 0)
  | n, c :: rest =>
    if 10 * n + digitValue c < UInt64.size then gather (10 * n + digitValue c) rest
    else (n, rest.length + 1)

/-- The powers of ten up to `10 ^ 308`, each the nearest binary64 number. -/
def powerOfTen (n : Nat) : Float := Float.ofScientific 1 false n

/-- Scale a significand by a power of ten. Exponents below -308 are taken in steps. -/
def scale : Nat → Float → Int → Option Float
  | 0, _, _ => some 0.0
  | fuel + 1, f, exponent =>
    if exponent.natAbs ≤ 308 then
      if 0 ≤ exponent then
        let scaled := f * powerOfTen exponent.natAbs
        if scaled.isInf then none else some scaled
      else some (f / powerOfTen exponent.natAbs)
    else if f == 0.0 then some f
    else if 0 ≤ exponent then none
    else scale fuel (f / powerOfTen 308) (exponent + 308)

/-- The value of a number that is not an integer. A significand of 64 bits is scaled to
zero after three steps of `10 ^ 308`. -/
def Numeral.toFloat? (n : Numeral) : Option Float :=
  let (front, left) := gather 0 n.whole
  let fraction := n.fraction.getD []
  let (significand, dropped) := gather front fraction
  let shift : Int := (left : Int) - (fraction.length - dropped : Nat)
  let power : Int := match n.exponent with
    | none => 0
    | some (negative, digits) =>
      if negative then -(digitsValue digits : Int) else digitsValue digits
  let magnitude :=
    if power < 2_147_483_648 then scale 4 (Float.ofNat significand) (shift + power)
    else if significand = 0 then some 0.0 else none
  magnitude.map fun f => if n.negative then -f else f

/-- The value of a number. A negative zero keeps its sign as a binary64 number. -/
def Numeral.value? (n : Numeral) : Option Json :=
  if n.fraction.isNone && n.exponent.isNone then
    let magnitude := digitsValue n.whole
    if n.negative then
      if magnitude = 0 then some (.float (-0.0))
      else if magnitude ≤ 9_223_372_036_854_775_808 then some (.int (-magnitude))
      else n.toFloat?.map .float
    else if magnitude < UInt64.size then some (.int magnitude)
    else n.toFloat?.map .float
  else n.toFloat?.map .float

/-- Split digits from the front. -/
def takeDigits (cs : List Char) : List Char × List Char :=
  (cs.takeWhile Char.isDigit, cs.dropWhile Char.isDigit)

/-- The exponent of a number, if the text is nothing else. -/
def readExponent : List Char → Option (Option (Bool × List Char))
  | [] => some none
  | e :: rest =>
    if e = 'e' ∨ e = 'E' then
      let (negative, digits) := match rest with
        | '-' :: ds => (true, ds)
        | '+' :: ds => (false, ds)
        | ds => (false, ds)
      if digits.isEmpty || !digits.all Char.isDigit then none else some (some (negative, digits))
    else none

/-- Read a whole text as a number: an optional minus, digits without a needless leading
zero, then perhaps a point with digits and an exponent with digits. -/
def Numeral.read (cs : List Char) : Option Numeral :=
  let (negative, cs) := match cs with
    | '-' :: rest => (true, rest)
    | _ => (false, cs)
  let (whole, rest) := takeDigits cs
  if whole.isEmpty || (whole.length > 1 && whole.head? == some '0') then none
  else
    match rest with
    | '.' :: rest =>
      let (fraction, rest) := takeDigits rest
      if fraction.isEmpty then none
      else (readExponent rest).map fun e => ⟨negative, whole, some fraction, e⟩
    | _ => (readExponent rest).map fun e => ⟨negative, whole, none, e⟩

end ServiceMesh.Json
