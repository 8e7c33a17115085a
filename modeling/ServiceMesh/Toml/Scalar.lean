import ServiceMesh.Decimal.Binary64
import ServiceMesh.Json.Number

/-!
# TOML numbers, dates and words

A value that is neither a string nor a container is one word without blanks and
punctuation. Its kind is decided by its form alone: the words for the truth values,
infinity and NaN, dates and times, integers in four bases and binary64 numbers.
-/

namespace ServiceMesh.Toml

/-- The characters that end a word. -/
def isDelimiter (c : Char) : Bool :=
  c == ' ' || c == '\t' || c == '\n' || c == '\r' || c == ',' || c == ']' || c == '}' || c == '#'

/-- Digits of a base with single underscores between them, the underscores left out. -/
def digits? (isDigit : Char → Bool) : List Char → Option (List Char)
  | [] => none
  | [c] => if isDigit c then some [c] else none
  | c :: '_' :: rest => if isDigit c then (digits? isDigit rest).map (c :: ·) else none
  | c :: rest => if isDigit c then (digits? isDigit rest).map (c :: ·) else none

/-- The digits of a decimal integer: no needless zero in front. -/
def wholeDigits? (cs : List Char) : Option (List Char) :=
  match cs with
  | ['0'] => some ['0']
  | '0' :: _ => none
  | cs => digits? Char.isDigit cs

/-- A word without its sign. -/
def splitSign : List Char → Option Bool × List Char
  | '+' :: rest => (some false, rest)
  | '-' :: rest => (some true, rest)
  | cs => (none, cs)

/-- An integer must fit 64 bits with a sign. -/
def signed64? (negative : Bool) (magnitude : Nat) : Option Json :=
  if negative then
    if magnitude ≤ 9_223_372_036_854_775_808 then some (.int (-magnitude)) else none
  else if magnitude < 9_223_372_036_854_775_808 then some (.int magnitude) else none

/-- The value of a digit up to `f`. -/
def digitOf (c : Char) : Nat :=
  if c.isDigit then c.toNat - '0'.toNat else c.toLower.toNat - 'a'.toNat + 10

def isHexDigit (c : Char) : Bool :=
  c.isDigit || ('a' ≤ c && c ≤ 'f') || ('A' ≤ c && c ≤ 'F')

/-- An integer in the base that its first letters name. -/
def based? (base : Nat) (isDigit : Char → Bool) (cs : List Char) : Option Json :=
  (digits? isDigit cs).bind fun ds =>
    signed64? false (ds.foldl (fun n c => base * n + digitOf c) 0)

/-- The exponent of a number, if the word is nothing else. -/
def exponent? : List Char → Option Int
  | [] => some 0
  | e :: rest =>
    if e = 'e' ∨ e = 'E' then
      let (sign, cs) := splitSign rest
      (digits? Char.isDigit cs).map fun ds =>
        if sign = some true then -(Json.digitsValue ds : Int) else Json.digitsValue ds
    else none

/-- A number with a fraction or an exponent. A positive number beyond the binary64 range
is refused; a negative one is minus infinity. -/
def fractional? (negative : Bool) (cs : List Char) : Option Json := do
  let isMark := fun c => c == '.' || c == 'e' || c == 'E'
  let whole ← wholeDigits? (cs.takeWhile (!isMark ·))
  let (fraction, rest) ← match cs.dropWhile (!isMark ·) with
    | [] => none
    | '.' :: rest =>
      let isExponent := fun c => c == 'e' || c == 'E'
      (digits? Char.isDigit (rest.takeWhile (!isExponent ·))).map
        (·, rest.dropWhile (!isExponent ·))
    | rest => some ([], rest)
  let exponent ← exponent? rest
  let magnitude := Decimal.ofScientific (Json.digitsValue (whole ++ fraction))
    (exponent - fraction.length)
  if negative then some (.float (-magnitude))
  else if magnitude.isInf then none
  else some (.float magnitude)

/-- The number of two digits, if it is in a range. -/
def twoDigits? (low high : Nat) : List Char → Option (Nat × List Char)
  | a :: b :: rest =>
    if a.isDigit && b.isDigit then
      let n := Json.digitsValue [a, b]
      if low ≤ n ∧ n ≤ high then some (n, rest) else none
    else none
  | _ => none

/-- Take one expected character. -/
def expect (c : Char) : List Char → Option (List Char)
  | d :: rest => if d = c then some rest else none
  | [] => none

/-- The number of days of a month. -/
def daysInMonth (year month : Nat) : Nat :=
  if month = 2 then
    if year % 4 = 0 ∧ (year % 100 ≠ 0 ∨ year % 400 = 0) then 29 else 28
  else if month = 4 ∨ month = 6 ∨ month = 9 ∨ month = 11 then 30
  else 31

/-- What follows a date at the front of a word. -/
def afterDate? (cs : List Char) : Option (List Char) := do
  let year := cs.take 4
  if year.length ≠ 4 ∨ !year.all Char.isDigit then none
  let rest ← expect '-' (cs.drop 4)
  let (month, rest) ← twoDigits? 1 12 rest
  let rest ← expect '-' rest
  let (day, rest) ← twoDigits? 1 31 rest
  if day ≤ daysInMonth (Json.digitsValue year) month then some rest else none

/-- What follows a time of day at the front of a word. A minute may have a leap second. -/
def afterTime? (cs : List Char) : Option (List Char) := do
  let (_, rest) ← twoDigits? 0 23 cs
  let rest ← expect ':' rest
  let (_, rest) ← twoDigits? 0 59 rest
  let rest ← expect ':' rest
  let (_, rest) ← twoDigits? 0 60 rest
  match rest with
  | '.' :: fraction =>
    if (fraction.takeWhile Char.isDigit).isEmpty then none
    else some (fraction.dropWhile Char.isDigit)
  | rest => some rest

/-- Whether the rest of a word is a distance from universal time, or nothing. -/
def isOffset : List Char → Bool
  | [] => true
  | ['Z'] | ['z'] => true
  | sign :: rest =>
    if sign == '+' || sign == '-' then
      ((do
        let (_, rest) ← twoDigits? 0 23 rest
        let rest ← expect ':' rest
        let (_, rest) ← twoDigits? 0 59 rest
        some rest.isEmpty : Option Bool)).getD false
    else false

/-- Whether a word is a time of day with an optional distance from universal time. -/
def isZonedTime (cs : List Char) : Bool :=
  match afterTime? cs with
  | some rest => isOffset rest
  | none => false

/-- Whether a word is a date, a time or both. A space may part the two. -/
def isMoment (cs : List Char) : Bool :=
  match afterDate? cs with
  | some [] => true
  | some (delimiter :: time) =>
    (delimiter == 'T' || delimiter == 't' || delimiter == ' ') && isZonedTime time
  | none =>
    match afterTime? cs with
    | some [] => true
    | _ => false

/-- The value of a word. -/
def scalar? (cs : List Char) : Option Json :=
  if isMoment cs then some (.obj [("moment", .str (String.ofList cs))])
  else
    let (sign, body) := splitSign cs
    let negative := sign == some true
    match body with
    | ['t', 'r', 'u', 'e'] => if sign.isNone then some (.bool true) else none
    | ['f', 'a', 'l', 's', 'e'] => if sign.isNone then some (.bool false) else none
    | ['i', 'n', 'f'] => some (.float (if negative then -(1.0 / 0.0) else 1.0 / 0.0))
    | ['n', 'a', 'n'] => some (.float (0.0 / 0.0))
    | '0' :: 'x' :: ds => if sign.isNone then based? 16 isHexDigit ds else none
    | '0' :: 'o' :: ds =>
      if sign.isNone then based? 8 (fun c => '0' ≤ c && c ≤ '7') ds else none
    | '0' :: 'b' :: ds =>
      if sign.isNone then based? 2 (fun c => c == '0' || c == '1') ds else none
    | body =>
      match wholeDigits? body with
      | some ds => signed64? negative (Json.digitsValue ds)
      | none => fractional? negative body

end ServiceMesh.Toml
