import ServiceMesh.Json.Number

/-!
# JSON tokens

A text is cut into punctuation, literals, numbers and strings. Whitespace is the four
characters of the JSON grammar. Everything that is not a token makes the whole text
unreadable, so one failure is enough.
-/

namespace ServiceMesh.Json

/-- A lexical unit. Literals, numbers and strings are already values, except that a
string may also be the name of a field. -/
inductive Token where
  | openArr
  | closeArr
  | openObj
  | closeObj
  | comma
  | colon
  | scalar (value : Json)
  | str (text : String)
  deriving Repr

def isSpace (c : Char) : Bool := c == ' ' || c == '\n' || c == '\r' || c == '\t'

/-- The value of a hexadecimal digit. -/
def hexDigit? (c : Char) : Option Nat :=
  if '0' ≤ c ∧ c ≤ '9' then some (c.toNat - '0'.toNat)
  else if 'a' ≤ c ∧ c ≤ 'f' then some (c.toNat - 'a'.toNat + 10)
  else if 'A' ≤ c ∧ c ≤ 'F' then some (c.toNat - 'A'.toNat + 10)
  else none

/-- The value of hexadecimal digits. -/
def hexValue? (cs : List Char) : Option Nat :=
  cs.foldlM (fun n c => (hexDigit? c).map (16 * n + ·)) 0

/-- The character of a one-letter escape. -/
def simpleEscape? : Char → Option Char
  | '"' => some '"'
  | '\\' => some '\\'
  | '/' => some '/'
  | 'b' => some '\x08'
  | 'f' => some '\x0c'
  | 'n' => some '\n'
  | 'r' => some '\r'
  | 't' => some '\t'
  | _ => none

/-- What the characters of a string have led to. An escape for a high surrogate must be
followed at once by one for a low surrogate. -/
inductive StringState where
  | plain
  | escape
  | unicode (digits : List Char)
  | lowBackslash (high : Nat)
  | lowLetter (high : Nat)
  | low (high : Nat) (digits : List Char)

/-- Read a string after its opening quote. The answer holds the text and what follows
the closing quote. -/
def readString : StringState → List Char → List Char → Option (String × List Char)
  | _, _, [] => none
  | .plain, acc, c :: rest =>
    if c = '"' then some (String.ofList acc.reverse, rest)
    else if c = '\\' then readString .escape acc rest
    else if c.toNat < 0x20 then none
    else readString .plain (c :: acc) rest
  | .escape, acc, c :: rest =>
    if c = 'u' then readString (.unicode []) acc rest
    else
      match simpleEscape? c with
      | some e => readString .plain (e :: acc) rest
      | none => none
  | .unicode digits, acc, c :: rest =>
    if digits.length < 3 then readString (.unicode (c :: digits)) acc rest
    else
      match hexValue? (c :: digits).reverse with
      | none => none
      | some n =>
        if 0xDC00 ≤ n ∧ n ≤ 0xDFFF then none
        else if 0xD800 ≤ n ∧ n ≤ 0xDBFF then readString (.lowBackslash n) acc rest
        else readString .plain (Char.ofNat n :: acc) rest
  | .lowBackslash high, acc, c :: rest =>
    if c = '\\' then readString (.lowLetter high) acc rest else none
  | .lowLetter high, acc, c :: rest =>
    if c = 'u' then readString (.low high []) acc rest else none
  | .low high digits, acc, c :: rest =>
    if digits.length < 3 then readString (.low high (c :: digits)) acc rest
    else
      match hexValue? (c :: digits).reverse with
      | none => none
      | some n =>
        if 0xDC00 ≤ n ∧ n ≤ 0xDFFF then
          readString .plain
            (Char.ofNat (0x10000 + (high - 0xD800) * 0x400 + (n - 0xDC00)) :: acc) rest
        else none

/-- A string ends after its beginning. -/
theorem readString_length {state : StringState} {acc cs : List Char} {text : String}
    {rest : List Char} (h : readString state acc cs = some (text, rest)) :
    rest.length < cs.length := by
  induction cs generalizing state acc with
  | nil => simp [readString] at h
  | cons c cs ih =>
    have tail : rest.length < cs.length → rest.length < (c :: cs).length := by
      intro hlt
      simp only [List.length_cons]
      omega
    cases state <;> simp only [readString] at h <;> repeat' split at h
    all_goals first
      | exact tail (ih h)
      | simp at h
    obtain ⟨-, rfl⟩ := h
    simp

/-- The characters that may stand in a number. -/
def isNumberChar (c : Char) : Bool :=
  c.isDigit || c == '-' || c == '+' || c == '.' || c == 'e' || c == 'E'

/-- The tokens of a text. -/
def tokens : List Char → Option (List Token)
  | [] => some []
  | c :: rest =>
    if isSpace c then tokens rest
    else
      match c with
      | '[' => (tokens rest).map (.openArr :: ·)
      | ']' => (tokens rest).map (.closeArr :: ·)
      | '{' => (tokens rest).map (.openObj :: ·)
      | '}' => (tokens rest).map (.closeObj :: ·)
      | ',' => (tokens rest).map (.comma :: ·)
      | ':' => (tokens rest).map (.colon :: ·)
      | '"' =>
        match h : readString .plain [] rest with
        | none => none
        | some (text, after) =>
          have := readString_length h
          (tokens after).map (.str text :: ·)
      | _ =>
        if isNumberChar c && c.toLower != 'e' then
          match (Numeral.read (c :: rest.takeWhile isNumberChar)).bind Numeral.value? with
          | none => none
          | some value =>
            (tokens (rest.dropWhile isNumberChar)).map (.scalar value :: ·)
        else
          let after := rest.dropWhile Char.isAlpha
          match String.ofList (c :: rest.takeWhile Char.isAlpha) with
          | "true" => (tokens after).map (.scalar (.bool true) :: ·)
          | "false" => (tokens after).map (.scalar (.bool false) :: ·)
          | "null" => (tokens after).map (.scalar .null :: ·)
          | _ => none
termination_by cs => cs.length
decreasing_by
  all_goals simp only [List.length_cons]
  all_goals try omega
  all_goals
    first
    | exact Nat.lt_succ_of_le (List.dropWhile_suffix _).length_le

end ServiceMesh.Json
