import ServiceMesh.Decimal.Shortest
import ServiceMesh.Json.Basic

/-!
# Printing JSON

A value is printed either on one line or laid out with two spaces for each level. Empty
containers stay on one line. Strings escape the quote, the backslash and the control
characters; all other characters stand for themselves. A number that is not finite has
no JSON form and is printed as `null`.
-/

namespace ServiceMesh.Json

/-- A hexadecimal digit in lower case. -/
def hexChar (n : Nat) : Char :=
  if n < 10 then Char.ofNat ('0'.toNat + n) else Char.ofNat ('a'.toNat + (n - 10))

/-- A character as it stands inside a string. -/
def escapeChar (c : Char) : List Char :=
  match c with
  | '"' => ['\\', '"']
  | '\\' => ['\\', '\\']
  | '\n' => ['\\', 'n']
  | '\r' => ['\\', 'r']
  | '\t' => ['\\', 't']
  | '\x08' => ['\\', 'b']
  | '\x0c' => ['\\', 'f']
  | c =>
    if c.toNat < 0x20 then
      ['\\', 'u', '0', '0', hexChar (c.toNat / 16), hexChar (c.toNat % 16)]
    else [c]

/-- A text in quotes. -/
def quoted (s : String) : String :=
  String.ofList ('"' :: (s.toList.flatMap escapeChar ++ ['"']))

/-- How a value is broken over lines: the text between the elements of a container, and
before its first and after its last, at a level of nesting. -/
structure Layout where
  lineBreak : Nat → String
  afterColon : String

/-- Everything on one line without spaces. -/
def Layout.compact : Layout := ⟨fun _ => "", ""⟩

/-- One element on each line, two spaces for each level. -/
def Layout.pretty : Layout := ⟨fun level => "\n" ++ "".pushn ' ' (2 * level), " "⟩

mutual

/-- The text of a value that begins at a level of nesting. -/
def render (layout : Layout) (level : Nat) : Json → String
  | .null => "null"
  | .bool true => "true"
  | .bool false => "false"
  | .int n => toString n
  | .float x => (Decimal.shortestText? x).getD "null"
  | .str s => quoted s
  | .arr [] => "[]"
  | .arr items =>
    "[" ++ ",".intercalate (renderItems layout (level + 1) items) ++ layout.lineBreak level ++ "]"
  | .obj [] => "\x7b\x7d"
  | .obj fields =>
    "\x7b" ++ ",".intercalate (renderFields layout (level + 1) fields) ++
      layout.lineBreak level ++ "\x7d"

/-- The elements of an array, each on its line. -/
def renderItems (layout : Layout) (level : Nat) : List Json → List String
  | [] => []
  | item :: rest =>
    (layout.lineBreak level ++ render layout level item) :: renderItems layout level rest

/-- The fields of an object, each on its line. -/
def renderFields (layout : Layout) (level : Nat) : List (String × Json) → List String
  | [] => []
  | (name, value) :: rest =>
    (layout.lineBreak level ++ quoted name ++ ":" ++ layout.afterColon ++
      render layout level value) :: renderFields layout level rest

end

/-- The value on one line. -/
def compact (value : Json) : String := render .compact 0 value

/-- The value laid out over lines. -/
def pretty (value : Json) : String := render .pretty 0 value

end ServiceMesh.Json
