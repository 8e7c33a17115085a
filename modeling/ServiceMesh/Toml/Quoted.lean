import ServiceMesh.Json.Token

/-!
# TOML strings

A basic string stands in double quotes and has escapes, a literal string stands in
single quotes and has none. Either may be written over several lines with its quotes
tripled; then a line break directly after the opening quotes is left out, every line
break counts as one line feed, and up to two quotes may stand before the closing ones.
-/

namespace ServiceMesh.Toml

/-- The characters that may stand in strings and comments. -/
def isPlain (c : Char) : Bool := c == '\t' || (0x20 ≤ c.toNat && c.toNat != 0x7F)

/-- The character of a one-letter escape. -/
def simpleEscape? : Char → Option Char
  | 'b' => some '\x08'
  | 't' => some '\t'
  | 'n' => some '\n'
  | 'f' => some '\x0c'
  | 'r' => some '\r'
  | '"' => some '"'
  | '\\' => some '\\'
  | _ => none

/-- The character with a code point. -/
def scalarValue? (n : Nat) : Option Char :=
  if n.isValidChar then some (Char.ofNat n) else none

/-- What the characters of a string have led to. -/
inductive Mode where
  | plain
  | escape
  /-- inside an escape: how many hexadecimal digits are still to come -/
  | code (left value : Nat)
  /-- leaving out blanks after a backslash at the end of a line -/
  | fold (broken : Bool)

/-- A backslash at the end of a line leaves out all blanks up to the next character;
`broken` tells whether a line break has been passed. -/
def Mode.folding? (broken : Bool) : List Char → Option Mode
  | ' ' :: _ | '\t' :: _ | '\n' :: _ => some (.fold broken)
  | '\r' :: '\n' :: _ => some (.fold broken)
  | _ => if broken then some .plain else none

/-- The end of a string over several lines, after its first closing quote. -/
def closing? (quote : Char) (acc : List Char) : List Char → Option (String × List Char)
  | a :: b :: rest =>
    if a = quote ∧ b = quote then
      match rest with
      | c :: d :: after =>
        if c = quote ∧ d = quote then some (String.ofList (quote :: quote :: acc).reverse, after)
        else if c = quote then some (String.ofList (quote :: acc).reverse, d :: after)
        else some (String.ofList acc.reverse, c :: d :: after)
      | [c] =>
        if c = quote then some (String.ofList (quote :: acc).reverse, [])
        else some (String.ofList acc.reverse, [c])
      | [] => some (String.ofList acc.reverse, [])
    else none
  | _ => none

/-- Read a basic string after its opening quotes. -/
def readBasic (multiline : Bool) : Mode → List Char → List Char → Option (String × List Char)
  | _, _, [] => none
  | .plain, acc, c :: rest =>
    if c = '"' then
      if multiline then
        match closing? '"' acc rest with
        | some done => some done
        | none => readBasic multiline .plain (c :: acc) rest
      else some (String.ofList acc.reverse, rest)
    else if c = '\\' then readBasic multiline .escape acc rest
    else if isPlain c || (multiline && c == '\n') then readBasic multiline .plain (c :: acc) rest
    else if multiline && c == '\r' && rest.head? == some '\n' then
      readBasic multiline .plain acc rest
    else none
  | .escape, acc, c :: rest =>
    if c = 'u' then readBasic multiline (.code 4 0) acc rest
    else if c = 'U' then readBasic multiline (.code 8 0) acc rest
    else
      match simpleEscape? c with
      | some e => readBasic multiline .plain (e :: acc) rest
      | none =>
        if multiline && (c == ' ' || c == '\t' || c == '\n' ||
            (c == '\r' && rest.head? == some '\n')) then
          match Mode.folding? (c == '\n') rest with
          | some mode => readBasic multiline mode acc rest
          | none => none
        else none
  | .code left value, acc, c :: rest =>
    match Json.hexDigit? c with
    | none => none
    | some d =>
      if left ≤ 1 then
        match scalarValue? (16 * value + d) with
        | some e => readBasic multiline .plain (e :: acc) rest
        | none => none
      else readBasic multiline (.code (left - 1) (16 * value + d)) acc rest
  | .fold broken, acc, c :: rest =>
    match Mode.folding? (broken || c == '\n') rest with
    | some mode => readBasic multiline mode acc rest
    | none => none

/-- Read a literal string after its opening quotes. -/
def readLiteral (multiline : Bool) : List Char → List Char → Option (String × List Char)
  | _, [] => none
  | acc, c :: rest =>
    if c = '\'' then
      if multiline then
        match closing? '\'' acc rest with
        | some done => some done
        | none => readLiteral multiline (c :: acc) rest
      else some (String.ofList acc.reverse, rest)
    else if isPlain c || (multiline && c == '\n') then readLiteral multiline (c :: acc) rest
    else if multiline && c == '\r' && rest.head? == some '\n' then
      readLiteral multiline acc rest
    else none

/-- Leave out a line break. -/
def skipBreak : List Char → List Char
  | '\n' :: rest => rest
  | '\r' :: '\n' :: rest => rest
  | cs => cs

/-- Read a string of any form, if one begins here. -/
def readString? : List Char → Option (String × List Char)
  | '"' :: '"' :: '"' :: rest => readBasic true .plain [] (skipBreak rest)
  | '"' :: rest => readBasic false .plain [] rest
  | '\'' :: '\'' :: '\'' :: rest => readLiteral true [] (skipBreak rest)
  | '\'' :: rest => readLiteral false [] rest
  | _ => none

end ServiceMesh.Toml
