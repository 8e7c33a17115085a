import ServiceMesh.Toml.Basic
import ServiceMesh.Toml.Quoted
import ServiceMesh.Toml.Scalar

/-!
# Reading TOML

A document is read in two passes. The first cuts the text into sections: the part before
the first header and one part for each header, each with its assignments in order. The
second builds the tree of tables from the sections, where the rules on who may extend a
table are kept. Arrays, inline tables and dotted keys may be nested fewer than 80 deep.
-/

namespace ServiceMesh.Toml

/-- Nesting from which on a document is refused. -/
def nestingLimit : Nat := 80

def isBlank (c : Char) : Bool := c == ' ' || c == '\t'

/-- Leave out blanks. -/
def skipBlanks (cs : List Char) : List Char := cs.dropWhile isBlank

/-- Leave out a comment, if one begins here. -/
def skipComment : List Char → List Char
  | '#' :: rest => rest.dropWhile isPlain
  | cs => cs

/-- The rest of a line that holds no more than blanks and a comment. -/
def endOfLine? (cs : List Char) : Option (List Char) :=
  match skipComment (skipBlanks cs) with
  | [] => some []
  | '\n' :: rest => some rest
  | '\r' :: '\n' :: rest => some rest
  | _ => none

/-- Leave out blanks, comments and line breaks. -/
def skipLines : Nat → List Char → List Char
  | 0, cs => cs
  | fuel + 1, cs =>
    match skipComment (skipBlanks cs) with
    | '\n' :: rest => skipLines fuel rest
    | '\r' :: '\n' :: rest => skipLines fuel rest
    | cs => cs

def isBareKeyChar (c : Char) : Bool := c.isAlphanum || c == '-' || c == '_'

/-- One step of a key: a bare word or a string on one line. -/
def readKeyStep? : List Char → Option (String × List Char)
  | '"' :: rest => readBasic false .plain [] rest
  | '\'' :: rest => readLiteral false [] rest
  | cs =>
    let word := cs.takeWhile isBareKeyChar
    if word.isEmpty then none else some (String.ofList word, cs.dropWhile isBareKeyChar)

/-- A key with its steps in order, first the earlier ones and then the last. -/
def readKey? : Nat → List String → List Char → Option ((List String × String) × List Char)
  | 0, _, _ => none
  | fuel + 1, earlier, cs =>
    match readKeyStep? (skipBlanks cs) with
    | none => none
    | some (step, rest) =>
      match skipBlanks rest with
      | '.' :: rest => readKey? fuel (step :: earlier) rest
      | rest =>
        if earlier.length + 1 < nestingLimit then some ((earlier.reverse, step), rest) else none

/-- A key with its value. -/
structure Assignment where
  path : List String
  key : String
  value : Json

mutual

/-- Read a value inside a number of containers. -/
def readValue? : Nat → Nat → List Char → Option (Json × List Char)
  | 0, _, _ => none
  | fuel + 1, depth, cs =>
    match cs with
    | '[' :: rest =>
      if depth + 1 < nestingLimit then readElements? fuel (depth + 1) [] rest else none
    | '{' :: rest =>
      if depth + 1 < nestingLimit then
        match skipBlanks rest with
        | '}' :: after => some (.obj [], after)
        | rest =>
          match readPairs? fuel (depth + 1) [] rest with
          | none => none
          | some (pairs, after) =>
            (pairs.foldlM (fun entries a => assign a.path a.key a.value entries) []).map
              fun entries => (.obj (entriesToJson entries), after)
      else none
    | '"' :: _ => (readString? cs).map fun (s, rest) => (.str s, rest)
    | '\'' :: _ => (readString? cs).map fun (s, rest) => (.str s, rest)
    | cs =>
      let word := cs.takeWhile (!isDelimiter ·)
      let rest := cs.dropWhile (!isDelimiter ·)
      match (afterDate? word), rest with
      | some [], ' ' :: d :: after =>
        if d.isDigit then
          let time := (d :: after).takeWhile (!isDelimiter ·)
          (scalar? (word ++ ' ' :: time)).map
            (·, (d :: after).dropWhile (!isDelimiter ·))
        else (scalar? word).map (·, rest)
      | _, _ => (scalar? word).map (·, rest)

/-- Read the elements of an array up to its end, the last first. -/
def readElements? : Nat → Nat → List Json → List Char → Option (Json × List Char)
  | 0, _, _, _ => none
  | fuel + 1, depth, acc, cs =>
    match skipLines cs.length cs with
    | ']' :: rest => some (.arr acc.reverse, rest)
    | cs =>
      match readValue? fuel depth cs with
      | none => none
      | some (value, rest) =>
        match skipLines rest.length rest with
        | ',' :: rest => readElements? fuel depth (value :: acc) rest
        | ']' :: rest => some (.arr (value :: acc).reverse, rest)
        | _ => none

/-- Read the assignments of an inline table up to its end, the last first. -/
def readPairs? : Nat → Nat → List Assignment → List Char → Option (List Assignment × List Char)
  | 0, _, _, _ => none
  | fuel + 1, depth, acc, cs =>
    match readKey? cs.length [] cs with
    | some ((path, key), '=' :: rest) =>
      match readValue? fuel depth (skipBlanks rest) with
      | none => none
      | some (value, rest) =>
        match skipBlanks rest with
        | ',' :: rest => readPairs? fuel depth (⟨path, key, value⟩ :: acc) rest
        | '}' :: rest => some ((⟨path, key, value⟩ :: acc).reverse, rest)
        | _ => none
    | _ => none

end

/-- What a section of a document is about. -/
inductive Heading where
  /-- the document itself -/
  | document
  /-- a table with a header -/
  | table (path : List String) (key : String)
  /-- a new element of an array of tables -/
  | element (path : List String) (key : String)

/-- A header with the assignments under it, the last first. -/
structure Section where
  heading : Heading
  assignments : List Assignment := []

/-- Cut a text into sections, the last first. -/
def readSections? : Nat → Section → List Section → List Char → Option (List Section)
  | 0, _, _, _ => none
  | fuel + 1, current, done, cs =>
    match skipBlanks cs with
    | [] => some (current :: done)
    | '#' :: rest => (endOfLine? ('#' :: rest)).bind (readSections? fuel current done)
    | '\n' :: rest => readSections? fuel current done rest
    | '\r' :: '\n' :: rest => readSections? fuel current done rest
    | '[' :: '[' :: rest =>
      match readKey? rest.length [] rest with
      | some ((path, key), ']' :: ']' :: rest) =>
        (endOfLine? rest).bind (readSections? fuel ⟨.element path key, []⟩ (current :: done))
      | _ => none
    | '[' :: rest =>
      match readKey? rest.length [] rest with
      | some ((path, key), ']' :: rest) =>
        (endOfLine? rest).bind (readSections? fuel ⟨.table path key, []⟩ (current :: done))
      | _ => none
    | cs =>
      match readKey? cs.length [] cs with
      | some ((path, key), '=' :: rest) =>
        match readValue? (2 * rest.length + 2) 0 (skipBlanks rest) with
        | none => none
        | some (value, rest) =>
          (endOfLine? rest).bind
            (readSections? fuel
              { current with assignments := ⟨path, key, value⟩ :: current.assignments } done)
      | _ => none

/-- Add the assignments of a section to a table. -/
def Section.fill (s : Section) (entries : Entries) : Option Entries :=
  s.assignments.reverse.foldlM (fun entries a => assign a.path a.key a.value entries) entries

/-- Add a section to a document. A header may name a table that is so far only the way
to another one, and no other table that is already there. -/
def Section.addTo (root : Entries) (s : Section) : Option Entries :=
  match s.heading with
  | .document => s.fill root
  | .table path key =>
    descend false
      (fun _ entries =>
        match Entries.find? key entries with
        | none => (s.fill []).map fun t => Entries.set key (.table .header t) entries
        | some (.table .way inner) =>
          (s.fill inner).map fun t => Entries.set key (.table .header t) entries
        | some _ => none)
      path .header root
  | .element path key =>
    descend false
      (fun _ entries =>
        match Entries.find? key entries with
        | none => (s.fill []).map fun t => Entries.set key (.tables [t]) entries
        | some (.tables earlier) =>
          (s.fill []).map fun t => Entries.set key (.tables (t :: earlier)) entries
        | some _ => none)
      path .header root

/-- Read a document as a JSON object. A byte order mark at its start is left out. -/
def read? (text : String) : Option Json := do
  let cs := match text.toList with
    | '\ufeff' :: rest => rest
    | cs => cs
  let sections ← readSections? (cs.length + 1) ⟨.document, []⟩ [] cs
  let root ← sections.reverse.foldlM Section.addTo []
  return .obj (entriesToJson root)

end ServiceMesh.Toml
