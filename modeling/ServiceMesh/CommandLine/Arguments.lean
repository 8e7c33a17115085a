import ServiceMesh.Config.Basic

/-!
# Command lines

A command line names a configuration file and one command with its own options. Options
have a long form, `--name value` or `--name=value`, and some a short one, `-n value`,
`-nvalue` or `-n=value`. An option may be given once. A word that begins with a minus is
never taken for a value, unless it is the minus alone or stands after `--`.

The words are judged from left to right, and the first judgement counts: a fault before a
request for help refuses the line, one behind it goes unseen. The file alone is judged
later than it is named, see `FileChoice`.
-/

namespace ServiceMesh.CommandLine

/-- What a command line asks for. -/
inductive Command where
  | check
  | show
  | simulate (service : String) (count : Nat) (client : Option String)
      (algorithm : Option Algorithm)
  deriving DecidableEq, Repr

/-- The pages of the help. -/
inductive Page where
  | overview
  | check
  | show
  | simulate
  | help
  deriving DecidableEq, Repr

/-- What words come to: they are refused, ask for help or give what they describe. -/
inductive Reading (α : Type) where
  | refused
  | help (page : Page)
  | given (value : α)
  deriving DecidableEq, Repr

/-- A command and the file it works on. -/
structure Task where
  path : String
  command : Command
  deriving DecidableEq, Repr

/-- An option that takes a value. -/
structure Flag where
  long : String
  short : Option Char := none
  deriving DecidableEq, Repr

/-- A word of the command line, read with the options that are known. -/
inductive Word where
  /-- an option with the value written in the same word, if any -/
  | flag (flag : Flag) (value : Option String)
  | help
  | unknown
  /-- everything that follows is a plain word -/
  | rest
  | plain (text : String)
  deriving DecidableEq, Repr

/-- Leave out an equals sign in front of a value. -/
def dropEquals : List Char → List Char
  | '=' :: cs => cs
  | cs => cs

/-- Read one word. -/
def Word.read (flags : List Flag) (s : String) : Word :=
  match s.toList with
  | ['-', '-'] => .rest
  | '-' :: '-' :: cs =>
    let name := String.ofList (cs.takeWhile (· != '='))
    let value := match cs.dropWhile (· != '=') with
      | '=' :: v => some (String.ofList v)
      | _ => none
    if name = "help" then (if value.isNone then .help else .unknown)
    else
      match flags.find? (·.long == name) with
      | some f => .flag f value
      | none => .unknown
  | '-' :: c :: cs =>
    if c = 'h' then .help
    else
      match flags.find? (·.short == some c) with
      | some f => .flag f (if cs.isEmpty then none else some (String.ofList (dropEquals cs)))
      | none => .unknown
  | _ => .plain s

/-- Whether a word may stand as the value of the option before it. -/
def isValue (s : String) : Bool :=
  match s.toList with
  | '-' :: _ :: _ => false
  | _ => true

/-- The number of selections: digits, perhaps after a plus, below `2 ^ 64`. -/
def count? (s : String) : Option Nat :=
  let digits := match s.toList with
    | '+' :: cs => cs
    | cs => cs
  if digits.isEmpty || !digits.all Char.isDigit then none
  else
    let n := digits.foldl (fun n c => 10 * n + (c.toNat - '0'.toNat)) 0
    if n < UInt64.size then some n else none

/-- What has been read of a simulation. -/
structure SimulateArgs where
  service : Option String := none
  count : Option Nat := none
  client : Option String := none
  algorithm : Option Algorithm := none

def simulateFlags : List Flag := [⟨"count", some 'n'⟩, ⟨"client", none⟩, ⟨"algorithm", none⟩]

/-- Take the value of an option, which must be well formed and new. -/
def SimulateArgs.set (a : SimulateArgs) (flag value : String) : Option SimulateArgs :=
  if flag = "count" then
    if a.count.isSome then none else (count? value).map fun n => { a with count := some n }
  else if flag = "client" then
    if a.client.isSome then none else some { a with client := some value }
  else if a.algorithm.isSome then none
  else (Algorithm.ofName? value).map fun x => { a with algorithm := some x }

/-- Take a plain word, which can only be the service. -/
def SimulateArgs.place (a : SimulateArgs) (value : String) : Option SimulateArgs :=
  if a.service.isSome then none else some { a with service := some value }

/-- The end of the words of a simulation. -/
def SimulateArgs.finish (a : SimulateArgs) : Reading Command :=
  match a.service with
  | none => .refused
  | some service => .given (.simulate service (a.count.getD 100) a.client a.algorithm)

/-- Read the words of a simulation. -/
def readSimulate : SimulateArgs → List String → Reading Command
  | a, [] => a.finish
  | a, word :: rest =>
    match Word.read simulateFlags word with
    | .unknown => .refused
    | .help => .help .simulate
    | .rest =>
      match rest.foldlM SimulateArgs.place a with
      | none => .refused
      | some a => a.finish
    | .plain text =>
      match a.place text with
      | none => .refused
      | some a => readSimulate a rest
    | .flag f (some value) =>
      match a.set f.long value with
      | none => .refused
      | some a => readSimulate a rest
    | .flag f none =>
      match rest with
      | [] => .refused
      | value :: rest =>
        if isValue value then
          match a.set f.long value with
          | none => .refused
          | some a => readSimulate a rest
        else .refused

/-- Read the words after a command that takes none. -/
def readBare (command : Command) (page : Page) : List String → Reading Command
  | [] => .given command
  | word :: rest =>
    match Word.read [] word with
    | .help => .help page
    | .rest => if rest.isEmpty then .given command else .refused
    | _ => .refused

/-- Read a word that names a command, and the words behind it. -/
def readCommand (name : String) (rest : List String) : Reading Command :=
  if name = "check" then readBare .check .check rest
  else if name = "show" then readBare .show .show rest
  else if name = "simulate" then readSimulate {} rest
  else .refused

/-- The help page for the words after `help`. -/
def readHelp : List String → Reading Task
  | [] => .help .overview
  | ["check"] => .help .check
  | ["show"] => .help .show
  | ["simulate"] => .help .simulate
  | ["help"] => .help .help
  | _ => .refused

/-- The file that is read when none is named. -/
def defaultPath : String := "mesh.toml"

/-- The file as far as it has been named. A name in a word of its own waits there, and is
judged with the next option or at the end of the command. So a command that asks for
help is answered although the name before it is bad. -/
structure FileChoice where
  named : Option String := none
  waiting : Option String := none
  deriving DecidableEq, Repr

namespace FileChoice

/-- Judge a name: it is written, and it is the first. -/
def name (f : FileChoice) (path : String) : Option FileChoice :=
  if path = "" ∨ f.named.isSome then none else some { f with named := some path }

/-- Judge the name that waits. -/
def settle (f : FileChoice) : Option FileChoice :=
  match f.waiting with
  | none => some f
  | some path => { f with waiting := none }.name path

/-- Let a command work on the file. -/
def task (f : FileChoice) : Reading Command → Reading Task
  | .refused => .refused
  | .help page => .help page
  | .given command =>
    match f.settle with
    | none => .refused
    | some f => .given { path := f.named.getD defaultPath, command }

end FileChoice

def globalFlags : List Flag := [⟨"config", some 'c'⟩]

/-- Read a command line on which a file has been named so far. -/
def readFrom : FileChoice → List String → Reading Task
  | _, [] => .refused
  | f, word :: rest =>
    match Word.read globalFlags word with
    | .unknown => .refused
    | .rest => .refused
    | .plain text => if text = "help" then readHelp rest else f.task (readCommand text rest)
    | .help =>
      match f.settle with
      | none => .refused
      | some _ => .help .overview
    | .flag _ (some value) =>
      match f.settle.bind (·.name value) with
      | none => .refused
      | some f => readFrom f rest
    | .flag _ none =>
      match f.settle, rest with
      | some f, value :: rest =>
        if isValue value then readFrom { f with waiting := some value } rest else .refused
      | _, _ => .refused

/-- Read a command line. -/
def readArguments (words : List String) : Reading Task := readFrom {} words

end ServiceMesh.CommandLine
