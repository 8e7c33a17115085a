import ServiceMesh.CommandLine.Help
import ServiceMesh.Config.Encode
import ServiceMesh.Config.Load
import ServiceMesh.Coordinator.Basic
import ServiceMesh.Decimal.Places
import ServiceMesh.Draws
import ServiceMesh.Json.Printer

/-!
# Running a command

A command works on a configuration file and prints its result only when everything has
gone well. Its exit code is 0 then, 2 for a refused command line and 1 for every other
failure.
-/

namespace ServiceMesh.CommandLine

/-- What a run leaves behind. -/
structure Exit where
  code : Nat
  stdout : String := ""
  deriving DecidableEq, Repr

/-- A node with the seeds of a configuration registered, none of them watched. -/
def registerSeeds (c : Coordinator) : List Seed → Except Failure Coordinator
  | [] => .ok c
  | seed :: rest => do
    let r ← seed.record
    let c ← c.registered r
    registerSeeds c rest

/-- Select instances one after the other, report each at once as a success that took no
time, and count the selections by id. -/
def spreadOver (service : String) (client : Option String) :
    Nat → Draws → Coordinator → Table Nat → Except Failure (Table Nat)
  | 0, _, _, picks => .ok picks
  | n + 1, draws, c, picks =>
    let (draw, draws) := draws.next
    match c.select service client draw with
    | (.error e, _) => .error e
    | (.ok r, c) =>
      match c.report r.id .zero true with
      | (.error e, _) => .error e
      | (.ok (), c) =>
        spreadOver service client n draws c (picks.insert r.id (picks[r.id]?.getD 0 + 1))

/-- Fill up on the right to a number of characters. -/
def padRight (width : Nat) (s : String) : String := s.pushn ' ' (width - s.length)

/-- Fill up on the left to a number of characters. -/
def padLeft (width : Nat) (s : String) : String := "".pushn ' ' (width - s.length) ++ s

/-- One line of a simulation: an id, its selections and its share of them in percent. -/
def pickLine (count : Nat) (id : String) (n : Nat) : String :=
  let percent := Float.ofNat n * 100.0 / Float.ofNat (max count 1)
  padRight 24 id ++ " " ++ padLeft 6 (toString n) ++ " (" ++ Decimal.oneDecimal percent ++ "%)\n"

/-- How selections of a service would spread over the seeds. -/
def preview (config : Config) (draws : Draws) (service : String) (count : Nat)
    (client : Option String) (algorithm : Option Algorithm) : Except Failure String := do
  let config := match algorithm with
    | none => config
    | some algorithm =>
      { config with loadBalancer := { config.loadBalancer with algorithm } }
  let c ← Coordinator.create config
  let c ← registerSeeds c config.services
  let picks ← spreadOver service client count draws c ∅
  return String.join (picks.toList.map fun (id, n) => pickLine count id n)

/-- Run a command on a valid configuration. -/
def Command.output (command : Command) (path : String) (config : Config) (draws : Draws) :
    Except Failure String :=
  match command with
  | .check =>
    .ok (path ++ ": ok (" ++ toString config.services.length ++ " seeded services, algorithm " ++
      config.loadBalancer.algorithm.name ++ ")\n")
  | .show => .ok (Json.pretty config.toJson ++ "\n")
  | .simulate service count client algorithm =>
    preview config draws service count client algorithm

/-- Run a command line on files that are given by a function from their paths. -/
def run (args : List String) (draws : Draws) (file : String → Option ByteArray) : Exit :=
  match readArguments args with
  | .refused => { code := 2 }
  | .help page => { code := 0, stdout := page.text }
  | .given { path, command } =>
    match Config.load (file path) with
    | .error _ => { code := 1 }
    | .ok config =>
      match command.output path config draws with
      | .error _ => { code := 1 }
      | .ok stdout => { code := 0, stdout }

end ServiceMesh.CommandLine
