import ServiceMesh.Config.Check
import ServiceMesh.Config.Decode
import ServiceMesh.Toml.Reader

/-!
# Loading configurations

A configuration file is UTF-8 text in TOML. Loading ends with the first of three
failures: the file cannot be read, its text does not describe a configuration, or the
configuration breaks rules.
-/

namespace ServiceMesh.Config

/-- Why a configuration could not be loaded. -/
inductive LoadFailure where
  | unreadable
  | malformed
  | invalid (problems : List Problem)
  deriving DecidableEq

/-- The problems of an invalid configuration as one text. -/
def LoadFailure.validationMessage (problems : List Problem) : String :=
  "Validation failed: " ++ Problem.join ", " problems

/-- A configuration that breaks no rule. -/
def validated (c : Config) : Except LoadFailure Config :=
  if c.problems.isEmpty then .ok c else .error (.invalid c.problems)

/-- The configuration that a TOML text describes. -/
def parse (text : String) : Except LoadFailure Config :=
  match (Toml.read? text).bind (ofJson? .toml) with
  | none => .error .malformed
  | some c => validated c

/-- The configuration in the content of a file; `none` is a file that is not there. -/
def load (content : Option ByteArray) : Except LoadFailure Config :=
  match content.bind String.fromUTF8? with
  | none => .error .unreadable
  | some text => parse text

end ServiceMesh.Config
