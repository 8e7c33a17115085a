import ServiceMesh.Duration
import ServiceMesh.Text.Blank

/-!
# Failures

Every operation of the mesh either succeeds or gives one failure. A failure names its
cause; its kind is the coarse class that a caller turns into a status code.
-/

namespace ServiceMesh

/-- Why an operation was refused. -/
inductive Failure where
  /-- an argument is malformed -/
  | invalidArgument (reason : String)
  /-- no instance is registered under this id -/
  | unknownId (id : String)
  /-- no instance is registered, or none was ever selected, under this name -/
  | unknownName (name : String)
  /-- the id belongs to another instance -/
  | duplicateId (id : String)
  /-- a probe did not answer in time -/
  | timeout (limit : Duration)
  /-- every instance of the name is unfit for selection -/
  | noneHealthy (name : String)
  /-- a configuration that cannot be used -/
  | configuration (reason : String)
  /-- an assumption of the mesh itself does not hold -/
  | internal (reason : String)
  deriving DecidableEq

/-- The coarse classes of failures. -/
inductive Failure.Kind where
  | invalidArgument
  | notFound
  | alreadyExists
  | timeout
  | healthCheckFailed
  | configurationError
  | internalError
  deriving DecidableEq, Repr

namespace Failure

def kind : Failure → Kind
  | invalidArgument _ => .invalidArgument
  | unknownId _ | unknownName _ => .notFound
  | duplicateId _ => .alreadyExists
  | timeout _ => .timeout
  | noneHealthy _ => .healthCheckFailed
  | configuration _ => .configurationError
  | internal _ => .internalError

/-- The text shown to a caller. -/
def message : Failure → String
  | invalidArgument reason => "invalid argument: " ++ reason
  | unknownId id => "service id not found: " ++ id
  | unknownName name => "service name not found: " ++ name
  | duplicateId id => "service id already registered: " ++ id
  | timeout limit => "operation timed out after " ++ toString limit.millis ++ "ms"
  | noneHealthy name => "no healthy instances for service: " ++ name
  | configuration reason => "configuration error: " ++ reason
  | internal reason => "internal error: " ++ reason

/-- The failure of an argument that must be written and is blank. -/
def blank (what : String) : Failure := .invalidArgument (what ++ " must not be empty")

/-- The argument called `what` must not be blank. -/
def requireText (value what : String) : Except Failure Unit :=
  if Text.isBlank value then .error (blank what) else .ok ()

theorem requireText_eq_ok_iff {value what : String} :
    requireText value what = .ok () ↔ Text.isBlank value = false := by
  unfold requireText
  split <;> simp_all

theorem requireText_of_written {value : String} (what : String) (h : Text.isBlank value = false) :
    requireText value what = .ok () := requireText_eq_ok_iff.mpr h

theorem requireText_of_blank {value : String} (what : String) (h : Text.isBlank value = true) :
    requireText value what = .error (blank what) := by
  simp [requireText, h]

/-- What succeeds in two steps succeeds in each. -/
theorem bind_eq_ok_iff {first : Except Failure α} {second : α → Except Failure β} {value : β} :
    (first >>= second) = .ok value ↔ ∃ middle, first = .ok middle ∧ second middle = .ok value := by
  cases first with
  | error => simp [bind, Except.bind]
  | ok middle => simp [bind, Except.bind]

end Failure

end ServiceMesh
