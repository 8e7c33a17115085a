import ServiceMesh.Config.Basic
import ServiceMesh.Failure
import ServiceMesh.Json.Reader
import ServiceMesh.Status

/-!
# Service records

A record describes one addressable instance of a service. Instances of one service share
its name and differ in their ids. Records that the registry hands out are snapshots.
-/

namespace ServiceMesh

/-- How long an answer took, and who says so. -/
inductive ResponseTime where
  /-- told by a caller -/
  | reported (time : Duration)
  /-- taken by a probe -/
  | measured (time : Duration)
  deriving DecidableEq

def ResponseTime.duration : ResponseTime → Duration
  | reported time | measured time => time

/-- A registered service instance. -/
structure Record where
  serviceName : String
  id : String
  endpoint : String
  port : UInt16
  weight : UInt32 := 1
  status : Status := .unknown
  metadata : Json := .null
  lastResponse : Option ResponseTime := none
  deriving Inhabited

namespace Record

/-- Where the instance listens. -/
def address (r : Record) : String := r.endpoint ++ ":" ++ toString r.port.toNat

/-- Identifiers must be written and the weight must not be zero. -/
def validate (r : Record) : Except Failure Unit := do
  Failure.requireText r.serviceName "service_name"
  Failure.requireText r.id "service_id"
  Failure.requireText r.endpoint "endpoint"
  if r.weight == 0 then
    .error (.configuration ("service " ++ r.id ++ " has zero weight"))

theorem validate_eq_ok_iff {r : Record} :
    r.validate = .ok () ↔ Text.isBlank r.serviceName = false ∧ Text.isBlank r.id = false ∧
      Text.isBlank r.endpoint = false ∧ r.weight ≠ 0 := by
  simp only [validate, Failure.requireText]
  cases Text.isBlank r.serviceName <;> cases Text.isBlank r.id <;>
    cases Text.isBlank r.endpoint <;> by_cases h : r.weight = 0 <;>
    simp [bind, Except.bind, pure, Except.pure, h]

end Record

/-- Metadata from the text a caller gives. A blank text means no metadata. -/
def metadataOfText (text : String) : Except Failure Json :=
  if Text.isBlank text then .ok .null
  else
    match Json.read? text with
    | some value => .ok value
    | none => .error (.invalidArgument "metadata is not valid JSON")

/-- The record that a seed describes. -/
def Seed.record (seed : Seed) : Except Failure Record := do
  let metadata ← match seed.metadata with
    | none => .ok .null
    | some text => metadataOfText text
  return { serviceName := seed.name, id := seed.id, endpoint := seed.endpoint,
           port := seed.port, weight := seed.weight, metadata }

end ServiceMesh
