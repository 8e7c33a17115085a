import ServiceMesh.Registry.Query
import ServiceMesh.Registry.Record
import ServiceMesh.Table

/-!
# The registry

The registry holds records by id and, for each service name, the ids of its instances in
the order of their registration. A name without instances has no entry.
-/

namespace ServiceMesh

/-- All registered records. -/
structure Store where
  records : Table Record := ∅
  names : Table (List String) := ∅

namespace Store

/-- A registry without records. -/
def empty : Store := {}

instance : Inhabited Store := ⟨empty⟩

/-- The record of an id. -/
def find? (s : Store) (id : String) : Option Record := s.records[id]?

/-- Whether an id is registered. -/
def contains (s : Store) (id : String) : Bool := (s.find? id).isSome

/-- The number of records. -/
def size (s : Store) : Nat := s.records.size

/-- The records of a service name in the order of registration. -/
def members (s : Store) (name : String) : List Record :=
  (s.names[name]?.getD []).filterMap s.find?

/-- Take away the entry of a name that has no instances. -/
def dropEmpty (names : Table (List String)) (name : String) : Table (List String) :=
  if names[name]? = some [] then names.erase name else names

/-- Add a valid record under an id that is free. The name has its entry before the id is
looked up, and loses it again if it would stay without instances. -/
def register (s : Store) (r : Record) : Except Failure Unit × Store :=
  match r.validate with
  | .error e => (.error e, s)
  | .ok () =>
    let ids := s.names[r.serviceName]?.getD []
    let names := s.names.insert r.serviceName ids
    if s.contains r.id then
      (.error (.duplicateId r.id), { s with names := dropEmpty names r.serviceName })
    else
      (.ok (), { records := s.records.insert r.id r
                 names := names.insert r.serviceName (ids ++ [r.id]) })

/-- Remove a record and give it back. -/
def unregister (s : Store) (id : String) : Except Failure Record × Store :=
  match Failure.requireText id "service_id" with
  | .error e => (.error e, s)
  | .ok () =>
    match s.find? id with
    | none => (.error (.unknownId id), s)
    | some r =>
      match s.names[r.serviceName]? with
      | none => (.error (.unknownId id), s)
      | some ids =>
        let names := s.names.insert r.serviceName (ids.filter (· != id))
        (.ok r, { records := s.records.erase id, names := dropEmpty names r.serviceName })

/-- The record of an id, or the failure that says why there is none. -/
def get (s : Store) (id : String) : Except Failure Record := do
  Failure.requireText id "service_id"
  match s.find? id with
  | none => .error (.unknownId id)
  | some r => .ok r

/-- What is given for an id is what is found under it. -/
theorem find?_of_get {s : Store} {id : String} {r : Record} (got : s.get id = .ok r) :
    s.find? id = some r := by
  obtain ⟨-, -, looked⟩ := Failure.bind_eq_ok_iff.mp got
  split at looked
  case h_1 => cases looked
  case h_2 found =>
    cases looked
    exact found

/-- The records of a written name in the order of registration. -/
def list (s : Store) (name : String) : Except Failure (List Record) := do
  Failure.requireText name "service_name"
  .ok (s.members name)

/-- All records, by name in ascending order and within a name in the order of
registration. -/
def all (s : Store) : List Record :=
  (s.names.keys.filterMap fun name => (s.list name).toOption).flatten

/-- The records that meet a query, in the order of `all`. -/
def search (s : Store) (q : Query) : List Record := s.all.filter q.isMatch

/-- Change the record of an id in place. -/
def modify (s : Store) (id : String) (f : Record → Record) : Store :=
  { s with records := s.records.update id f }

/-- Give a record new metadata. -/
def setMetadata (s : Store) (id : String) (metadata : Json) : Except Failure Store := do
  Failure.requireText id "service_id"
  if s.contains id then .ok (s.modify id fun r => { r with metadata })
  else .error (.unknownId id)

/-- Metadata that is accepted changes one record. -/
theorem eq_modify_of_setMetadata {s next : Store} {id : String} {metadata : Json}
    (done : s.setMetadata id metadata = .ok next) :
    next = s.modify id fun r => { r with metadata } := by
  obtain ⟨-, -, decided⟩ := Failure.bind_eq_ok_iff.mp done
  split at decided
  case isTrue =>
    cases decided
    rfl
  case isFalse => cases decided

/-- Give a record a new status. The answer holds the previous one. -/
def setStatus (s : Store) (id : String) (status : Status) : Except Failure (Status × Store) :=
  match s.find? id with
  | none => .error (.unknownId id)
  | some r => .ok (r.status, s.modify id fun r => { r with status })

/-- Note the latest response time of a record. -/
def setResponse (s : Store) (id : String) (time : ResponseTime) : Except Failure Store :=
  if s.contains id then .ok (s.modify id fun r => { r with lastResponse := some time })
  else .error (.unknownId id)

end Store

end ServiceMesh
