import ServiceMesh.Config.Decode
import ServiceMesh.Registry.Record

/-!
# Queries

A query selects records by name, by tags and by fitness; every criterion that is set
must hold. The tags of a record are the strings in the array `tags` of its metadata. Any
other shape of metadata has no tags.
-/

namespace ServiceMesh

/-- Criteria for records. -/
structure Query where
  /-- a part of the service name -/
  namePattern : Option String := none
  /-- tags that the record must all carry -/
  tags : List String := []
  /-- only records that may be selected -/
  selectableOnly : Bool := false
  deriving DecidableEq, Repr, Inhabited

/-- Whether one list of characters occurs in another without gaps. -/
def occursIn (pattern : List Char) : List Char → Bool
  | [] => pattern.isEmpty
  | c :: rest => pattern.isPrefixOf (c :: rest) || occursIn pattern rest

/-- Whether the metadata carries a tag. -/
def Record.hasTag (r : Record) (tag : String) : Bool :=
  match (r.metadata.field? "tags").bind Json.items? with
  | some items => items.any fun item => item.text? == some tag
  | none => false

namespace Query

/-- Whether a record meets all criteria. -/
def isMatch (q : Query) (r : Record) : Bool :=
  (match q.namePattern with
    | none => true
    | some pattern => occursIn pattern.toList r.serviceName.toList) &&
  (!q.selectableOnly || r.status.selectable) &&
  q.tags.all r.hasTag

/-- Also ask for a part of the service name. -/
def nameContains (q : Query) (pattern : String) : Query := { q with namePattern := some pattern }

/-- Also ask for a tag. -/
def withTag (q : Query) (tag : String) : Query := { q with tags := q.tags ++ [tag] }

/-- Also ask for fitness. -/
def onlySelectable (q : Query) : Query := { q with selectableOnly := true }

/-- The query that a value describes. -/
def ofJson? (d : Config.Dialect) (v : Json) : Option Query := do
  let s ← Config.Section.ofJson? d 3 v
  let base : Query := {}
  let namePattern ← s.optional 0 "name_pattern" base.namePattern Config.optionalText?
  let tags ← s.optional 1 "tags" base.tags (Config.list? Json.text?)
  let selectableOnly ← s.optional 2 "selectable_only" base.selectableOnly Config.bool?
  return { namePattern, tags, selectableOnly }

end Query

end ServiceMesh
