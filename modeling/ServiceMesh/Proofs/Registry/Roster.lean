import Mathlib.Data.List.Infix
import ServiceMesh.Registry.Store

/-!
# The registry as one list

A roster is the registry without any index: one list of records in the order of their
registration. Everything that a registry answers is read off that list, so a roster says
what the tables of a store have to agree with. What a query asks for is stated here as
well, without the search through characters and metadata that decides it.
-/

namespace ServiceMesh

/-! ## Queries -/

theorem occursIn_iff {pattern text : List Char} :
    occursIn pattern text = true ↔ pattern <:+: text := by
  induction text with
  | nil => simp [occursIn]
  | cons c rest ih =>
    rw [occursIn, Bool.or_eq_true, List.isPrefixOf_iff_prefix, ih, List.infix_cons_iff]

theorem Record.hasTag_iff {r : Record} {tag : String} :
    r.hasTag tag = true ↔
      ∃ items, r.metadata.field? "tags" = some (.arr items) ∧ Json.str tag ∈ items := by
  have text_iff : ∀ item : Json, (item.text? == some tag) = true ↔ item = .str tag := by
    intro item
    cases item <;> simp [Json.text?]
  unfold hasTag
  cases hfield : r.metadata.field? "tags" with
  | none => simp
  | some value =>
    cases value <;> simp [Json.items?, List.any_eq_true, text_iff]

namespace Query

/-- What a query asks of a record: the part of the name occurs in it, the record may be
selected if that is asked for, and every tag is a string in the array of tags. -/
def Meets (q : Query) (r : Record) : Prop :=
  (∀ pattern, q.namePattern = some pattern → pattern.toList <:+: r.serviceName.toList) ∧
  (q.selectableOnly = true → r.status = .healthy ∨ r.status = .degraded) ∧
  ∀ tag ∈ q.tags,
    ∃ items, r.metadata.field? "tags" = some (.arr items) ∧ Json.str tag ∈ items

theorem isMatch_iff_meets {q : Query} {r : Record} : q.isMatch r = true ↔ q.Meets r := by
  have only_iff : (!q.selectableOnly || r.status.selectable) = true ↔
      (q.selectableOnly = true → r.status = .healthy ∨ r.status = .degraded) := by
    rw [← Status.selectable_iff]
    cases q.selectableOnly <;> simp
  simp only [isMatch, Meets, Bool.and_eq_true, only_iff, List.all_eq_true, Record.hasTag_iff,
    and_assoc]
  cases q.namePattern with
  | none => simp
  | some pattern => simp [occursIn_iff]

instance (q : Query) (r : Record) : Decidable (q.Meets r) :=
  decidable_of_iff (q.isMatch r = true) isMatch_iff_meets

end Query

/-! ## Rosters -/

/-- The records of a registry in the order of their registration. -/
structure Roster where
  records : List Record := []
  deriving Inhabited

namespace Roster

/-- The record of an id. -/
def find? (l : Roster) (id : String) : Option Record := l.records.find? fun r => r.id == id

/-- The record of a written id. -/
def get (l : Roster) (id : String) : Except Failure Record := do
  Failure.requireText id "service_id"
  match l.find? id with
  | none => .error (.unknownId id)
  | some r => .ok r

/-- Append a valid record whose id is absent. -/
def register (l : Roster) (r : Record) : Except Failure Unit × Roster :=
  match r.validate with
  | .error e => (.error e, l)
  | .ok () =>
    match l.find? r.id with
    | some _ => (.error (.duplicateId r.id), l)
    | none => (.ok (), ⟨l.records ++ [r]⟩)

/-- Delete the record of an id and give it back. -/
def unregister (l : Roster) (id : String) : Except Failure Record × Roster :=
  match l.get id with
  | .error e => (.error e, l)
  | .ok r => (.ok r, ⟨l.records.filter fun r => r.id != id⟩)

/-- Change the record of an id where it stands and give the old one back. -/
def modify (l : Roster) (id : String) (f : Record → Record) : Except Failure Record × Roster :=
  match l.find? id with
  | none => (.error (.unknownId id), l)
  | some r => (.ok r, ⟨l.records.map fun r => if r.id = id then f r else r⟩)

/-- The records of a name. -/
def named (l : Roster) (name : String) : List Record :=
  l.records.filter fun r => r.serviceName == name

/-- The records of a written name. -/
def list (l : Roster) (name : String) : Except Failure (List Record) := do
  Failure.requireText name "service_name"
  .ok (l.named name)

/-- All records, sorted by name; records of one name stay in their order. -/
def all (l : Roster) : List Record :=
  l.records.mergeSort fun a b => a.serviceName ≤ b.serviceName

/-- The records that meet a query, in the order of `all`. -/
def search (l : Roster) (q : Query) : List Record := l.all.filter fun r => q.Meets r

end Roster

/-! ## Calls -/

/-- What may be asked of a registry. -/
inductive RegistryCall where
  | register (record : Record)
  | unregister (id : String)
  | setMetadata (id : String) (metadata : Json)
  | setStatus (id : String) (status : Status)
  | setResponse (id : String) (time : ResponseTime)
  | get (id : String)
  | contains (id : String)
  | list (name : String)
  | all
  | search (query : Query)
  | size

/-- What a registry answers. -/
inductive RegistryAnswer where
  | done (result : Except Failure Unit)
  | record (result : Except Failure Record)
  /-- the status before a change -/
  | status (result : Except Failure Status)
  | records (result : Except Failure (List Record))
  | truth (value : Bool)
  | count (value : Nat)

/-- Serve calls one after the other and keep the answers. -/
def answersTo (serve : σ → RegistryCall → RegistryAnswer × σ) (state : σ) :
    List RegistryCall → List RegistryAnswer
  | [] => []
  | call :: rest => (serve state call).1 :: answersTo serve (serve state call).2 rest

/-- Serve calls one after the other. -/
def stateAfter (serve : σ → RegistryCall → RegistryAnswer × σ) (state : σ)
    (calls : List RegistryCall) : σ :=
  calls.foldl (fun state call => (serve state call).2) state

/-- If related states give one answer to each call and stay related, they give the same
answers to every sequence of calls. -/
theorem answersTo_eq {serve : σ → RegistryCall → RegistryAnswer × σ}
    {serve' : τ → RegistryCall → RegistryAnswer × τ} {related : σ → τ → Prop}
    (step : ∀ s t call, related s t →
      (serve s call).1 = (serve' t call).1 ∧ related (serve s call).2 (serve' t call).2)
    {s : σ} {t : τ} (start : related s t) (calls : List RegistryCall) :
    answersTo serve s calls = answersTo serve' t calls ∧
      related (stateAfter serve s calls) (stateAfter serve' t calls) := by
  induction calls generalizing s t with
  | nil => exact ⟨rfl, start⟩
  | cons call rest ih =>
    obtain ⟨same, next⟩ := step s t call start
    obtain ⟨answers, last⟩ := ih next
    exact ⟨by rw [answersTo, answersTo, same, answers], last⟩

/-- A store serves a call. A change that is refused leaves the store as it is. -/
def Store.serve (s : Store) : RegistryCall → RegistryAnswer × Store
  | .register r =>
    let (result, next) := s.register r
    (.done result, next)
  | .unregister id =>
    let (result, next) := s.unregister id
    (.record result, next)
  | .setMetadata id metadata =>
    match s.setMetadata id metadata with
    | .error e => (.done (.error e), s)
    | .ok next => (.done (.ok ()), next)
  | .setStatus id status =>
    match s.setStatus id status with
    | .error e => (.status (.error e), s)
    | .ok (previous, next) => (.status (.ok previous), next)
  | .setResponse id time =>
    match s.setResponse id time with
    | .error e => (.done (.error e), s)
    | .ok next => (.done (.ok ()), next)
  | .get id => (.record (s.get id), s)
  | .contains id => (.truth (s.contains id), s)
  | .list name => (.records (s.list name), s)
  | .all => (.records (.ok s.all), s)
  | .search q => (.records (.ok (s.search q)), s)
  | .size => (.count s.size, s)

/-- A roster serves a call. Metadata is only changed under a written id. -/
def Roster.serve (l : Roster) : RegistryCall → RegistryAnswer × Roster
  | .register r =>
    let (result, next) := l.register r
    (.done result, next)
  | .unregister id =>
    let (result, next) := l.unregister id
    (.record result, next)
  | .setMetadata id metadata =>
    match Failure.requireText id "service_id" with
    | .error e => (.done (.error e), l)
    | .ok () =>
      let (result, next) := l.modify id fun r => { r with metadata }
      (.done (result.map fun _ => ()), next)
  | .setStatus id status =>
    let (result, next) := l.modify id fun r => { r with status }
    (.status (result.map Record.status), next)
  | .setResponse id time =>
    let (result, next) := l.modify id fun r => { r with lastResponse := some time }
    (.done (result.map fun _ => ()), next)
  | .get id => (.record (l.get id), l)
  | .contains id => (.truth (l.find? id).isSome, l)
  | .list name => (.records (l.list name), l)
  | .all => (.records (.ok l.all), l)
  | .search q => (.records (.ok (l.search q)), l)
  | .size => (.count l.records.length, l)

end ServiceMesh
