import Mathlib.Data.String.Basic
import ServiceMesh.Proofs.Registry.Representation
import ServiceMesh.Proofs.Sorting

/-!
# Stores and rosters agree

A store lists all records name by name. Put together these lists are the roster sorted by
name, because a stable sort keeps the records of one name in their order. With that, a
store answers every call as the roster that it represents, and every sequence of calls
after it.
-/

namespace ServiceMesh

namespace Represents

variable {s : Store} {l : Roster}

/-! ## What is listed -/

theorem all_eq (h : Represents s l) : s.all = l.all := by
  have written : ∀ name ∈ s.names.keys, (s.list name).toOption = some (l.named name) := by
    intro name hname
    obtain ⟨ids, hids⟩ := Table.mem_keys_iff.mp hname
    obtain ⟨r, member, rfl⟩ : ∃ r ∈ l.records, r.serviceName = name := by
      by_contra nobody
      have absent := Roster.idsOf?_eq_none_iff.mpr fun r hr same => nobody ⟨r, hr, same⟩
      rw [← h.idsOf?, hids] at absent
      exact nomatch absent
    rw [h.list_eq, Roster.list, Failure.requireText_of_written _ (h.written member).1]
    rfl
  have covered : ∀ r ∈ l.records, r.serviceName ∈ s.names.keys := by
    intro r member
    exact Table.mem_keys_iff.mpr ⟨_, (h.idsOf? _).trans (Roster.idsOf?_of_mem member)⟩
  calc s.all = (s.names.keys.filterMap fun name => some (l.named name)).flatten := by
        rw [Store.all, List.filterMap_congr written]
    _ = s.names.keys.flatMap l.named := by
        rw [List.filterMap_eq_map', List.flatMap_def]
    _ = l.all := flatMap_filter_eq_mergeSort (Table.keys_ascend s.names) covered

theorem search_eq (h : Represents s l) (q : Query) : s.search q = l.search q := by
  rw [Store.search, Roster.search, h.all_eq]
  apply List.filter_congr
  intro r _
  rw [Bool.eq_iff_iff, Query.isMatch_iff_meets, decide_eq_true_iff]

/-! ## Calls -/

/-- A change in place gives both sides the old record, or fails on both. -/
theorem modify_serve (h : Represents s l) (id : String) {f : Record → Record}
    (sameId : ∀ r, (f r).id = r.id) (sameName : ∀ r, (f r).serviceName = r.serviceName)
    (sameValid : ∀ r, (f r).validate = r.validate) :
    (s.contains id = false ∧ s.find? id = none ∧
      l.modify id f = (.error (.unknownId id), l)) ∨
    ∃ r, s.contains id = true ∧ s.find? id = some r ∧ (l.modify id f).1 = .ok r ∧
      Represents (s.modify id f) (l.modify id f).2 := by
  rw [Store.contains, h.find?, Roster.modify]
  cases l.find? id with
  | none => exact .inl ⟨rfl, rfl, rfl⟩
  | some r => exact .inr ⟨r, rfl, rfl, rfl, h.modify id sameId sameName sameValid⟩

/-- A store answers a call as the roster that it represents, and represents it still. -/
theorem serve (h : Represents s l) (call : RegistryCall) :
    (s.serve call).1 = (l.serve call).1 ∧ Represents (s.serve call).2 (l.serve call).2 := by
  cases call with
  | register r =>
    obtain ⟨same, next, -⟩ := h.register r
    exact ⟨congrArg RegistryAnswer.done same, next⟩
  | unregister id =>
    obtain ⟨same, next⟩ := h.unregister id
    exact ⟨congrArg RegistryAnswer.record same, next⟩
  | setMetadata id metadata =>
    simp only [Store.serve, Roster.serve, Store.setMetadata]
    cases Failure.requireText id "service_id" with
    | error e => exact ⟨rfl, h⟩
    | ok _ =>
      rcases h.modify_serve id (f := fun r => { r with metadata }) (fun _ => rfl) (fun _ => rfl)
        (fun _ => rfl) with ⟨absent, -, refused⟩ | ⟨r, listed, -, old, next⟩
      · simp only [bind, Except.bind, absent, refused]
        exact ⟨rfl, h⟩
      · simp only [bind, Except.bind, listed, old]
        exact ⟨rfl, next⟩
  | setStatus id status =>
    simp only [Store.serve, Roster.serve, Store.setStatus]
    rcases h.modify_serve id (f := fun r => { r with status }) (fun _ => rfl) (fun _ => rfl)
      (fun _ => rfl) with ⟨-, absent, refused⟩ | ⟨r, -, found, old, next⟩
    · simp only [absent, refused]
      exact ⟨rfl, h⟩
    · simp only [found, old]
      exact ⟨rfl, next⟩
  | setResponse id time =>
    simp only [Store.serve, Roster.serve, Store.setResponse]
    rcases h.modify_serve id (f := fun r => { r with lastResponse := some time }) (fun _ => rfl)
      (fun _ => rfl) (fun _ => rfl) with ⟨absent, -, refused⟩ | ⟨r, listed, -, old, next⟩
    · simp only [absent, refused]
      exact ⟨rfl, h⟩
    · simp only [listed, old]
      exact ⟨rfl, next⟩
  | get id => exact ⟨congrArg RegistryAnswer.record (h.get_eq id), h⟩
  | contains id => exact ⟨congrArg RegistryAnswer.truth (h.contains_eq id), h⟩
  | list name => exact ⟨congrArg RegistryAnswer.records (h.list_eq name), h⟩
  | all => exact ⟨congrArg (fun listed => RegistryAnswer.records (.ok listed)) h.all_eq, h⟩
  | search q =>
    exact ⟨congrArg (fun found => RegistryAnswer.records (.ok found)) (h.search_eq q), h⟩
  | size => exact ⟨congrArg RegistryAnswer.count h.size_eq, h⟩

/-- Only the ids of listed records are found, so a blank id never is. -/
theorem get_eq_ok_iff (h : Represents s l) {id : String} {r : Record} :
    s.get id = .ok r ↔ r ∈ l.records ∧ r.id = id := by
  rw [← Roster.find?_eq_some_iff h.unique, h.get_eq, Roster.get]
  cases hfind : l.find? id with
  | none =>
    cases Failure.requireText id "service_id" <;> simp [bind, Except.bind]
  | some found =>
    obtain ⟨member, rfl⟩ := (Roster.find?_eq_some_iff h.unique).mp hfind
    rw [Failure.requireText_of_written _ (h.written member).2]
    simp [bind, Except.bind]

end Represents

/-! ## Histories -/

/-- The store after a history of calls. -/
def Store.after (calls : List RegistryCall) : Store := stateAfter Store.serve .empty calls

/-- The roster after a history of calls. -/
def Roster.after (calls : List RegistryCall) : Roster := stateAfter Roster.serve {} calls

theorem represents_after (calls : List RegistryCall) :
    answersTo Store.serve .empty calls = answersTo Roster.serve {} calls ∧
      Represents (Store.after calls) (Roster.after calls) :=
  answersTo_eq (fun _ _ call related => related.serve call) Represents.empty calls

/-- A store is a roster. Every sequence of calls is answered alike, the records of the
store are those of the roster, no two of which share an id, a name has an entry exactly as
long as it has a record, and a registration that fails leaves nothing behind. -/
theorem store_refines_roster (calls : List RegistryCall) :
    answersTo Store.serve .empty calls = answersTo Roster.serve {} calls ∧
    ((Roster.after calls).records.map Record.id).Nodup ∧
    (Store.after calls).all.Perm (Roster.after calls).records ∧
    (∀ id r, (Store.after calls).get id = .ok r ↔
      r ∈ (Roster.after calls).records ∧ r.id = id) ∧
    (∀ name, (Store.after calls).names[name]? = none ↔
      ∀ r ∈ (Roster.after calls).records, r.serviceName ≠ name) ∧
    (∀ name : String, (Store.after calls).names[name]? ≠ some []) ∧
    ∀ r e, ((Store.after calls).register r).1 = .error e →
      ((Store.after calls).register r).2 = Store.after calls := by
  obtain ⟨answers, related⟩ := represents_after calls
  refine ⟨answers, related.unique, ?_, fun _ _ => related.get_eq_ok_iff, ?_,
    related.entry_filled, fun r => (related.register r).2.2⟩
  · rw [related.all_eq]
    exact List.mergeSort_perm _ _
  · intro name
    rw [related.idsOf?]
    exact Roster.idsOf?_eq_none_iff

end ServiceMesh
