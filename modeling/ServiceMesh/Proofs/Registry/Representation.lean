import Mathlib.Data.List.Nodup
import ServiceMesh.Proofs.Registry.Roster

/-!
# Stores that represent a roster

A store represents a roster when its table of records finds what the roster finds and its
table of names holds, for each name, the ids of its records in their order. A name without
records has no entry. Each change of a store is matched by the change of its roster, so
what the tables have to keep in step is said once, here.
-/

namespace ServiceMesh

namespace Store

/-- Looking up a name after its entry was written and then dropped if empty. -/
theorem getElem?_dropEmpty_insert (names : Table (List String)) (name other : String)
    (ids : List String) :
    (dropEmpty (names.insert name ids) name)[other]? =
      if name = other then (if ids = [] then none else some ids) else names[other]? := by
  have self : (names.insert name ids)[name]? = some ids := Table.getElem?_insert_self names name ids
  unfold dropEmpty
  rw [self]
  by_cases hids : ids = []
  · subst hids
    by_cases h : name = other
    · subst h
      simp
    · simp [h, Table.getElem?_erase_ne _ h, Table.getElem?_insert_ne _ h]
  · by_cases h : name = other
    · subst h
      simp [hids]
    · simp [hids, h, Table.getElem?_insert_ne _ h]

/-- The entry that a refused registration writes first is gone afterwards. -/
theorem dropEmpty_insert_getD {names : Table (List String)} {name : String}
    (filled : names[name]? ≠ some []) :
    dropEmpty (names.insert name (names[name]?.getD [])) name = names := by
  apply Std.ExtTreeMap.ext_getElem?
  intro other
  rw [getElem?_dropEmpty_insert]
  by_cases h : name = other
  · subst h
    cases hname : names[name]? with
    | none => simp
    | some ids =>
      have nonempty : ids ≠ [] := fun hids => filled (by rw [hname, hids])
      simp [nonempty]
  · rw [if_neg h]

theorem find?_modify (s : Store) (id other : String) (f : Record → Record) :
    (s.modify id f).find? other = (s.find? other).map fun r => if id = other then f r else r := by
  by_cases h : id = other
  · subst h
    simpa [modify, find?] using Table.getElem?_update_self s.records id f
  · simpa [modify, find?, h] using Table.getElem?_update_ne s.records h f

/-- What a change keeps of each record is not changed by it. -/
theorem map_find?_modify (s : Store) (id other : String) {part : Record → α} {f : Record → Record}
    (keeps : ∀ r, part (f r) = part r) :
    ((s.modify id f).find? other).map part = (s.find? other).map part := by
  rw [find?_modify, Option.map_map]
  congr 1
  funext r
  rw [Function.comp_apply]
  split
  · exact keeps r
  · rfl

end Store

namespace Roster

/-- The entry of a name in a table of names: the ids of its records, if it has any. -/
def idsOf? (l : Roster) (name : String) : Option (List String) :=
  if l.named name = [] then none else some ((l.named name).map Record.id)

theorem idsOf?_eq_none_iff {l : Roster} {name : String} :
    l.idsOf? name = none ↔ ∀ r ∈ l.records, r.serviceName ≠ name := by
  simp [idsOf?, named]

theorem idsOf?_of_mem {l : Roster} {r : Record} (member : r ∈ l.records) :
    l.idsOf? r.serviceName = some ((l.named r.serviceName).map Record.id) := by
  have filled : r ∈ l.named r.serviceName := List.mem_filter.mpr ⟨member, by simp⟩
  rw [idsOf?, if_neg (List.ne_nil_of_mem filled)]

theorem getD_idsOf? (l : Roster) (name : String) :
    (l.idsOf? name).getD [] = (l.named name).map Record.id := by
  unfold idsOf?
  split <;> simp_all

theorem find?_eq_some_iff {l : Roster} (unique : (l.records.map Record.id).Nodup) {id : String}
    {r : Record} : l.find? id = some r ↔ r ∈ l.records ∧ r.id = id := by
  constructor
  · intro h
    exact ⟨List.mem_of_find?_eq_some h, by simpa using List.find?_some h⟩
  · rintro ⟨member, rfl⟩
    cases h : l.find? r.id with
    | none => exact absurd (List.find?_eq_none.mp h r member) (by simp)
    | some other =>
      have same : other.id = r.id := by simpa using List.find?_some h
      rw [List.inj_on_of_nodup_map unique (List.mem_of_find?_eq_some h) member same]

theorem find?_eq_none_iff {l : Roster} {id : String} :
    l.find? id = none ↔ ∀ r ∈ l.records, r.id ≠ id := by
  simp [find?]

/-- After a deletion only the deleted id finds nothing anew. -/
theorem find?_delete (l : Roster) (id other : String) :
    find? ⟨l.records.filter fun r => r.id != id⟩ other =
      if id = other then none else l.find? other := by
  rw [find?, List.find?_filter, find?]
  split
  case isTrue same =>
    subst same
    simp
  case isFalse differ =>
    congr 1
    funext r
    by_cases hr : r.id = other
    · simp [hr, Ne.symm differ]
    · simp [hr]

/-- A deletion takes the id from its name and leaves the other names alone. -/
theorem idsOf?_delete {l : Roster} (unique : (l.records.map Record.id).Nodup) {r : Record}
    (member : r ∈ l.records) (name : String) :
    idsOf? ⟨l.records.filter fun other => other.id != r.id⟩ name =
      if r.serviceName = name then
        if ((l.named name).map Record.id).filter (· != r.id) = [] then none
        else some (((l.named name).map Record.id).filter (· != r.id))
      else l.idsOf? name := by
  have split : named ⟨l.records.filter fun other => other.id != r.id⟩ name =
      (l.named name).filter fun other => other.id != r.id := by
    simp only [named, List.filter_filter, Bool.and_comm]
  rw [idsOf?, split, idsOf?, List.filter_map]
  by_cases hname : r.serviceName = name
  · simp [hname, Function.comp_def]
  · have kept : ∀ a ∈ l.named name, (a.id != r.id) = true := by
      intro a ha
      obtain ⟨listed, named⟩ := List.mem_filter.mp ha
      rw [bne_iff_ne]
      intro same
      rw [List.inj_on_of_nodup_map unique listed member same] at named
      exact hname (by simpa using named)
    rw [if_neg hname, List.filter_eq_self.mpr kept]

end Roster

/-- A store holds what a roster lists. -/
structure Represents (s : Store) (l : Roster) : Prop where
  unique : (l.records.map Record.id).Nodup
  find? : ∀ id, s.find? id = l.find? id
  idsOf? : ∀ name, s.names[name]? = l.idsOf? name
  valid : ∀ r ∈ l.records, r.validate = .ok ()

namespace Represents

variable {s : Store} {l : Roster}

theorem empty : Represents .empty {} where
  unique := List.nodup_nil
  find? _ := rfl
  idsOf? _ := rfl
  valid := by simp

theorem written (h : Represents s l) {r : Record} (member : r ∈ l.records) :
    Text.isBlank r.serviceName = false ∧ Text.isBlank r.id = false := by
  obtain ⟨name, id, -, -⟩ := Record.validate_eq_ok_iff.mp (h.valid r member)
  exact ⟨name, id⟩

theorem mem_iff (h : Represents s l) {r : Record} : s.find? r.id = some r ↔ r ∈ l.records := by
  rw [h.find?, Roster.find?_eq_some_iff h.unique]
  simp

/-- No entry is left behind by the last record of a name. -/
theorem entry_filled (h : Represents s l) (name : String) : s.names[name]? ≠ some [] := by
  rw [h.idsOf?]
  unfold Roster.idsOf?
  split <;> simp_all

/-! ## What is read -/

theorem get_eq (h : Represents s l) (id : String) : s.get id = l.get id := by
  have same := h.find? id
  cases found : s.find? id with
  | none =>
    rw [found] at same
    simp only [Store.get, Roster.get, found, ← same]
  | some r =>
    rw [found] at same
    simp only [Store.get, Roster.get, found, ← same]

theorem contains_eq (h : Represents s l) (id : String) : s.contains id = (l.find? id).isSome := by
  rw [Store.contains, h.find?]

/-- Looking up the ids of a name one by one gives its records back. -/
theorem members_eq (h : Represents s l) (name : String) : s.members name = l.named name := by
  have found : ∀ r ∈ l.named name, s.find? r.id = some r := fun r member =>
    h.mem_iff.mpr (List.mem_of_mem_filter member)
  rw [Store.members, h.idsOf?, Roster.getD_idsOf?, List.filterMap_map]
  calc (l.named name).filterMap (s.find? ∘ Record.id)
      = (l.named name).filterMap some := List.filterMap_congr found
    _ = l.named name := List.filterMap_some

theorem list_eq (h : Represents s l) (name : String) : s.list name = l.list name := by
  simp only [Store.list, Roster.list, h.members_eq]

/-- The keys of the table of records are the ids of the roster, so both have one size. -/
theorem size_eq (h : Represents s l) : s.size = l.records.length := by
  have key_iff : ∀ id, id ∈ s.records.keys ↔ id ∈ l.records.map Record.id := by
    intro id
    rw [Table.mem_keys_iff, List.mem_map]
    constructor
    · rintro ⟨r, hr⟩
      obtain ⟨member, same⟩ := (Roster.find?_eq_some_iff h.unique).mp ((h.find? id).symm.trans hr)
      exact ⟨r, member, same⟩
    · rintro ⟨r, member, rfl⟩
      exact ⟨r, h.mem_iff.mpr member⟩
  have permuted : s.records.keys.Perm (l.records.map Record.id) :=
    (List.perm_ext_iff_of_nodup Std.ExtTreeMap.nodup_keys h.unique).mpr key_iff
  rw [Store.size, ← Std.ExtTreeMap.length_keys, permuted.length_eq, List.length_map]

/-! ## What is changed -/

/-- A new record is appended, or the store stays exactly as it is. -/
theorem register (h : Represents s l) (r : Record) :
    (s.register r).1 = (l.register r).1 ∧ Represents (s.register r).2 (l.register r).2 ∧
      ∀ e, (s.register r).1 = .error e → (s.register r).2 = s := by
  unfold Store.register Roster.register
  cases hvalid : r.validate with
  | error e => exact ⟨rfl, h, fun _ _ => rfl⟩
  | ok _ =>
    rw [h.contains_eq]
    cases hfind : l.find? r.id with
    | some old =>
      have same : Store.dropEmpty (s.names.insert r.serviceName (s.names[r.serviceName]?.getD []))
          r.serviceName = s.names := Store.dropEmpty_insert_getD (h.entry_filled _)
      rw [Option.isSome_some, if_pos rfl, same]
      exact ⟨rfl, h, fun _ _ => rfl⟩
    | none =>
      have fresh := Roster.find?_eq_none_iff.mp hfind
      refine ⟨rfl, ?_, fun e refused => nomatch refused⟩
      refine ⟨?_, ?_, ?_, ?_⟩
      · rw [List.map_append, List.nodup_append]
        refine ⟨h.unique, by simp, ?_⟩
        rintro a ha b hb rfl
        obtain ⟨other, member, rfl⟩ := List.mem_map.mp ha
        exact fresh other member (by simpa using hb)
      · intro id
        by_cases hid : r.id = id
        · subst hid
          have absent : List.find? (fun other => other.id == r.id) l.records = none := hfind
          simp [Store.find?, Roster.find?, List.find?_append, absent]
        · have old := h.find? id
          simp only [Store.find?, Roster.find?] at old
          simp [Store.find?, Roster.find?, List.find?_append, hid, Table.getElem?_insert_ne, old]
      · intro name
        by_cases hname : r.serviceName = name
        · subst hname
          rw [h.idsOf?, Roster.getD_idsOf?]
          simp [Roster.idsOf?, Roster.named, List.filter_append]
        · have old := h.idsOf? name
          simp only [Roster.idsOf?, Roster.named] at old
          simp [Table.getElem?_insert_ne _ hname, Roster.idsOf?, Roster.named,
            List.filter_append, hname, old]
      · intro other member
        rcases List.mem_append.mp member with kept | added
        · exact h.valid other kept
        · rw [List.mem_singleton.mp added, hvalid]

/-- A record is taken from the roster together with its place in its name. -/
theorem unregister (h : Represents s l) (id : String) :
    (s.unregister id).1 = (l.unregister id).1 ∧
      Represents (s.unregister id).2 (l.unregister id).2 := by
  unfold Store.unregister Roster.unregister
  rw [← h.get_eq, Store.get]
  cases hid : Failure.requireText id "service_id" with
  | error e => exact ⟨rfl, h⟩
  | ok _ =>
    cases hfind : s.find? id with
    | none => exact ⟨rfl, h⟩
    | some r =>
      obtain ⟨member, rfl⟩ := (Roster.find?_eq_some_iff h.unique).mp ((h.find? id).symm.trans hfind)
      have listed : s.names[r.serviceName]? = some ((l.named r.serviceName).map Record.id) := by
        rw [h.idsOf?, Roster.idsOf?_of_mem member]
      simp only [bind, Except.bind, listed]
      refine ⟨trivial, ?_, ?_, ?_, ?_⟩
      · exact h.unique.sublist (List.filter_sublist.map _)
      · intro other
        rw [Roster.find?_delete, ← h.find?, Store.find?, Store.find?]
        split
        case isTrue same => rw [← same, Table.getElem?_erase_self]
        case isFalse differ => rw [Table.getElem?_erase_ne _ differ]
      · intro name
        rw [Store.getElem?_dropEmpty_insert, Roster.idsOf?_delete h.unique member, ← h.idsOf?]
        split
        case isTrue same => rw [same]
        case isFalse => rfl
      · intro other kept
        exact h.valid other (List.mem_of_mem_filter kept)

/-- A change in place of one record that leaves its id, its name and its validity alone. -/
theorem modify (h : Represents s l) (id : String) {f : Record → Record}
    (sameId : ∀ r, (f r).id = r.id) (sameName : ∀ r, (f r).serviceName = r.serviceName)
    (sameValid : ∀ r, (f r).validate = r.validate) :
    Represents (s.modify id f) ⟨l.records.map fun r => if r.id = id then f r else r⟩ := by
  have keepsId : ∀ r : Record, (if r.id = id then f r else r).id = r.id := by
    intro r
    split
    · exact sameId r
    · rfl
  have keepsName : ∀ r : Record,
      (if r.id = id then f r else r).serviceName = r.serviceName := by
    intro r
    split
    · exact sameName r
    · rfl
  refine ⟨?_, ?_, ?_, ?_⟩
  · simpa [List.map_map, Function.comp_def, keepsId] using h.unique
  · intro other
    rw [Store.find?_modify, h.find?]
    simp only [Roster.find?, List.find?_map, Function.comp_def, keepsId]
    cases hfind : l.records.find? fun r => r.id == other with
    | none => rfl
    | some r =>
      have same : r.id = other := by simpa using List.find?_some hfind
      simp [same, eq_comm]
  · intro name
    have old := h.idsOf? name
    simp only [Roster.idsOf?, Roster.named] at old
    simpa [Store.modify, Roster.idsOf?, Roster.named, List.filter_map, Function.comp_def,
      keepsName, keepsId] using old
  · intro r member
    obtain ⟨old, listed, rfl⟩ := List.mem_map.mp member
    split
    · rw [sameValid, h.valid old listed]
    · exact h.valid old listed

end Represents

end ServiceMesh
