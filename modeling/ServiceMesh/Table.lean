import Std.Data.ExtTreeMap

/-!
# Tables keyed by identifier

The mesh keeps its state in tables from identifiers to values. A table holds at most one
value for each key and lists its keys in ascending order; two tables with the same
entries are equal.
-/

namespace ServiceMesh

/-- A finite map from identifiers. -/
abbrev Table (α : Type u) := Std.ExtTreeMap String α compare

namespace Table

variable {α : Type u}

/-- Change the value of a key, if it has one. -/
def update (t : Table α) (key : String) (f : α → α) : Table α :=
  match t[key]? with
  | none => t
  | some value => t.insert key (f value)

theorem getElem?_insert_self (t : Table α) (key : String) (value : α) :
    (t.insert key value)[key]? = some value := by
  simp

theorem getElem?_insert_ne (t : Table α) {key other : String} (h : key ≠ other) (value : α) :
    (t.insert key value)[other]? = t[other]? := by
  simp [Std.ExtTreeMap.getElem?_insert, h]

theorem getElem?_erase_self (t : Table α) (key : String) : (t.erase key)[key]? = none := by
  simp

theorem getElem?_erase_ne (t : Table α) {key other : String} (h : key ≠ other) :
    (t.erase key)[other]? = t[other]? := by
  simp [Std.ExtTreeMap.getElem?_erase, h]

theorem getElem?_update_self (t : Table α) (key : String) (f : α → α) :
    (t.update key f)[key]? = t[key]?.map f := by
  unfold update
  split <;> simp_all

theorem getElem?_update_ne (t : Table α) {key other : String} (h : key ≠ other) (f : α → α) :
    (t.update key f)[other]? = t[other]? := by
  unfold update
  split
  · rfl
  · exact getElem?_insert_ne t h _

theorem isSome_insert (t : Table α) (key other : String) (value : α) :
    ((t.insert key value)[other]?).isSome = (key == other || (t[other]?).isSome) := by
  by_cases h : key = other
  · subst h
    simp
  · simp [getElem?_insert_ne t h, h]

/-- A key that has a value is no new key. -/
theorem isSome_insert_of_isSome {t : Table α} {key : String} (there : (t[key]?).isSome = true)
    (value : α) (other : String) :
    ((t.insert key value)[other]?).isSome = (t[other]?).isSome := by
  rw [isSome_insert]
  by_cases h : key = other
  · subst h
    rw [there, Bool.or_true]
  · rw [beq_eq_false_iff_ne.mpr h, Bool.false_or]

theorem isSome_erase (t : Table α) (key other : String) :
    ((t.erase key)[other]?).isSome = (key != other && (t[other]?).isSome) := by
  by_cases h : key = other
  · subst h
    simp
  · simp [getElem?_erase_ne t h, h]

theorem isSome_update (t : Table α) (key other : String) (f : α → α) :
    ((t.update key f)[other]?).isSome = (t[other]?).isSome := by
  by_cases h : key = other
  · subst h
    rw [getElem?_update_self, Option.isSome_map]
  · rw [getElem?_update_ne t h]

/-- What is found after an insertion was inserted or found before. -/
theorem insert_cases {t : Table α} {key other : String} {value found : α}
    (h : (t.insert key value)[other]? = some found) :
    (key = other ∧ value = found) ∨ (key ≠ other ∧ t[other]? = some found) := by
  by_cases same : key = other
  · subst same
    rw [getElem?_insert_self] at h
    exact .inl ⟨rfl, Option.some.inj h⟩
  · rw [getElem?_insert_ne t same] at h
    exact .inr ⟨same, h⟩

/-- What is found after a key was erased was found before. -/
theorem erase_cases {t : Table α} {key other : String} {found : α}
    (h : (t.erase key)[other]? = some found) : key ≠ other ∧ t[other]? = some found := by
  by_cases same : key = other
  · subst same
    rw [getElem?_erase_self] at h
    exact nomatch h
  · rw [getElem?_erase_ne t same] at h
    exact ⟨same, h⟩

/-- What is found after an update was found before, or what it was updated from. -/
theorem update_cases {t : Table α} {key other : String} {f : α → α} {found : α}
    (h : (t.update key f)[other]? = some found) :
    (key = other ∧ ∃ old, t[other]? = some old ∧ f old = found) ∨
      (key ≠ other ∧ t[other]? = some found) := by
  by_cases same : key = other
  · subst same
    rw [getElem?_update_self] at h
    exact .inl ⟨rfl, Option.map_eq_some_iff.mp h⟩
  · rw [getElem?_update_ne t same] at h
    exact .inr ⟨same, h⟩

theorem erase_of_absent {t : Table α} {key : String} (absent : t[key]? = none) :
    t.erase key = t := by
  refine Std.ExtTreeMap.ext_getElem? fun other => ?_
  by_cases same : key = other
  · subst same
    rw [getElem?_erase_self, absent]
  · exact getElem?_erase_ne t same

/-- Of two insertions of a key the second one counts. -/
theorem insert_insert (t : Table α) (key : String) (first second : α) :
    (t.insert key first).insert key second = t.insert key second := by
  refine Std.ExtTreeMap.ext_getElem? fun other => ?_
  by_cases same : key = other
  · subst same
    rw [getElem?_insert_self, getElem?_insert_self]
  · rw [getElem?_insert_ne _ same, getElem?_insert_ne _ same, getElem?_insert_ne _ same]

/-- A key that was not there before its insertion is not there after it is erased again. -/
theorem erase_insert_of_absent {t : Table α} {key : String} (absent : t[key]? = none) (value : α) :
    (t.insert key value).erase key = t := by
  refine Std.ExtTreeMap.ext_getElem? fun other => ?_
  by_cases same : key = other
  · subst same
    rw [getElem?_erase_self, absent]
  · rw [getElem?_erase_ne _ same, getElem?_insert_ne _ same]

/-- The keys of a table ascend. -/
theorem keys_ascend (t : Table α) : t.keys.Pairwise (· < ·) := by
  have ordered : t.keys.Pairwise fun a b => compare a b = .lt := Std.ExtTreeMap.ordered_keys
  exact ordered.imp fun h => compareOfLessAndEq_eq_lt.mp h

theorem mem_keys_iff {t : Table α} {key : String} :
    key ∈ t.keys ↔ ∃ value, t[key]? = some value := by
  rw [Std.ExtTreeMap.mem_keys, Std.ExtTreeMap.mem_iff_isSome_getElem?, Option.isSome_iff_exists]

theorem size_update (t : Table α) (key : String) (f : α → α) : (t.update key f).size = t.size := by
  unfold update
  split
  case h_1 => rfl
  case h_2 value found =>
    have there : t.contains key = true := by
      rw [Std.ExtTreeMap.contains_eq_isSome_getElem?, found, Option.isSome_some]
    rw [Std.ExtTreeMap.size_insert, if_pos there]

/-- The values of a table stand in the order of their keys. -/
theorem values_eq (t : Table α) : t.values = t.toList.map Prod.snd := by
  have folded : t.values = t.foldr (fun _ value rest => value :: rest) [] := by
    obtain ⟨inner⟩ := t
    induction inner using Std.ExtDTreeMap.inductionOn with
    | mk m => rfl
  rw [folded, Std.ExtTreeMap.foldr_eq_foldr_toList]
  induction t.toList with
  | nil => rfl
  | cons entry rest ih => rw [List.foldr_cons, ih, List.map_cons]

end Table

end ServiceMesh
