import ServiceMesh.Balancer.Load
import ServiceMesh.Registry.Record

/-!
# Candidates

A candidate is an instance that may be selected now: its record and its load.
-/

namespace ServiceMesh

/-- An instance that may be selected. -/
structure Candidate where
  record : Record
  load : Load := {}
  deriving Inhabited

namespace Candidate

def id (c : Candidate) : String := c.record.id

/-- The weight in weighted choices. Weight zero counts as one. -/
def share (c : Candidate) : Nat := max c.record.weight.toNat 1

end Candidate

/-- The first of the elements that no other element comes before. -/
def firstLeast? (before : α → α → Bool) : List α → Option α
  | [] => none
  | x :: rest =>
    match firstLeast? before rest with
    | none => some x
    | some y => if before y x then some y else some x

theorem firstLeast?_mem {before : α → α → Bool} {xs : List α} {x : α}
    (h : firstLeast? before xs = some x) : x ∈ xs := by
  induction xs generalizing x with
  | nil => simp [firstLeast?] at h
  | cons y rest ih =>
    simp only [firstLeast?] at h
    split at h
    · simp_all
    · split at h
      · simp_all
      · simp_all

theorem firstLeast?_isSome {before : α → α → Bool} {xs : List α} (h : xs ≠ []) :
    (firstLeast? before xs).isSome = true := by
  cases xs with
  | nil => exact absurd rfl h
  | cons x rest =>
    simp only [firstLeast?]
    split
    · rfl
    · split <;> rfl

/-- No element comes before the one that is found, if elements that do not come before one
another go on so along a chain. -/
theorem not_before_firstLeast? {before : α → α → Bool}
    (asymm : ∀ x y, before x y = true → before y x = false)
    (trans : ∀ x y z, before x y = false → before y z = false → before x z = false)
    {xs : List α} {x : α} (h : firstLeast? before xs = some x) :
    ∀ y ∈ xs, before y x = false := by
  have irrefl : ∀ y, before y y = false := by
    intro y
    cases itself : before y y with
    | false => rfl
    | true => exact itself ▸ asymm y y itself
  induction xs generalizing x with
  | nil => simp
  | cons first rest ih =>
    simp only [firstLeast?] at h
    cases found : firstLeast? before rest with
    | none =>
      have empty : rest = [] := by
        cases rest with
        | nil => rfl
        | cons second others =>
          have least : (firstLeast? before (second :: others)).isSome = true :=
            firstLeast?_isSome (List.cons_ne_nil second others)
          rw [found] at least
          cases least
      rw [found] at h
      cases h
      simpa [empty] using irrefl first
    | some least =>
      have others := ih found
      rw [found] at h
      simp only at h
      split at h
      case isTrue earlier =>
        cases h
        exact List.forall_mem_cons.mpr ⟨asymm _ _ earlier, others⟩
      case isFalse later =>
        cases h
        refine List.forall_mem_cons.mpr ⟨irrefl first, fun y hy => ?_⟩
        exact trans y least first (others y hy) (Bool.eq_false_iff.mpr later)

end ServiceMesh
