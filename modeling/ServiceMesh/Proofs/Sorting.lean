import Mathlib.Data.List.Basic
import Mathlib.Order.Lattice

/-!
# Sorting by a key

A stable sort keeps the elements with one key in their order, so a sorted list is put
together from the elements of each key.
-/

namespace ServiceMesh

variable {α κ : Type} [LinearOrder κ] {key : α → κ}

private theorem key_trans (a b c : α) (hab : decide (key a ≤ key b) = true)
    (hbc : decide (key b ≤ key c) = true) : decide (key a ≤ key c) = true :=
  decide_eq_true (le_trans (of_decide_eq_true hab) (of_decide_eq_true hbc))

private theorem key_total (a b : α) :
    (decide (key a ≤ key b) || decide (key b ≤ key a)) = true := by
  simpa using le_total (key a) (key b)

variable (key) in
theorem pairwise_mergeSort_key (xs : List α) :
    (xs.mergeSort fun a b => key a ≤ key b).Pairwise fun a b => key a ≤ key b :=
  (List.pairwise_mergeSort key_trans key_total xs).imp of_decide_eq_true

variable (key) in
/-- A stable sort leaves the elements with one key in their order. -/
theorem filter_mergeSort_key (xs : List α) (k : κ) :
    (xs.mergeSort fun a b => key a ≤ key b).filter (fun x => key x == k) =
      xs.filter fun x => key x == k := by
  have level : (xs.filter fun x => key x == k).Pairwise fun a b => decide (key a ≤ key b) := by
    apply List.pairwise_of_forall_mem_list
    intro a ha b hb
    have keyA : key a = k := by simpa using (List.mem_filter.mp ha).2
    have keyB : key b = k := by simpa using (List.mem_filter.mp hb).2
    exact decide_eq_true (by rw [keyA, keyB])
  have kept := (List.sublist_mergeSort key_trans key_total level List.filter_sublist).filter
    fun x => key x == k
  simp only [List.filter_filter, Bool.and_self] at kept
  exact (kept.eq_of_length ((List.mergeSort_perm xs _).filter _).length_eq.symm).symm

/-- A sorted list begins with the elements of its least key. -/
theorem filter_append_of_sorted {ys : List α} {k : κ}
    (sorted : ys.Pairwise fun a b => key a ≤ key b) (least : ∀ y ∈ ys, k ≤ key y) :
    (ys.filter fun y => key y == k) ++ (ys.filter fun y => key y != k) = ys := by
  induction ys with
  | nil => rfl
  | cons y rest ih =>
    obtain ⟨first, others⟩ := List.pairwise_cons.mp sorted
    have smaller := ih others fun z hz => least z (List.mem_cons_of_mem y hz)
    by_cases hy : key y = k
    · simpa [hy] using smaller
    · have above : ∀ z ∈ rest, key z ≠ k := by
        intro z hz hzk
        exact hy (le_antisymm (hzk ▸ first z hz) (least y List.mem_cons_self))
      have nothing : rest.filter (fun z => key z == k) = [] := by simpa using above
      rw [nothing, List.nil_append] at smaller
      simp [hy, nothing, smaller]

/-- A sorted list is put together from the elements of each key, if all keys are listed. -/
theorem flatMap_filter_of_sorted {ks : List κ} {ys : List α}
    (ascend : ks.Pairwise (· < ·)) (sorted : ys.Pairwise fun a b => key a ≤ key b)
    (covered : ∀ y ∈ ys, key y ∈ ks) :
    (ks.flatMap fun k => ys.filter fun y => key y == k) = ys := by
  induction ks generalizing ys with
  | nil => simpa [List.eq_nil_iff_forall_not_mem] using covered
  | cons k rest ih =>
    obtain ⟨first, others⟩ := List.pairwise_cons.mp ascend
    have least : ∀ y ∈ ys, k ≤ key y := by
      intro y hy
      rcases List.mem_cons.mp (covered y hy) with same | later
      · exact same.ge
      · exact (first _ later).le
    have remaining : ∀ y ∈ ys.filter (fun y => key y != k), key y ∈ rest := by
      intro y hy
      obtain ⟨member, differ⟩ := List.mem_filter.mp hy
      exact (List.mem_cons.mp (covered y member)).resolve_left (by simpa using differ)
    -- the later keys do not see the elements of the first one
    have unseen : ∀ k' ∈ rest, (ys.filter fun y => key y == k') =
        (ys.filter fun y => key y != k).filter fun y => key y == k' := by
      intro k' later
      rw [List.filter_filter]
      apply List.filter_congr
      intro y _
      by_cases hy : key y = k'
      · simp [hy, (first k' later).ne']
      · simp [hy]
    calc ((k :: rest).flatMap fun k => ys.filter fun y => key y == k)
        = (ys.filter fun y => key y == k) ++
            rest.flatMap fun k' => (ys.filter fun y => key y != k).filter fun y => key y == k' := by
          rw [List.flatMap_cons, List.flatMap_congr unseen]
      _ = (ys.filter fun y => key y == k) ++ ys.filter fun y => key y != k := by
          rw [ih others (sorted.filter _) remaining]
      _ = ys := filter_append_of_sorted sorted least

theorem flatMap_filter_eq_mergeSort {ks : List κ} {xs : List α}
    (ascend : ks.Pairwise (· < ·)) (covered : ∀ x ∈ xs, key x ∈ ks) :
    (ks.flatMap fun k => xs.filter fun x => key x == k) =
      xs.mergeSort fun a b => key a ≤ key b := by
  rw [← flatMap_filter_of_sorted ascend (pairwise_mergeSort_key key xs) fun x hx =>
    covered x ((List.mergeSort_perm xs _).mem_iff.mp hx)]
  simp only [filter_mergeSort_key]

end ServiceMesh
