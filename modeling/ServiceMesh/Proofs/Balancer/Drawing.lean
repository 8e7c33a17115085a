import ServiceMesh.Proofs.Balancer.Turns

/-!
# Drawing by weight

Candidates that lie side by side on a line cut it into parts, one after the other and each as long
as the weight of its candidate. So each position up to the end of the line falls on one part, and a
position that is drawn from all of them hits a candidate as often as its weight says.
-/

namespace ServiceMesh

namespace WeightTable

variable {cs : List Candidate} {start position i : Nat} {ns : List Nat}

/-- The ends that a position has passed are those of the parts before the one that it falls on. -/
theorem length_takeWhile_sums_eq_iff (reached : start ≤ position)
    (before : position < start + ns.sum) :
    ((sums start ns).takeWhile (· ≤ position)).length = i ↔
      start + (ns.take i).sum ≤ position ∧ position < start + (ns.take (i + 1)).sum := by
  induction ns generalizing start i with
  | nil =>
    rw [List.sum_nil] at before
    omega
  | cons n rest ih =>
    rw [List.sum_cons] at before
    rw [sums, List.takeWhile_cons]
    by_cases passed : start + n ≤ position
    · have later := ih (i := i - 1) passed (by omega)
      cases i with
      | zero => simp [passed]
      | succ i =>
        simp only [passed, decide_true, if_true, List.length_cons, Nat.succ_inj,
          Nat.add_sub_cancel, List.take_succ_cons, List.sum_cons, ← Nat.add_assoc] at later ⊢
        exact later
    · cases i with
      | zero => simp [passed, reached]; omega
      | succ i => simp [passed]; omega

/-- A position belongs to the candidate whose part of the line it falls on. -/
theorem owner?_eq_some_iff : (ofCandidates cs).owner? position = some i ↔
    ((cs.map Candidate.share).take i).sum ≤ position ∧
      position < ((cs.map Candidate.share).take (i + 1)).sum := by
  rw [owner?, total_ofCandidates]
  split
  case isTrue before =>
    have inside : position < 0 + (cs.map Candidate.share).sum := by rwa [Nat.zero_add]
    have part := length_takeWhile_sums_eq_iff (i := i) (Nat.zero_le position) inside
    rw [Nat.zero_add, Nat.zero_add] at part
    rw [Option.some_inj]
    exact part
  case isFalse beyond =>
    have whole : ((cs.map Candidate.share).take (i + 1)).sum ≤ (cs.map Candidate.share).sum :=
      (List.take_sublist _ _).sum_le_sum fun _ _ => Nat.zero_le _
    refine iff_of_false (Option.some_ne_none i).symm fun inside => ?_
    omega

theorem isSome_owner?_iff :
    ((ofCandidates cs).owner? position).isSome ↔ position < (ofCandidates cs).total := by
  rw [owner?]
  split <;> simp_all

private theorem owner?_lt (found : (ofCandidates cs).owner? position = some i) : i < cs.length := by
  have before := isSome_owner?_iff.mp (Option.isSome_of_eq_some found)
  obtain ⟨j, inside, owned⟩ := owner?_in_range before
  rwa [← Option.some_inj.mp (owned.symm.trans found)]

/-- Later positions do not belong to earlier candidates. -/
theorem owner?_mono {later j : Nat} (le : position ≤ later)
    (found : (ofCandidates cs).owner? position = some i)
    (found' : (ofCandidates cs).owner? later = some j) : i ≤ j := by
  obtain ⟨reached, -⟩ := owner?_eq_some_iff.mp found
  obtain ⟨-, before⟩ := owner?_eq_some_iff.mp found'
  by_contra earlier
  have parts : ((cs.map Candidate.share).take (j + 1)).sum ≤
      ((cs.map Candidate.share).take i).sum :=
    (List.take_sublist_take_left (by omega)).sum_le_sum fun _ _ => Nat.zero_le _
  omega

/-! ## The ends of the parts -/

private theorem lt_of_mem_sums (taken : ∀ n ∈ ns, 0 < n) : ∀ e ∈ sums start ns, start < e := by
  induction ns generalizing start with
  | nil => exact fun e mem => nomatch mem
  | cons n rest ih =>
    obtain ⟨first, others⟩ := List.forall_mem_cons.mp taken
    refine List.forall_mem_cons.mpr ⟨by omega, fun e mem => ?_⟩
    have further := ih others e mem
    omega

/-- Parts that take up some place end one after the other. -/
theorem pairwise_sums (taken : ∀ n ∈ ns, 0 < n) : (sums start ns).Pairwise (· < ·) := by
  induction ns generalizing start with
  | nil => exact List.Pairwise.nil
  | cons n rest ih =>
    have others := (List.forall_mem_cons.mp taken).2
    exact List.pairwise_cons.mpr ⟨lt_of_mem_sums others, ih others⟩

theorem pairwise_ends (cs : List Candidate) : (ofCandidates cs).ends.Pairwise (· < ·) := by
  refine pairwise_sums fun n mem => ?_
  obtain ⟨c, -, rfl⟩ := List.mem_map.mp mem
  exact Nat.le_max_right _ _

end WeightTable

/-! ## Drawn positions -/

namespace Selector

open WeightTable

variable {cs : List Candidate} {draw : UInt64}

/-- A number that is drawn leads to the owner of the position that it stands for. -/
theorem choose_weighted (nonempty : cs ≠ []) (request : Request) (draw : UInt64) :
    (random true).choose cs request draw =
      ((ofCandidates cs).owner? (draw.toNat % (ofCandidates cs).total), random true) := by
  have offers : ¬cs.isEmpty = true := by simpa using nonempty
  rw [choose, drawn?, if_neg offers, if_pos rfl]

/-- The weights of a list of candidates, where zero counts as one, cut a line
into parts. A position has an owner exactly if it is less than the length of the line; the owner
is a place in the list, and never an earlier one for a later position; each candidate owns as many
positions as its weight says. So a weighted random choice among some candidates finds one of them
for every number that is drawn, from a range that is never empty, and of all the positions that
can be drawn as many lead to a candidate as its weight says.

The ends of the parts ascend strictly, so those that a position has passed come first, however
they are looked for. Up to `2 ^ 64`, and so for less than `2 ^ 32` candidates, the line can be
measured and drawn from in machine words. -/
theorem weighted_draws_in_proportion (cs : List Candidate) :
    let table := ofCandidates cs
    let chosen (request : Request) (draw : UInt64) := ((random true).choose cs request draw).1
    (∀ position, (table.owner? position).isSome ↔ position < table.total) ∧
    (∀ position later i j, position ≤ later → table.owner? position = some i →
      table.owner? later = some j → i ≤ j) ∧
    (∀ position i, table.owner? position = some i → i < cs.length) ∧
    (∀ i c, cs[i]? = some c →
      ((List.range table.total).map table.owner?).count (some i) =
        max c.record.weight.toNat 1) ∧
    (cs ≠ [] → 0 < table.total ∧
      ∀ request draw, ∃ i < cs.length, chosen request draw = some i ∧
        table.owner? (draw.toNat % table.total) = some i) ∧
    (table.total ≤ 2 ^ 64 → ∀ request i c, cs[i]? = some c →
      ((List.range table.total).map fun position =>
        chosen request (UInt64.ofNat position)).count (some i) = max c.record.weight.toNat 1) ∧
    (table.ends.Pairwise (· < ·) ∧ table.total = (cs.map Candidate.share).sum) ∧
    (table.total < 2 ^ 64 →
      (wordSums 0 (cs.map (·.record.weight))).map UInt64.toNat = table.ends) ∧
    (cs.length < 2 ^ 32 → table.total < 2 ^ 64) := by
  intro table chosen
  refine ⟨fun _ => isSome_owner?_iff, fun _ _ _ _ => owner?_mono, fun _ _ => owner?_lt,
    fun i c listed => count_owner? listed, ?_, ?_, ⟨pairwise_ends cs, total_ofCandidates cs⟩,
    ?_, ?_⟩
  · intro nonempty
    refine ⟨total_pos nonempty, fun request draw => ?_⟩
    obtain ⟨i, inside, owned⟩ := owner?_in_range (Nat.mod_lt draw.toNat (total_pos nonempty))
    refine ⟨i, inside, ?_, owned⟩
    simp only [chosen, choose_weighted nonempty]
    exact owned
  · intro fits request i c listed
    have nonempty : cs ≠ [] := List.ne_nil_of_mem (List.mem_of_getElem? listed)
    have positions : ∀ position ∈ List.range table.total,
        chosen request (UInt64.ofNat position) = table.owner? position := by
      intro position listed
      have before := List.mem_range.mp listed
      have word : (UInt64.ofNat position).toNat = position :=
        UInt64.toNat_ofNat_of_lt' (before.trans_le fits)
      simp only [chosen, choose_weighted nonempty, word]
      rw [Nat.mod_eq_of_lt before]
    rw [List.map_congr_left positions]
    exact count_owner? listed
  · intro fits
    refine map_toNat_wordSums 0 cs ?_
    rwa [UInt64.toNat_zero, Nat.zero_add, ← total_ofCandidates]
  · intro few
    rw [total_ofCandidates]
    exact sum_share_lt few

/-- Weights of three, zero and two: of the six numbers that can be drawn, one leads to the candidate
in the middle and two to the last one. -/
theorem weighted_draws_in_proportion_of_three :
    let weighing (id : String) (weight : UInt32) : Candidate :=
      { record := { serviceName := "svc", id, endpoint := "127.0.0.1", port := 8080, weight } }
    let cs := [weighing "a" 3, weighing "b" 0, weighing "c" 2]
    let chosen (draw : UInt64) := ((random true).choose cs {} draw).1
    ((ofCandidates cs).owner? 2 = some 0 ∧ (ofCandidates cs).owner? 5 = some 2 ∧ 0 ≤ 2) ∧
    (∃ i < 3, chosen 18_446_744_073_709_551_615 = some i) ∧
    ((List.range 6).map fun n => chosen (UInt64.ofNat n)).count (some 1) = 1 ∧
    ((List.range 6).map fun n => chosen (UInt64.ofNat n)).count (some 2) = 2 ∧
    (wordSums 0 (cs.map (·.record.weight))).map UInt64.toNat = [3, 4, 6] := by
  intro weighing cs chosen
  have total : (ofCandidates cs).total = 6 := by decide
  obtain ⟨-, ascends, -, -, ranged, drawn, -, words, -⟩ := weighted_draws_in_proportion cs
  rw [total] at drawn words
  have first : (ofCandidates cs).owner? 2 = some 0 := by decide
  have last : (ofCandidates cs).owner? 5 = some 2 := by decide
  obtain ⟨i, listed, found, -⟩ := (ranged (List.cons_ne_nil _ _)).2 {} 18_446_744_073_709_551_615
  exact ⟨⟨first, last, ascends 2 5 0 2 (by decide) first last⟩, ⟨i, listed, found⟩,
    drawn (by decide) {} 1 (weighing "b" 0) rfl, drawn (by decide) {} 2 (weighing "c" 2) rfl,
    (words (by decide)).trans (by decide)⟩

end Selector

end ServiceMesh
