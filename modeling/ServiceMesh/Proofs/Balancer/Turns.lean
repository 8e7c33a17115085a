import Mathlib.Algebra.Order.BigOperators.Group.List
import Mathlib.Algebra.Order.Floor.Div
import Mathlib.Order.Interval.Finset.Nat
import ServiceMesh.Proofs.Balancer.Hashing

/-!
# Turns

A cursor that counts calls goes around a circle of places. However far it has come, each round
meets each place once. Weighted choices give each candidate as many of the places as its weight
says, so whole rounds lead to each candidate in proportion to its weight.
-/

namespace ServiceMesh

/-! ## Around a circle -/

/-- The places on a circle that a cursor meets on its way. -/
def turns (start steps places : Nat) : List Nat := (List.range' start steps).map (· % places)

section turns

variable {start steps places x : Nat}

@[simp] theorem length_turns : (turns start steps places).length = steps := by
  simp [turns]

theorem turns_succ :
    turns start (steps + 1) places = start % places :: turns (start + 1) steps places := by
  simp [turns, List.range'_succ]

theorem turns_add (start further steps places : Nat) :
    turns start (further + steps) places =
      turns start further places ++ turns (start + further) steps places := by
  rw [turns, ← List.range'_append_1, List.map_append, ← turns, ← turns]

/-- One round meets each place once, wherever it starts. -/
theorem turns_perm_range (start places : Nat) :
    (turns start places places).Perm (List.range places) := by
  have round := Nat.multiset_Ico_map_mod start places
  rw [Multiset.Ico, Nat.Ico_eq_range', Nat.add_sub_cancel_left] at round
  exact Multiset.coe_eq_coe.mp round

private theorem countP_turns_rounds (p : Nat → Bool) (start rounds places : Nat) :
    (turns start (rounds * places) places).countP p = rounds * (List.range places).countP p := by
  induction rounds generalizing start with
  | zero => simp [turns]
  | succ rounds ih =>
    rw [Nat.succ_mul, Nat.add_comm, turns_add, List.countP_append, ih,
      (turns_perm_range start places).countP_eq, Nat.succ_mul, Nat.add_comm]

/-- Within a round no place is met twice. -/
theorem nodup_turns (within : steps ≤ places) : (turns start steps places).Nodup := by
  have round : (turns start places places).Nodup :=
    (turns_perm_range start places).nodup_iff.mpr List.nodup_range
  have split : turns start places places =
      turns start steps places ++ turns (start + steps) (places - steps) places := by
    rw [← turns_add, Nat.add_sub_cancel' within]
  exact (split ▸ round).of_append_left

/-- A place is met once in each whole round, and at most once in what is left. -/
theorem count_turns (start steps : Nat) (there : x < places) :
    ∃ rest ≤ min 1 (steps % places),
      (turns start steps places).count x = steps / places + rest := by
  have pos : 0 < places := Nat.zero_lt_of_lt there
  have each : (List.range places).count x = 1 :=
    List.count_eq_one_of_mem List.nodup_range (List.mem_range.mpr there)
  -- What is left of the way after the whole rounds is no whole round.
  refine ⟨(turns (start + steps / places * places) (steps % places) places).count x, ?_, ?_⟩
  · refine Nat.le_min.mpr ⟨?_, ?_⟩
    · exact List.nodup_iff_count_le_one.mp (nodup_turns (Nat.mod_lt _ pos).le) x
    · exact List.count_le_length.trans length_turns.le
  · calc (turns start steps places).count x
        = (turns start (steps / places * places + steps % places) places).count x := by
          rw [Nat.div_add_mod']
      _ = _ := by
          rw [turns_add, List.count_append, List.count, countP_turns_rounds, ← List.count, each,
            Nat.mul_one]

/-- A place is met as often as the others, up to one. -/
theorem count_turns_floor_or_ceil (start steps : Nat) (there : x < places) :
    (turns start steps places).count x = steps / places ∨
      (turns start steps places).count x = steps ⌈/⌉ places := by
  obtain ⟨rest, atMost, counted⟩ := count_turns start steps there
  obtain ⟨one, left⟩ := Nat.le_min.mp atMost
  rcases Nat.le_one_iff_eq_zero_or_eq_one.mp one with rfl | rfl
  · exact .inl counted
  · right
    have pos : 0 < places := Nat.zero_lt_of_lt there
    have split := Nat.div_add_mod' steps places
    have within := Nat.mod_lt steps pos
    rw [counted, Nat.ceilDiv_eq_add_pred_div]
    symm
    apply Nat.div_eq_of_lt_le
    · rw [Nat.succ_mul]
      omega
    · rw [Nat.succ_mul, Nat.succ_mul]
      omega

theorem count_turns_of_dvd (start : Nat) (there : x < places) (whole : places ∣ steps) :
    (turns start steps places).count x = steps / places := by
  obtain ⟨rest, atMost, counted⟩ := count_turns start steps there
  have nothing : rest = 0 := by
    rw [Nat.mod_eq_zero_of_dvd whole, Nat.min_zero] at atMost
    exact Nat.le_zero.mp atMost
  rw [counted, nothing, Nat.add_zero]

end turns

/-! ## Cursors -/

theorem toNat_cursor_le (cursor : UInt64) : (cursor + 1).toNat ≤ cursor.toNat + 1 := by
  rw [UInt64.toNat_add]
  exact Nat.mod_le _ _

theorem toNat_cursor {cursor : UInt64} (fits : cursor.toNat + 1 < 2 ^ 64) :
    (cursor + 1).toNat = cursor.toNat + 1 := by
  rw [UInt64.toNat_add, UInt64.toNat_one, Nat.mod_eq_of_lt fits]

/-! ## Places on the line -/

namespace WeightTable

/-- Each length covers as many positions as it is long. -/
theorem countP_takeWhile_sums (start : Nat) {ns : List Nat} {i n : Nat} (h : ns[i]? = some n) :
    (List.range' start ns.sum).countP
      (fun position => ((sums start ns).takeWhile (· ≤ position)).length = i) = n := by
  induction ns generalizing start i with
  | nil => cases h
  | cons first rest ih =>
    -- No end has passed a position of the first length, and the first end has passed all others.
    have passed : ∀ position ∈ List.range' start first,
        (sums start (first :: rest)).takeWhile (· ≤ position) = [] := by
      intro position inside
      have before : ¬start + first ≤ position := by
        have := (List.mem_range'_1.mp inside).2
        omega
      simp [sums, before]
    have later : ∀ position ∈ List.range' (start + first) rest.sum,
        (sums start (first :: rest)).takeWhile (· ≤ position) =
          (start + first) :: (sums (start + first) rest).takeWhile (· ≤ position) := by
      intro position inside
      simp [sums, (List.mem_range'_1.mp inside).1]
    rw [List.sum_cons, ← List.range'_append_1, List.countP_append]
    cases i with
    | zero =>
      cases h
      rw [List.countP_eq_length.mpr, List.countP_eq_zero.mpr, List.length_range', Nat.add_zero]
      · intro position inside
        simp [later position inside]
      · intro position inside
        simp [passed position inside]
    | succ i =>
      rw [List.countP_eq_zero.mpr, Nat.zero_add, ← ih (start + first) h]
      · refine List.countP_congr fun position inside => ?_
        simp [later position inside]
      · intro position inside
        simp [passed position inside]

/-- A candidate owns as many positions as its share. -/
theorem count_owner? {cs : List Candidate} {i : Nat} {c : Candidate} (h : cs[i]? = some c) :
    ((List.range (ofCandidates cs).total).map (ofCandidates cs).owner?).count (some i) =
      c.share := by
  have listed : (cs.map Candidate.share)[i]? = some c.share := by
    rw [List.getElem?_map, h, Option.map_some]
  rw [List.count, List.countP_map, ← countP_takeWhile_sums 0 listed, ← total_ofCandidates,
    List.range_eq_range']
  refine List.countP_congr fun position inside => ?_
  have before : position < (ofCandidates cs).total := by
    simpa using (List.mem_range'_1.mp inside).2
  simp only [Function.comp_apply, owner?, if_pos before]
  simp [ofCandidates]

/-! ## Machine words -/

/-- The running sums in machine words. -/
def wordSums (start : UInt64) : List UInt32 → List UInt64
  | [] => []
  | weight :: rest =>
    let reached := start + (max weight 1).toUInt64
    reached :: wordSums reached rest

private theorem toNat_max_one (weight : UInt32) :
    (max weight 1).toUInt64.toNat = max weight.toNat 1 := by
  rw [UInt32.toNat_toUInt64]
  change (if weight ≤ 1 then 1 else weight).toNat = max weight.toNat 1
  split
  case isTrue light => exact (max_eq_right (UInt32.le_iff_toNat_le.mp light)).symm
  case isFalse heavy =>
    have above := UInt32.lt_iff_toNat_lt.mp (UInt32.not_le.mp heavy)
    exact (max_eq_left above.le).symm

/-- Running sums that stay below the end of machine words are the running sums of numbers. -/
theorem map_toNat_wordSums (start : UInt64) (cs : List Candidate)
    (fits : start.toNat + (cs.map Candidate.share).sum < 2 ^ 64) :
    (wordSums start (cs.map (·.record.weight))).map UInt64.toNat =
      sums start.toNat (cs.map Candidate.share) := by
  induction cs generalizing start with
  | nil => rfl
  | cons c rest ih =>
    rw [List.map_cons, List.sum_cons] at fits
    have reached : (start + (max c.record.weight 1).toUInt64).toNat = start.toNat + c.share := by
      rw [UInt64.toNat_add, toNat_max_one, Nat.mod_eq_of_lt]
      · rfl
      · unfold Candidate.share at fits
        omega
    simp only [List.map_cons, wordSums, sums]
    rw [ih _ (by rw [reached]; omega), reached]

/-- The shares of a list of fewer than `2 ^ 32` candidates sum up below `2 ^ 64`. -/
theorem sum_share_lt {cs : List Candidate} (few : cs.length < 2 ^ 32) :
    (cs.map Candidate.share).sum < 2 ^ 64 := by
  have each : ∀ n ∈ cs.map Candidate.share, n ≤ 2 ^ 32 := by
    intro n listed
    obtain ⟨c, -, rfl⟩ := List.mem_map.mp listed
    have bound := c.record.weight.toNat_lt
    exact Nat.max_le.mpr ⟨bound.le, by decide⟩
  calc (cs.map Candidate.share).sum
      ≤ (cs.map Candidate.share).length * 2 ^ 32 := List.sum_le_card_nsmul _ _ each
    _ < 2 ^ 32 * 2 ^ 32 := by
      rw [List.length_map]
      exact Nat.mul_lt_mul_of_pos_right few (by decide)
    _ = 2 ^ 64 := by decide

end WeightTable

/-! ## Calls of a selector -/

namespace Selector

open WeightTable

variable {s : Selector} {cursor : UInt64} {cs : List Candidate}

/-- The selector after some calls. -/
def after (s : Selector) (asks : List Ask) : Selector :=
  asks.foldl (fun s a => (s.choose a.candidates a.request a.draw).2) s

/-- What a selector answers to calls that follow one another. -/
def answers (s : Selector) : List Ask → List (Option Nat)
  | [] => []
  | a :: rest =>
    let (answer, next) := s.choose a.candidates a.request a.draw
    answer :: next.answers rest

/-- The cursor of weighted turns has come at most as far as there were calls. -/
theorem after_weighted (cursor : UInt64) (earlier : List Ask) :
    ∃ reached, (weightedRoundRobin cursor).after earlier = weightedRoundRobin reached ∧
      reached.toNat ≤ cursor.toNat + earlier.length := by
  induction earlier generalizing cursor with
  | nil => exact ⟨cursor, rfl, Nat.le_refl _⟩
  | cons a rest ih =>
    rw [after, List.foldl_cons, ← after]
    simp only [choose]
    split
    · obtain ⟨reached, same, far⟩ := ih cursor
      exact ⟨reached, same, by rw [List.length_cons]; omega⟩
    · obtain ⟨reached, same, far⟩ := ih (cursor + 1)
      have once := toNat_cursor_le cursor
      exact ⟨reached, same, by rw [List.length_cons]; omega⟩

/-- While the shares stay the same, weighted turns go around the line. -/
theorem answers_weighted (nonempty : cs ≠ []) {window : List Ask}
    (fits : cursor.toNat + window.length < 2 ^ 64)
    (unchanged : ∀ a ∈ window, a.candidates.map Candidate.share = cs.map Candidate.share) :
    (weightedRoundRobin cursor).answers window =
      (turns cursor.toNat window.length (ofCandidates cs).total).map (ofCandidates cs).owner? := by
  induction window generalizing cursor with
  | nil => rfl
  | cons a rest ih =>
    obtain ⟨same, unchanged⟩ := List.forall_mem_cons.mp unchanged
    have table : ofCandidates a.candidates = ofCandidates cs := by
      rw [ofCandidates, same, ofCandidates]
    rw [List.length_cons] at fits
    have next : (cursor + 1).toNat = cursor.toNat + 1 := toNat_cursor (by omega)
    simp only [answers, choose, table, if_neg (total_pos nonempty).ne']
    rw [ih (by omega) unchanged, List.length_cons, turns_succ, List.map_cons, next]

/-- Weighted turns are in proportion to the weights. Whatever a selector was asked before, calls
that follow one another while the shares of the candidates stay the same, as many as make whole
rounds, lead to each candidate as often in each round as its weight says, where zero counts as
one. Each choice among some candidates is one of them, and the ends of fewer than `2 ^ 32`
candidates on the line fit into machine words. -/
theorem weighted_turns_in_proportion :
    (∀ (config : BalancerConfig) (earlier window : List Ask) (cs : List Candidate) (rounds : Nat),
      config.algorithm = .weightedRoundRobin →
      earlier.length + window.length < 2 ^ 64 →
      (∀ a ∈ window, a.candidates.map Candidate.share = cs.map Candidate.share) →
      window.length = rounds * (cs.map Candidate.share).sum →
      ∀ i c, cs[i]? = some c →
        (((ofConfig config).after earlier).answers window).count (some i) =
          rounds * max c.record.weight.toNat 1) ∧
    (∀ (cursor : UInt64) (cs : List Candidate) (request : Request) (draw : UInt64), cs ≠ [] →
      ∃ i < cs.length, ((weightedRoundRobin cursor).choose cs request draw).1 = some i) ∧
    ∀ cs : List Candidate, cs.length < 2 ^ 32 →
      (wordSums 0 (cs.map (·.record.weight))).map UInt64.toNat = (ofCandidates cs).ends := by
  refine ⟨?_, ?_, ?_⟩
  · intro config earlier window cs rounds weighted few unchanged whole i c listed
    have nonempty : cs ≠ [] := by
      rintro rfl
      cases listed
    have fresh : ofConfig config = weightedRoundRobin 0 := by
      rw [ofConfig, weighted]
    obtain ⟨reached, same, far⟩ := after_weighted 0 earlier
    rw [UInt64.toNat_zero, Nat.zero_add] at far
    rw [← total_ofCandidates] at whole
    rw [fresh, same, answers_weighted nonempty (by omega) unchanged, whole, List.count,
      List.countP_map, countP_turns_rounds, ← List.countP_map, ← List.count, count_owner? listed]
    rfl
  · intro cursor cs request draw nonempty
    exact choose_in_range (by rintro ⟨⟩) nonempty request draw
  · intro cs few
    have fits : (0 : UInt64).toNat + (cs.map Candidate.share).sum < 2 ^ 64 := by
      rw [UInt64.toNat_zero, Nat.zero_add]
      exact sum_share_lt few
    exact map_toNat_wordSums 0 cs fits

/-- Weights of three and zero lead there three times and once in each of two rounds, though three
calls with other candidates came before and the rounds begin in the middle of the line. -/
theorem weighted_turns_in_proportion_of_two :
    let weighing (id : String) (weight : UInt32) : Candidate :=
      { record := { serviceName := "svc", id, endpoint := "127.0.0.1", port := 8080, weight } }
    let asking (cs : List Candidate) : Ask := { candidates := cs, request := {}, draw := 0 }
    let two := [weighing "a" 3, weighing "b" 0]
    let s := (ofConfig { algorithm := .weightedRoundRobin }).after
      (List.replicate 3 (asking [weighing "b" 0]))
    let window := List.replicate 8 (asking two)
    s = weightedRoundRobin 3 ∧
    (s.answers window).count (some 0) = 2 * 3 ∧ (s.answers window).count (some 1) = 2 * 1 ∧
    (∃ i < 2, (s.choose two {} 0).1 = some i) ∧
    (wordSums 0 (two.map (·.record.weight))).map UInt64.toNat = [3, 4] := by
  intro weighing asking two s window
  obtain ⟨proportional, inRange, words⟩ := weighted_turns_in_proportion
  have turn := proportional { algorithm := .weightedRoundRobin }
    (List.replicate 3 (asking [weighing "b" 0])) window two 2 rfl (by decide)
    (fun a asked => by rw [List.eq_of_mem_replicate asked]) (by decide)
  exact ⟨by decide, turn 0 (weighing "a" 3) rfl, turn 1 (weighing "b" 0) rfl,
    inRange 3 two {} 0 (List.cons_ne_nil _ _), (words two (by decide)).trans (by decide)⟩

end Selector

end ServiceMesh
