import Mathlib.Data.Nat.ModEq
import ServiceMesh.Proofs.Balancer.Desk
import ServiceMesh.Proofs.Balancer.Turns

/-!
# Algorithms in lockstep

Two algorithms go around the candidates by a cursor, and two look for the least of counters that
each selection changes. When all candidates begin alike and nobody reports, the counters stay in
order: after some rounds, the candidates that the round under way has come to have one selection
more than the others. So the least counters begin just where the cursor stands, and all four
algorithms choose alike, until a word is full: that of the cursor, or those of the counters.
-/

namespace ServiceMesh

/-! ## Counters in order -/

/-- How often a place was met by steps that go around from the first place on. -/
def rounds (steps places place : Nat) : Nat :=
  steps / places + if place < steps % places then 1 else 0

section rounds

variable {steps places place : Nat}

/-- A step counts for the place that it leads to. -/
theorem rounds_succ (there : place < places) :
    rounds (steps + 1) places place =
      rounds steps places place + if place = steps % places then 1 else 0 := by
  have pos : 0 < places := Nat.zero_lt_of_lt there
  have within : steps % places < places := Nat.mod_lt steps pos
  have parts : steps = places * (steps / places) + steps % places := (Nat.div_add_mod ..).symm
  unfold rounds
  by_cases last : steps % places + 1 = places
  · -- The round is complete, so the next one is under way and nobody is ahead.
    have next : steps + 1 = places * (steps / places + 1) := by
      rw [Nat.mul_add_one]
      omega
    rw [next, Nat.mul_div_cancel_left _ pos, Nat.mul_mod_right]
    by_cases met : place = steps % places
    · rw [if_neg (Nat.not_lt_zero _), if_neg (by omega), if_pos met]
    · rw [if_neg (Nat.not_lt_zero _), if_pos (by omega), if_neg met]
  · have next : steps + 1 = (steps % places + 1) + places * (steps / places) := by omega
    have inside : steps % places + 1 < places := by omega
    rw [next, Nat.add_mul_div_left _ _ pos, Nat.add_mul_mod_self_left, Nat.div_eq_of_lt inside,
      Nat.mod_eq_of_lt inside, Nat.zero_add, Nat.add_assoc]
    congr 1
    by_cases met : place = steps % places
    · rw [if_pos (by omega), if_neg (by omega), if_pos met]
    · rw [if_neg met, Nat.add_zero]
      exact if_congr (by omega) rfl rfl

/-- The least counters begin where the steps have come to. -/
theorem firstLeast_rounds (pos : 0 < places) :
    FirstLeast ((List.range places).map (rounds steps places)) (steps % places) := by
  have within : steps % places < places := Nat.mod_lt steps pos
  refine ⟨steps / places, ?_, ?_, ?_⟩
  · simp [within, rounds]
  · intro j m there
    obtain ⟨i, -, rfl⟩ := List.mem_map.mp (List.mem_of_getElem? there)
    exact Nat.le_add_right _ _
  · intro j before m there
    have inside : j < places := before.trans within
    simp [inside, rounds, before] at there
    omega

/-- While the steps fill no word at all places, each place was met less often than a word can
tell. -/
theorem rounds_lt (there : place < places) (held : steps ≤ places * (2 ^ 64 - 1)) :
    rounds steps places place < 2 ^ 64 := by
  have pos : 0 < places := Nat.zero_lt_of_lt there
  have whole : steps / places ≤ 2 ^ 64 - 1 := Nat.div_le_of_le_mul held
  unfold rounds
  split
  case isTrue ahead =>
    have part : places * (steps / places) < places * (2 ^ 64 - 1) := by
      have parts := Nat.div_add_mod steps places
      omega
    have fewer := Nat.lt_of_mul_lt_mul_left part
    omega
  case isFalse => omega

end rounds

namespace Load

/-- The load of an instance that was given out some times, without any report. -/
def unreported (n : Nat) : Load := { pending := .ofNat n, selections := .ofNat n }

theorem start_unreported (n : Nat) : (unreported n).start = unreported (n + 1) := by
  simp [start, unreported]

theorem inFlight_unreported {n : Nat} (fits : n < 2 ^ 64) : (unreported n).inFlight = n :=
  UInt64.toNat_ofNat_of_lt' fits

theorem total_unreported {n : Nat} (fits : n < 2 ^ 64) : (unreported n).total = n :=
  UInt64.toNat_ofNat_of_lt' fits

end Load

/-! ## Choices -/

namespace WeightTable

theorem total_of_ones {cs : List Candidate} (ones : ∀ c ∈ cs, c.share = 1) :
    (ofCandidates cs).total = cs.length := by
  have all : ∀ n ∈ cs.map Candidate.share, n = 1 := List.forall_mem_map.mpr ones
  rw [total_ofCandidates, List.eq_replicate_of_mem all, List.sum_replicate, List.length_map]
  simp

/-- The running sums of ones ascend by one. -/
theorem length_takeWhile_sums_of_ones {ns : List Nat} (ones : ∀ n ∈ ns, n = 1) (start : Nat)
    {position : Nat} (inside : position < ns.length) :
    ((sums start ns).takeWhile (· ≤ start + position)).length = position := by
  induction ns generalizing start position with
  | nil => exact absurd inside (Nat.not_lt_zero _)
  | cons n rest ih =>
    obtain ⟨rfl, others⟩ := List.forall_mem_cons.mp ones
    cases position with
    | zero => simp [sums]
    | succ position =>
      have later := ih others (start + 1) (Nat.lt_of_succ_lt_succ inside)
      rw [Nat.add_right_comm] at later
      simpa [sums, Nat.add_assoc] using later

/-- On a line of ones each position has its own owner. -/
theorem owner?_of_ones {cs : List Candidate} (ones : ∀ c ∈ cs, c.share = 1) {position : Nat}
    (inside : position < cs.length) : (ofCandidates cs).owner? position = some position := by
  have all : ∀ n ∈ cs.map Candidate.share, n = 1 := List.forall_mem_map.mpr ones
  have counted : position < (cs.map Candidate.share).length := by rwa [List.length_map]
  have place := length_takeWhile_sums_of_ones all 0 counted
  rw [Nat.zero_add] at place
  rw [owner?, total_of_ones ones, if_pos inside]
  exact congrArg some place

end WeightTable

namespace Selector

variable {cs : List Candidate} {i : Nat}

/-- Candidates without any report succeed often enough alike, or none does. -/
theorem fastest?_of_unreported {rate : Float}
    (unreported : ∀ c ∈ cs, ∃ n, c.load = .unreported n) :
    fastest? rate cs = (firstLeast? faster cs.zipIdx).map (·.2) := by
  have alike : cs.zipIdx.filter (fun c => rate ≤ c.1.load.successRate) =
      cs.zipIdx.filter fun _ => rate ≤ (Load.unreported 0).successRate := by
    apply List.filter_congr
    intro x listed
    obtain ⟨n, same⟩ := unreported x.1 (List.fst_mem_of_mem_zipIdx listed)
    rw [same]
    rfl
  rw [fastest?, alike]
  by_cases enough : rate ≤ (Load.unreported 0).successRate
  · simp [enough]
  · simp [enough]

/-- Without any report the fastest candidate is the first one that was selected least. -/
theorem firstLeast_of_fastest? {rate : Float}
    (unreported : ∀ c ∈ cs, ∃ n, c.load = .unreported n) (chosen : fastest? rate cs = some i) :
    FirstLeast (cs.map fun c => c.load.total) i := by
  have silent : ∀ c ∈ cs, c.load.averageMs = none := by
    intro c listed
    obtain ⟨n, same⟩ := unreported c listed
    rw [same]
    rfl
  rw [fastest?_of_unreported unreported] at chosen
  obtain ⟨x, least, rfl⟩ := Option.map_eq_some_iff.mp chosen
  apply firstLeast_of_firstLeast? _ least
  intro x hx y hy _ _
  simp [faster, silent x hx, silent y hy]

end Selector

/-! ## Desks -/

namespace Algorithm

/-- The algorithms that choose alike as long as nobody reports. -/
def rotating : List Algorithm :=
  [.roundRobin, .weightedRoundRobin, .leastConnections, .performanceBased]

/-- How far an algorithm has come with some selections. Cursors count modulo `2 ^ 64`. -/
def steps (a : Algorithm) (n : Nat) : Nat :=
  match a with
  | roundRobin | weightedRoundRobin => n % 2 ^ 64
  | _ => n

/-- Whether an algorithm chooses by what the loads are. -/
def weighsLoads (a : Algorithm) : Bool := a = leastConnections || a = performanceBased

theorem steps_of_lt (a : Algorithm) {n : Nat} (few : n < 2 ^ 64) : a.steps n = n := by
  cases a with
  | roundRobin | weightedRoundRobin => exact Nat.mod_eq_of_lt few
  | _ => rfl

theorem steps_of_weighsLoads (a : Algorithm) (weighs : a.weighsLoads = true) (n : Nat) :
    a.steps n = n := by
  cases a with
  | roundRobin | weightedRoundRobin => cases weighs
  | _ => rfl

theorem steps_of_not_weighsLoads {a : Algorithm} (rotates : a ∈ rotating)
    (turns : a.weighsLoads = false) (n : Nat) : a.steps n = n % 2 ^ 64 := by
  cases a with
  | roundRobin | weightedRoundRobin => rfl
  | leastConnections | performanceBased => cases turns
  | random | consistentHash => simp [rotating] at rotates

/-- Some selections that go around some places fill no word for the load at all of them, if the
algorithm looks at the loads. -/
def Holds (a : Algorithm) (places n : Nat) : Prop :=
  a.weighsLoads = true → n ≤ places * (2 ^ 64 - 1)

theorem Holds.of_le {a : Algorithm} {places m n : Nat} (holds : a.Holds places n) (le : m ≤ n) :
    a.Holds places m := fun weighs => le.trans (holds weighs)

theorem holds_of_not_weighsLoads {a : Algorithm} (turns : a.weighsLoads = false)
    (places n : Nat) : a.Holds places n := by
  intro weighs
  cases turns.symm.trans weighs

theorem holds_of_lt (a : Algorithm) {places n : Nat} (pos : 0 < places) (few : n < 2 ^ 64) :
    a.Holds places n := by
  intro _
  have one : 1 * (2 ^ 64 - 1) ≤ places * (2 ^ 64 - 1) := Nat.mul_le_mul_right _ pos
  omega

end Algorithm

namespace Selector

/-- The cursor of a selector, if it has one. -/
def cursor? : Selector → Option UInt64
  | roundRobin cursor | weightedRoundRobin cursor => some cursor
  | _ => none

/-- A selector of an algorithm that has come some steps from its beginning. -/
structure Stepped (a : Algorithm) (n : Nat) (s : Selector) : Prop where
  algorithm : s.algorithm = a
  cursor : ∀ k, s.cursor? = some k → k = .ofNat n

theorem stepped_ofConfig (config : BalancerConfig) :
    (ofConfig config).Stepped config.algorithm 0 := by
  unfold ofConfig
  cases config.algorithm with
  | roundRobin | weightedRoundRobin => exact ⟨rfl, fun _ there => (Option.some.inj there).symm⟩
  | leastConnections | performanceBased | random | consistentHash =>
    refine ⟨rfl, ?_⟩
    rintro k ⟨⟩

/-- Configurations that do not outdate each other begin alike. -/
theorem Stepped.of_current {a : Algorithm} {n : Nat} {old new : BalancerConfig}
    (h : (ofConfig old).Stepped a n) (current : outdated old new = false) :
    (ofConfig new).Stepped a n := by
  simp only [outdated, Bool.or_eq_false_iff, bne_eq_false_iff_eq] at current
  have same : old.algorithm = new.algorithm := current.1.1.1
  unfold ofConfig at h ⊢
  rw [← same]
  cases asked : old.algorithm with
  | roundRobin | weightedRoundRobin =>
    rw [asked] at h
    exact h
  | leastConnections | performanceBased | random | consistentHash =>
    rw [asked] at h
    refine ⟨h.algorithm, ?_⟩
    rintro k ⟨⟩

end Selector

namespace Desk

variable {d : Desk} {a : Algorithm} {n : Nat}

/-- A desk after some selections from candidates of weight one that nobody has reported on. -/
structure Stepped (a : Algorithm) (n : Nat) (d : Desk) : Prop where
  selector : d.selector.Stepped a n
  shares : ∀ c ∈ d.candidates, c.share = 1
  loads : a.weighsLoads = true →
    d.candidates.map Candidate.load =
      (List.range d.candidates.length).map fun i =>
        Load.unreported (rounds n d.candidates.length i)

namespace Stepped

/-- Counters that are read off the loads are in order. -/
theorem firstLeast (h : d.Stepped a n) (weighs : a.weighsLoads = true)
    (held : n ≤ d.candidates.length * (2 ^ 64 - 1)) (offers : d.candidates ≠ [])
    {f : Load → Nat} (counts : ∀ k < 2 ^ 64, f (.unreported k) = k) :
    FirstLeast (d.candidates.map fun c => f c.load) (n % d.candidates.length) := by
  have numbers : d.candidates.map (fun c => f c.load) =
      (List.range d.candidates.length).map (rounds n d.candidates.length) := by
    have read := congrArg (List.map f) (h.loads weighs)
    rw [List.map_map, List.map_map] at read
    apply read.trans
    apply List.map_congr_left
    intro i listed
    exact counts _ (rounds_lt (List.mem_range.mp listed) held)
  rw [numbers]
  exact firstLeast_rounds (List.length_pos_iff.mpr offers)

/-- The next selection gives out the candidate at the place that the steps have come to. -/
theorem answer (h : d.Stepped a n) (rotates : a ∈ Algorithm.rotating)
    (held : a.Holds d.candidates.length n) (offers : d.candidates ≠ []) (q : Demand) :
    d.answer q = some (a.steps n % d.candidates.length) := by
  have pos : 0 < d.candidates.length := List.length_pos_iff.mpr offers
  obtain ⟨algorithm, cursor⟩ := h.selector
  unfold Desk.answer
  cases kept : d.selector with
  | roundRobin k =>
    rw [kept] at algorithm cursor
    rw [cursor k rfl, ← algorithm]
    simp [Selector.choose, offers, Algorithm.steps, Selector.algorithm]
  | weightedRoundRobin k =>
    rw [kept] at algorithm cursor
    have total : (WeightTable.ofCandidates d.candidates).total = d.candidates.length :=
      WeightTable.total_of_ones h.shares
    have inside := Nat.mod_lt (n % 2 ^ 64) pos
    rw [cursor k rfl, ← algorithm]
    simp [Selector.choose, total, pos.ne', Algorithm.steps, Selector.algorithm] at inside ⊢
    exact WeightTable.owner?_of_ones h.shares inside
  | leastConnections =>
    rw [kept] at algorithm
    have weighs : a.weighsLoads = true := by rw [← algorithm]; rfl
    obtain ⟨i, -, chosen⟩ := Selector.leastLoaded?_in_range offers
    have first := h.firstLeast weighs (held weighs) offers (f := Load.inFlight)
      fun _ => Load.inFlight_unreported
    rw [Selector.choose, chosen, (Selector.firstLeast_of_leastLoaded? chosen).unique first,
      a.steps_of_weighsLoads weighs]
  | performanceBased rate =>
    rw [kept] at algorithm
    have weighs : a.weighsLoads = true := by rw [← algorithm]; rfl
    obtain ⟨i, -, chosen⟩ := Selector.fastest?_in_range rate offers
    have unreported : ∀ c ∈ d.candidates, ∃ n, c.load = .unreported n := by
      intro c listed
      have there := List.mem_map_of_mem (f := Candidate.load) listed
      rw [h.loads weighs] at there
      obtain ⟨i, -, same⟩ := List.mem_map.mp there
      exact ⟨_, same.symm⟩
    have first := h.firstLeast weighs (held weighs) offers (f := Load.total)
      fun _ => Load.total_unreported
    rw [Selector.choose, chosen, (Selector.firstLeast_of_fastest? unreported chosen).unique first,
      a.steps_of_weighsLoads weighs]
  | random | consistentHash =>
    rw [kept] at algorithm
    rw [← algorithm] at rotates
    simp [Algorithm.rotating, Selector.algorithm] at rotates

theorem selector_serve (h : d.Stepped a n) (offers : d.candidates ≠ []) (q : Demand) :
    (d.serve q).selector.Stepped a (n + 1) := by
  obtain ⟨algorithm, cursor⟩ := h.selector
  refine ⟨(d.algorithm_serve q).trans algorithm, ?_⟩
  unfold Desk.serve
  cases kept : d.selector with
  | roundRobin k =>
    rw [kept] at cursor
    simp [cursor k rfl, Selector.choose, offers, Selector.cursor?]
  | weightedRoundRobin k =>
    have total : (WeightTable.ofCandidates d.candidates).total = d.candidates.length :=
      WeightTable.total_of_ones h.shares
    rw [kept] at cursor
    simp [cursor k rfl, Selector.choose, total, offers, Selector.cursor?]
  | leastConnections | performanceBased | random =>
    rintro k ⟨⟩
  | consistentHash =>
    simp [Selector.choose, offers, Selector.cursor?]

/-- A selection is one step. -/
theorem serve (h : d.Stepped a n) (rotates : a ∈ Algorithm.rotating)
    (held : a.Holds d.candidates.length n) (offers : d.candidates ≠ []) (q : Demand) :
    (d.serve q).Stepped a (n + 1) := by
  have answered := h.answer rotates held offers q
  refine ⟨h.selector_serve offers q, ?_, fun weighs => ?_⟩
  · have kept : (d.serve q).candidates.map Candidate.share = d.candidates.map Candidate.share := by
      rw [map_candidates_serve answered (g := id) fun _ => rfl]
      exact List.modify_id ..
    intro c listed
    have there := List.mem_map_of_mem (f := Candidate.share) listed
    rw [kept] at there
    obtain ⟨before, old, same⟩ := List.mem_map.mp there
    rw [← same, h.shares before old]
  · rw [map_candidates_serve answered (g := Load.start) fun _ => rfl,
      a.steps_of_weighsLoads weighs, h.loads weighs, d.length_candidates_serve]
    apply List.ext_getElem?
    intro j
    rw [List.getElem?_modify, List.getElem?_map, List.getElem?_map]
    by_cases inside : j < d.candidates.length
    · rw [List.getElem?_range inside, Option.map_some, Option.map_some,
        Option.map_eq_map, Option.map_some, rounds_succ inside]
      by_cases met : n % d.candidates.length = j
      · rw [if_pos met, if_pos met.symm, Load.start_unreported]
      · rw [if_neg met, if_neg (Ne.symm met)]
        rfl
    · simp [inside]

end Stepped

end Desk

end ServiceMesh
