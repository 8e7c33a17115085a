import Mathlib.Algebra.GroupWithZero.Nat
import Mathlib.Data.List.Basic
import ServiceMesh.Balancer.Selector

/-!
# What selectors choose

Whatever its cursor, its ring and the number drawn for it, a selector chooses a position
inside the list of candidates. Every algorithm but consistent hashing finds one in every
list that is not empty. Consistent hashing finds none exactly when the ring has no point
of a candidate, and the ring that it walks is the one of the members at hand, however old
the ring is that it keeps.
-/

namespace ServiceMesh

/-! ## Weights on a line -/

namespace WeightTable

private theorem getLast?_sums (start : Nat) (ns : List Nat) :
    (sums start ns).getLast?.getD start = start + ns.sum := by
  induction ns generalizing start with
  | nil => rfl
  | cons n rest ih =>
    rw [sums, List.getLast?_cons, Option.getD_some, ih, List.sum_cons, Nat.add_assoc]

theorem total_ofCandidates (cs : List Candidate) :
    (ofCandidates cs).total = (cs.map Candidate.share).sum := by
  rw [total, ofCandidates, getLast?_sums, Nat.zero_add]

/-- Each candidate takes up a place on the line. -/
theorem total_pos {cs : List Candidate} (h : cs ≠ []) : 0 < (ofCandidates cs).total := by
  obtain ⟨c, rest, rfl⟩ := List.exists_cons_of_ne_nil h
  have one : 1 ≤ c.share := Nat.le_max_right _ _
  rw [total_ofCandidates, List.map_cons, List.sum_cons]
  omega

/-- A position before the end of the line is passed by fewer ends than there are. -/
theorem length_takeWhile_sums {start position : Nat} {ns : List Nat} (reached : start ≤ position)
    (before : position < start + ns.sum) :
    ((sums start ns).takeWhile (· ≤ position)).length < ns.length := by
  induction ns generalizing start with
  | nil =>
    rw [List.sum_nil] at before
    omega
  | cons n rest ih =>
    rw [sums, List.takeWhile_cons]
    by_cases passed : start + n ≤ position
    · have later := ih passed (by rw [List.sum_cons] at before; omega)
      simpa [passed] using later
    · simp [passed]

theorem owner?_in_range {cs : List Candidate} {position : Nat}
    (h : position < (ofCandidates cs).total) :
    ∃ i < cs.length, (ofCandidates cs).owner? position = some i := by
  have before : position < 0 + (cs.map Candidate.share).sum := by
    rw [total_ofCandidates] at h
    omega
  refine ⟨_, ?_, if_pos h⟩
  simpa [ofCandidates] using length_takeWhile_sums (Nat.zero_le position) before

end WeightTable

namespace Selector

variable {cs : List Candidate}

/-! ## Choices without a ring -/

private theorem lt_of_mem_zipIdx {x : Candidate × Nat} (h : x ∈ cs.zipIdx) : x.2 < cs.length := by
  obtain ⟨c, i⟩ := x
  have found := List.mk_mem_zipIdx_iff_getElem?.mp h
  exact (List.getElem?_eq_some_iff.mp found).1

/-- The first of the least elements of a part of the candidates is one of them. -/
theorem firstLeast?_in_range (before : Candidate × Nat → Candidate × Nat → Bool)
    {pool : List (Candidate × Nat)} (part : ∀ x ∈ pool, x ∈ cs.zipIdx) (h : pool ≠ []) :
    ∃ i < cs.length, (firstLeast? before pool).map (·.2) = some i := by
  have found : (firstLeast? before pool).isSome = true := firstLeast?_isSome h
  obtain ⟨x, hx⟩ := Option.isSome_iff_exists.mp found
  exact ⟨x.2, lt_of_mem_zipIdx (part x (firstLeast?_mem hx)), by rw [hx]; rfl⟩

private theorem zipIdx_ne_nil (h : cs ≠ []) : cs.zipIdx ≠ [] := by
  rw [← List.length_pos_iff, List.length_zipIdx]
  exact List.length_pos_iff.mpr h

theorem leastLoaded?_in_range (h : cs ≠ []) : ∃ i < cs.length, leastLoaded? cs = some i :=
  firstLeast?_in_range lighter (fun _ hx => hx) (zipIdx_ne_nil h)

/-- The pool is never empty, for without acceptable candidates it holds all of them. -/
theorem fastest?_in_range (rate : Float) (h : cs ≠ []) :
    ∃ i < cs.length, fastest? rate cs = some i := by
  unfold fastest?
  by_cases nobody : (cs.zipIdx.filter fun c => rate ≤ c.1.load.successRate).isEmpty = true
  · simp only [nobody, if_true]
    exact firstLeast?_in_range faster (fun _ hx => hx) (zipIdx_ne_nil h)
  · simp only [nobody]
    refine firstLeast?_in_range faster (fun _ hx => List.mem_of_mem_filter hx) ?_
    simpa using nobody

private theorem drawn?_in_range (weighted : Bool) (draw : UInt64) (h : cs ≠ []) :
    ∃ i < cs.length, drawn? weighted draw cs = some i := by
  have nonempty : ¬cs.isEmpty = true := by simpa using h
  unfold drawn?
  rw [if_neg nonempty]
  cases weighted with
  | false => exact ⟨_, Nat.mod_lt _ (List.length_pos_iff.mpr h), rfl⟩
  | true => exact WeightTable.owner?_in_range (Nat.mod_lt _ (WeightTable.total_pos h))

/-- The algorithm that a selector is the state of. -/
def algorithm : Selector → Algorithm
  | roundRobin _ => .roundRobin
  | leastConnections => .leastConnections
  | weightedRoundRobin _ => .weightedRoundRobin
  | performanceBased _ => .performanceBased
  | random _ => .random
  | consistentHash _ _ => .consistentHash

/-- Without a ring, some position in the list of candidates is always chosen. -/
theorem choose_in_range {s : Selector} (ringless : s.algorithm ≠ .consistentHash) (h : cs ≠ [])
    (request : Request) (draw : UInt64) :
    ∃ i < cs.length, (s.choose cs request draw).1 = some i := by
  have nonempty : ¬cs.isEmpty = true := by simpa using h
  cases s with
  | roundRobin cursor =>
    rw [choose, if_neg nonempty]
    exact ⟨_, Nat.mod_lt _ (List.length_pos_iff.mpr h), rfl⟩
  | leastConnections => exact leastLoaded?_in_range h
  | weightedRoundRobin cursor =>
    have pos := WeightTable.total_pos h
    simp only [choose, if_neg (Nat.ne_of_gt pos)]
    exact WeightTable.owner?_in_range (Nat.mod_lt _ pos)
  | performanceBased rate => exact fastest?_in_range rate h
  | random weighted => exact drawn?_in_range weighted draw h
  | consistentHash replicas ring => exact absurd rfl ringless

/-! ## Choices on a ring -/

theorem position?_eq_none_iff {id : String} :
    position? cs id = none ↔ ∀ c ∈ cs, c.id ≠ id := by
  have same : (cs.zipIdx.filter (·.1.id == id)) = [] ↔ ∀ c ∈ cs, c.id ≠ id := by
    rw [List.filter_eq_nil_iff]
    constructor
    · intro absent c hc
      obtain ⟨i, hi⟩ := List.mem_iff_getElem?.mp hc
      simpa using absent (c, i) (List.mk_mem_zipIdx_iff_getElem?.mpr hi)
    · rintro absent ⟨c, i⟩ hx
      have member := List.mem_of_getElem? (List.mk_mem_zipIdx_iff_getElem?.mp hx)
      simpa using absent c member
  rw [position?, Option.map_eq_none_iff, List.getLast?_eq_none_iff, same]

private theorem position?_lt {id : String} {i : Nat} (h : position? cs id = some i) :
    i < cs.length := by
  obtain ⟨x, hx, rfl⟩ := Option.map_eq_some_iff.mp h
  exact lt_of_mem_zipIdx (List.mem_of_mem_filter (List.mem_of_getLast? hx))

/-- A walk begins somewhere and comes past every point. -/
theorem mem_walk_iff {ring : Ring} {key : UInt64} {id : String} :
    id ∈ ring.walk key ↔ ∃ p ∈ ring.points, p.2 = id := by
  simp only [Ring.walk, List.mem_map, List.mem_append, List.mem_filter, decide_eq_true_iff]
  constructor
  · rintro ⟨p, ⟨member, -⟩ | ⟨member, -⟩, rfl⟩
    · exact ⟨p, member, rfl⟩
    · exact ⟨p, member, rfl⟩
  · rintro ⟨p, member, rfl⟩
    rcases UInt64.le_or_lt key p.1 with ahead | before
    · exact ⟨p, .inl ⟨member, ahead⟩, rfl⟩
    · exact ⟨p, .inr ⟨member, before⟩, rfl⟩

theorem firstOnRing?_eq_none_iff {ring : Ring} {key : UInt64} :
    firstOnRing? ring key cs = none ↔ ∀ c ∈ cs, ∀ p ∈ ring.points, p.2 ≠ c.id := by
  rw [firstOnRing?, List.findSome?_eq_none_iff]
  constructor
  · intro absent c hc p hp same
    exact position?_eq_none_iff.mp (absent _ (mem_walk_iff.mpr ⟨p, hp, rfl⟩)) c hc same.symm
  · intro unowned id hid
    obtain ⟨p, hp, rfl⟩ := mem_walk_iff.mp hid
    exact position?_eq_none_iff.mpr fun c hc same => unowned c hc p hp same.symm

theorem firstOnRing?_lt {ring : Ring} {key : UInt64} {i : Nat}
    (h : firstOnRing? ring key cs = some i) : i < cs.length := by
  obtain ⟨id, -, found⟩ := List.exists_of_findSome?_eq_some h
  exact position?_lt found

/-! ## Selectors and configurations -/

/-- A selector has the algorithm and the number of points that a configuration asks for,
and the ring that it keeps is the ring of some list of members. -/
structure Suits (s : Selector) (c : BalancerConfig) : Prop where
  algorithm : s.algorithm = c.algorithm
  ring : ∀ replicas ring, s = consistentHash replicas ring →
    replicas = c.hashReplicas ∧ ring = Ring.build ring.members replicas

/-- A ring that has not been used yet is the ring of no members. -/
theorem build_nil (replicas : UInt32) : Ring.build [] replicas = {} := by
  simp [Ring.build, Ring.keepLatest]

theorem suits_ofConfig (c : BalancerConfig) : (ofConfig c).Suits c := by
  unfold ofConfig
  cases h : c.algorithm with
  | consistentHash =>
    refine ⟨h.symm, ?_⟩
    rintro replicas ring ⟨⟩
    exact ⟨rfl, (build_nil _).symm⟩
  | _ => exact ⟨h.symm, fun _ _ wrong => nomatch wrong⟩

namespace Suits

variable {s : Selector} {c : BalancerConfig}

/-- A configuration that does not outdate a selector asks for the same one. -/
theorem of_current {new : BalancerConfig} (h : s.Suits c) (current : outdated c new = false) :
    s.Suits new := by
  simp only [outdated, Bool.or_eq_false_iff, bne_eq_false_iff_eq] at current
  obtain ⟨⟨⟨algorithm, replicas⟩, -⟩, -⟩ := current
  exact ⟨h.algorithm.trans algorithm, fun n ring hs => replicas ▸ h.ring n ring hs⟩

/-- The ring for a list of members does not depend on the ring that is kept. -/
theorem ringFor_eq {replicas : UInt32} {ring : Ring} (members : List String)
    (built : ring = Ring.build ring.members replicas) :
    ringFor replicas ring members = Ring.build members replicas := by
  unfold ringFor
  split
  case isTrue same => rw [built, same]
  case isFalse => rfl

theorem choose (h : s.Suits c) (cs : List Candidate) (request : Request) (draw : UInt64) :
    (s.choose cs request draw).2.Suits c := by
  cases s with
  | roundRobin cursor =>
    simp only [Selector.choose]
    split
    · exact h
    · exact ⟨h.algorithm, fun _ _ wrong => nomatch wrong⟩
  | weightedRoundRobin cursor =>
    simp only [Selector.choose]
    split
    · exact h
    · exact ⟨h.algorithm, fun _ _ wrong => nomatch wrong⟩
  | consistentHash replicas ring =>
    obtain ⟨count, built⟩ := h.ring replicas ring rfl
    simp only [Selector.choose]
    split
    · exact h
    · refine ⟨h.algorithm, ?_⟩
      rintro _ _ ⟨⟩
      rw [ringFor_eq _ built]
      exact ⟨count, rfl⟩
  | leastConnections => exact h
  | performanceBased rate => exact h
  | random weighted => exact h

/-- Consistent hashing chooses by the ring of the members at hand. -/
theorem choose_on_ring (h : s.Suits c) (hashing : c.algorithm = .consistentHash)
    (nonempty : cs ≠ []) {request : Request} (members : request.members ≠ []) (draw : UInt64) :
    ∃ key, (s.choose cs request draw).1 =
      firstOnRing? (Ring.build request.members c.hashReplicas) key cs := by
  cases s with
  | consistentHash replicas ring =>
    obtain ⟨rfl, built⟩ := h.ring replicas ring rfl
    have nonempty : ¬cs.isEmpty = true := by simpa using nonempty
    have members : ¬request.members.isEmpty = true := by simpa using members
    simp only [Selector.choose, if_neg nonempty, if_neg members, ringFor_eq _ built]
    exact ⟨_, rfl⟩
  | _ => exact absurd (h.algorithm.trans hashing) nofun

/-- After a choice by consistent hashing the ring of the members at hand is kept. -/
theorem ring_of_choose (h : s.Suits c) (hashing : c.algorithm = .consistentHash)
    (nonempty : cs ≠ []) {request : Request} (members : request.members ≠ []) (draw : UInt64) :
    (s.choose cs request draw).2 =
      .consistentHash c.hashReplicas (Ring.build request.members c.hashReplicas) := by
  cases s with
  | consistentHash replicas ring =>
    obtain ⟨rfl, built⟩ := h.ring replicas ring rfl
    have nonempty : ¬cs.isEmpty = true := by simpa using nonempty
    have members : ¬request.members.isEmpty = true := by simpa using members
    simp only [Selector.choose, if_neg nonempty, if_neg members, ringFor_eq _ built]
  | _ => exact absurd (h.algorithm.trans hashing) nofun

end Suits

end Selector

end ServiceMesh
