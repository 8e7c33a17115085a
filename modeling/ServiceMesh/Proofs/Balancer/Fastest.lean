import Mathlib.Data.List.Pairwise
import ServiceMesh.Proofs.Balancer.Desk
import ServiceMesh.Proofs.Decimal.Order

/-!
# The fastest candidate

The candidates that succeed often enough compete with each other, or all candidates do if there are
none of them. The competitors stand in line by their smoothed response time, then by how often they
were selected, then by their position, so one of them is in front of all the others, and that one
is chosen. The position only matters between candidates that agree in everything else.
-/

namespace ServiceMesh

namespace Candidate

/-- The smoothed response time. A candidate without reports counts as answering at once. -/
def smoothed (c : Candidate) : Float := c.load.averageMs.getD 0.0

/-- A candidate succeeds often enough. -/
def Acceptable (rate : Float) (c : Candidate) : Prop := rate ≤ c.load.successRate

instance (rate : Float) (c : Candidate) : Decidable (c.Acceptable rate) :=
  inferInstanceAs (Decidable (rate ≤ c.load.successRate))

/-- A candidate may be chosen among others: it is acceptable, or none of the others is. -/
def Competes (rate : Float) (cs : List Candidate) (c : Candidate) : Prop :=
  c.Acceptable rate ∨ ∀ d ∈ cs, ¬ d.Acceptable rate

/-- The line of candidates at their positions. -/
inductive Ahead (x y : Candidate × Nat) : Prop
  | faster (time : Decimal.Below x.1.smoothed y.1.smoothed)
  | rested (time : x.1.smoothed = y.1.smoothed) (total : x.1.load.total < y.1.load.total)
  | earlier (time : x.1.smoothed = y.1.smoothed) (total : x.1.load.total = y.1.load.total)
      (place : x.2 < y.2)

/-- The competitor at a position is ahead of all the others. -/
def Leads (rate : Float) (cs : List Candidate) (i : Nat) : Prop :=
  ∃ c, cs[i]? = some c ∧ c.Competes rate cs ∧
    ∀ j d, j ≠ i → cs[j]? = some d → d.Competes rate cs → Ahead (c, i) (d, j)

variable {rate : Float} {cs : List Candidate} {x y : Candidate × Nat} {c d : Candidate} {i j : Nat}

/-- The line of candidates in numbers. -/
theorem ahead_iff : Ahead x y ↔
    Decimal.orderKey x.1.smoothed < Decimal.orderKey y.1.smoothed ∨
      Decimal.orderKey x.1.smoothed = Decimal.orderKey y.1.smoothed ∧
        (x.1.load.total < y.1.load.total ∨ x.1.load.total = y.1.load.total ∧ x.2 < y.2) := by
  rw [Decimal.orderKey_lt_iff, Decimal.orderKey_inj]
  constructor
  · intro ahead
    cases ahead with
    | faster time => exact .inl time
    | rested time total => exact .inr ⟨time, .inl total⟩
    | earlier time total place => exact .inr ⟨time, .inr ⟨total, place⟩⟩
  · rintro (time | ⟨time, total | ⟨total, place⟩⟩)
    exacts [.faster time, .rested time total, .earlier time total place]

/-- Of two candidates only one is ahead. -/
theorem Ahead.asymm (ahead : Ahead x y) : ¬ Ahead y x := by
  rw [ahead_iff] at ahead ⊢
  omega

/-- The place is of no account for candidates that differ in anything else. -/
theorem Ahead.place_irrelevant {i' j' : Nat}
    (differ : c.smoothed ≠ d.smoothed ∨ c.load.total ≠ d.load.total)
    (ahead : Ahead (c, i) (d, j)) : Ahead (c, i') (d, j') := by
  cases ahead with
  | faster time => exact .faster time
  | rested time total => exact .rested time total
  | earlier time total => exact absurd total (differ.resolve_left (absurd time))

theorem Leads.unique (one : Leads rate cs i) (other : Leads rate cs j) : i = j := by
  obtain ⟨c, atI, competes, leads⟩ := one
  obtain ⟨d, atJ, competes', leads'⟩ := other
  by_contra differ
  have first := leads j d (Ne.symm differ) atJ competes'
  exact first.asymm (leads' i c differ atI competes)

end Candidate

namespace Selector

open Candidate

variable {rate : Float} {cs cs' : List Candidate} {x y : Candidate × Nat} {i : Nat}

theorem faster_iff : faster x y = true ↔
    Decimal.orderKey x.1.smoothed < Decimal.orderKey y.1.smoothed ∨
      Decimal.orderKey x.1.smoothed = Decimal.orderKey y.1.smoothed ∧
        x.1.load.total < y.1.load.total := by
  simp [faster, smoothed]

theorem faster_eq_false_iff : faster x y = false ↔
    Decimal.orderKey y.1.smoothed ≤ Decimal.orderKey x.1.smoothed ∧
      (Decimal.orderKey x.1.smoothed = Decimal.orderKey y.1.smoothed →
        y.1.load.total ≤ x.1.load.total) := by
  rw [Bool.eq_false_iff, Ne, faster_iff]
  omega

/-- The first of the fastest in a list that goes up in positions is ahead of the others. -/
theorem ahead_of_firstLeast? {pool : List (Candidate × Nat)} (rising : pool.Pairwise (·.2 < ·.2))
    (least : firstLeast? faster pool = some x) : ∀ y ∈ pool, y ≠ x → Ahead x y := by
  have slower : ∀ y ∈ pool, faster y x = false := by
    refine not_before_firstLeast? (fun x y => ?_) (fun x y z => ?_) least
    · rw [faster_iff, faster_eq_false_iff]
      omega
    · simp only [faster_eq_false_iff]
      omega
  intro y mem other
  have late := faster_eq_false_iff.mp (slower y mem)
  obtain ⟨before, after, rfl, above⟩ := firstLeast?_split least
  rw [List.pairwise_append, List.pairwise_cons] at rising
  rw [ahead_iff]
  rcases List.mem_append.mp mem with front | back
  · have ahead := faster_iff.mp (above y front)
    omega
  · have behind : x.2 < y.2 := by
      apply rising.2.1.1
      exact (List.mem_cons.mp back).resolve_left other
    omega

/-- The candidates that compete, at their positions. -/
def pool (rate : Float) (cs : List Candidate) : List (Candidate × Nat) :=
  let acceptable := cs.zipIdx.filter fun c => rate ≤ c.1.load.successRate
  if acceptable.isEmpty then cs.zipIdx else acceptable

theorem mem_pool_iff : x ∈ pool rate cs ↔ cs[x.2]? = some x.1 ∧ x.1.Competes rate cs := by
  have nobody_iff : (cs.zipIdx.filter fun c => rate ≤ c.1.load.successRate).isEmpty ↔
      ∀ d ∈ cs, ¬ d.Acceptable rate := by
    rw [List.isEmpty_iff, List.filter_eq_nil_iff]
    constructor
    · intro nobody d listed acceptable
      obtain ⟨j, there⟩ := List.mem_iff_getElem?.mp listed
      exact nobody (d, j) (List.mk_mem_zipIdx_iff_getElem?.mpr there) (decide_eq_true acceptable)
    · intro nobody y listed acceptable
      exact nobody y.1 (List.fst_mem_of_mem_zipIdx listed) (of_decide_eq_true acceptable)
  rw [← List.mem_zipIdx_iff_getElem?, pool]
  by_cases nobody : (cs.zipIdx.filter fun c => rate ≤ c.1.load.successRate).isEmpty
  · rw [if_pos nobody]
    exact ⟨fun listed => ⟨listed, .inr (nobody_iff.mp nobody)⟩, And.left⟩
  · rw [if_neg nobody, List.mem_filter, decide_eq_true_iff]
    refine and_congr_right fun _ => ⟨.inl, fun rival => ?_⟩
    exact rival.resolve_right (mt nobody_iff.mpr nobody)

theorem pairwise_pool (rate : Float) (cs : List Candidate) :
    (pool rate cs).Pairwise (·.2 < ·.2) := by
  have all : cs.zipIdx.Pairwise (·.2 < ·.2) := by
    rw [← List.pairwise_map, List.zipIdx_map_snd]
    exact List.pairwise_lt_range'
  rw [pool]
  split
  · exact all
  · exact all.filter _

theorem leads_of_fastest? (chosen : fastest? rate cs = some i) : Leads rate cs i := by
  obtain ⟨⟨c, i⟩, least, rfl⟩ : ∃ x, firstLeast? faster (pool rate cs) = some x ∧ x.2 = i :=
    Option.map_eq_some_iff.mp chosen
  obtain ⟨found, competes⟩ := mem_pool_iff.mp (firstLeast?_mem least)
  refine ⟨c, found, competes, fun j d other there rival => ?_⟩
  have pooled : (d, j) ∈ pool rate cs := mem_pool_iff.mpr ⟨there, rival⟩
  refine ahead_of_firstLeast? (pairwise_pool rate cs) least (d, j) pooled ?_
  rintro ⟨⟩
  exact other rfl

/-- The candidate in front of its competitors is the fastest one. -/
theorem fastest?_eq_some_iff (offers : cs ≠ []) : fastest? rate cs = .some i ↔ Leads rate cs i := by
  refine ⟨leads_of_fastest?, fun leads => ?_⟩
  obtain ⟨j, -, chosen⟩ := fastest?_in_range rate offers
  rw [chosen, (leads_of_fastest? chosen).unique leads]

/-- Candidates at different positions differ, if all do pairwise. -/
theorem differ_at {c d : Candidate} {j : Nat}
    (differ : cs.Pairwise fun c d => c.smoothed ≠ d.smoothed ∨ c.load.total ≠ d.load.total)
    (atI : cs[i]? = some c) (atJ : cs[j]? = some d) (other : i ≠ j) :
    c.smoothed ≠ d.smoothed ∨ c.load.total ≠ d.load.total := by
  obtain ⟨inside, rfl⟩ := List.getElem?_eq_some_iff.mp atI
  obtain ⟨inside', rfl⟩ := List.getElem?_eq_some_iff.mp atJ
  rw [List.pairwise_iff_getElem] at differ
  rcases Nat.lt_or_gt_of_ne other with before | after
  · exact differ i j inside inside' before
  · exact (differ j i inside' inside after).imp Ne.symm Ne.symm

/-- In another order of the candidates the same one leads, if no two of them agree in both the
time and the number of selections. -/
theorem getElem?_of_leads_perm {i' : Nat} (reordered : cs'.Perm cs)
    (differ : cs.Pairwise fun c d => c.smoothed ≠ d.smoothed ∨ c.load.total ≠ d.load.total)
    (leads : Leads rate cs i) (leads' : Leads rate cs' i') : cs'[i']? = cs[i]? := by
  obtain ⟨c, atI, competes, ahead⟩ := leads
  obtain ⟨c', atI', competes', ahead'⟩ := leads'
  rw [atI, atI']
  have rivals (d : Candidate) : d.Competes rate cs' ↔ d.Competes rate cs := by
    simp only [Competes, reordered.mem_iff]
  obtain ⟨j, atJ⟩ := List.mem_iff_getElem?.mp (reordered.mem_iff.mp (List.mem_of_getElem? atI'))
  obtain ⟨j', atJ'⟩ := List.mem_iff_getElem?.mp (reordered.mem_iff.mpr (List.mem_of_getElem? atI))
  by_contra other
  have elsewhere : j ≠ i := fun same => other (atJ.symm.trans (same ▸ atI))
  have elsewhere' : j' ≠ i' := fun same => other (atI'.symm.trans (same ▸ atJ'))
  have first := ahead j c' elsewhere atJ ((rivals c').mp competes')
  have second := ahead' j' c elsewhere' atJ' ((rivals c).mpr competes)
  have apart := differ_at differ atI atJ (Ne.symm elsewhere)
  exact (first.place_irrelevant apart).asymm second

/-- The least acceptable candidate is chosen. Whatever the loads are, exactly one competitor is
ahead of all the others, and that one is chosen for every request. So an acceptable candidate that
was never reported on is ahead of every acceptable one with a positive time, which is not chosen as
long as it is there, and another order of candidates that differ in the time or in the number of
selections changes the position that is chosen but not the candidate. -/
theorem performanceBased_exact (rate : Float) (offers : cs ≠ []) (request : Request)
    (draw : UInt64) :
    (∃! i, Leads rate cs i) ∧
      (∀ i, (performanceBased rate).choose cs request draw = (.some i, performanceBased rate) ↔
        Leads rate cs i) ∧
      (∀ (i j : Nat) (c d : Candidate) (ms : Float), cs[i]? = .some c → cs[j]? = .some d →
        c.Acceptable rate → d.Acceptable rate → c.load.averageMs = none →
        d.load.averageMs = .some ms → 0.0 < ms → Ahead (c, i) (d, j) ∧ ¬ Leads rate cs j) ∧
      ∀ cs' : List Candidate, cs'.Perm cs →
        (cs.Pairwise fun c d => c.smoothed ≠ d.smoothed ∨ c.load.total ≠ d.load.total) →
        ∃ i i', ((performanceBased rate).choose cs request draw).1 = .some i ∧
          ((performanceBased rate).choose cs' request draw).1 = .some i' ∧
          cs'[i']? = cs[i]? := by
  obtain ⟨first, -, chosen⟩ := fastest?_in_range rate offers
  refine ⟨⟨first, leads_of_fastest? chosen, fun i leads => leads.unique (leads_of_fastest? chosen)⟩,
    fun i => ?_, ?_, ?_⟩
  · rw [← fastest?_eq_some_iff offers, choose, Prod.mk.injEq, and_iff_left rfl]
  · intro i j c d ms atI atJ acceptable acceptable' silent reported positive
    have ahead : Ahead (c, i) (d, j) := by
      apply Ahead.faster
      simp only [smoothed, silent, reported, Option.getD_none, Option.getD_some]
      exact Decimal.below_of_lt positive
    refine ⟨ahead, ?_⟩
    rintro ⟨d', atJ', -, leads⟩
    cases atJ.symm.trans atJ'
    have apart : i ≠ j := by
      rintro rfl
      exact ahead.asymm (Option.some.inj (atI.symm.trans atJ) ▸ ahead)
    exact ahead.asymm (leads i c apart atI (.inl acceptable))
  · intro cs' reordered differ
    have offers' : cs' ≠ [] := fun empty => offers (empty ▸ reordered.symm).eq_nil
    obtain ⟨second, -, chosen'⟩ := fastest?_in_range rate offers'
    exact ⟨first, second, chosen, chosen',
      getElem?_of_leads_perm reordered differ (leads_of_fastest? chosen)
        (leads_of_fastest? chosen')⟩

/-- The first candidate fails too often, the second one is slow, and nobody has tried the third. -/
theorem performanceBased_exact_untried :
    let cs : List Candidate :=
      [{ (default : Candidate) with load := { averageMs := some 5.0, recent := [false, false] } },
        { (default : Candidate) with load := { averageMs := some 80.0, recent := [true] } },
        { (default : Candidate) with load := { selections := 7 } }]
    cs ≠ [] ∧ Leads 0.5 cs 2 ∧ ¬ Leads 0.5 cs 1 := by
  intro cs
  have offers : cs ≠ [] := List.cons_ne_nil _ _
  obtain ⟨-, chosen, untried, -⟩ := performanceBased_exact 0.5 offers {} 0
  refine ⟨offers, (chosen 2).mp (by decide +kernel), ?_⟩
  exact (untried 2 1 _ _ 80.0 rfl rfl (by decide +kernel) (by decide +kernel) rfl rfl
    (by decide +kernel)).2

end Selector

end ServiceMesh
