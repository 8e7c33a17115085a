import Mathlib.Data.List.Basic
import Mathlib.Data.List.Nodup
import ServiceMesh.Config.Check

/-!
# The rules of configurations

What is wrong with a configuration is said by rules, one for each setting that can be wrong and
three for each seed. Checking lists the broken ones, and what it accepts breaks none of them.
-/

namespace ServiceMesh

/-- The broken rules of a health check section. -/
inductive HealthConfig.Breaks (c : HealthConfig) : Problem → Prop
  | interval (zero : c.intervalMs = 0) : c.Breaks .zeroInterval
  | timeout (zero : c.timeoutMs = 0) : c.Breaks .zeroTimeout
  | failures (zero : c.maxFailures = 0) : c.Breaks .noMaxFailures
  | recovery (zero : c.recoveryChecks = 0) : c.Breaks .noRecoveryChecks

/-- The broken rules of a load balancer section. -/
inductive BalancerConfig.Breaks (c : BalancerConfig) : Problem → Prop
  | threshold (zero : c.breakerThreshold = 0) : c.Breaks .noBreakerThreshold
  | timeout (zero : c.breakerTimeoutMs = 0) : c.Breaks .zeroBreakerTimeout
  | replicas (zero : c.hashReplicas = 0) : c.Breaks .noHashReplicas
  | alpha (outside : ¬(0.0 < c.responseTimeAlpha ∧ c.responseTimeAlpha ≤ 1.0)) :
      c.Breaks .alphaOutOfRange
  | window (zero : c.successWindow = 0) : c.Breaks .noSuccessWindow
  | rate (outside : ¬(0.0 ≤ c.minSuccessRate ∧ c.minSuccessRate ≤ 1.0)) :
      c.Breaks .successRateOutOfRange

/-- The broken rules of the seed with an index that comes after seeds with some ids. -/
inductive Seed.Breaks (seed : Seed) (index : Nat) (earlier : List String) : Problem → Prop
  | name (blank : Text.isBlank seed.name = true) : seed.Breaks index earlier (.blankSeedName index)
  | id (blank : Text.isBlank seed.id = true) : seed.Breaks index earlier (.blankSeedId index)
  | twice (written : Text.isBlank seed.id = false) (again : seed.id ∈ earlier) :
      seed.Breaks index earlier (.duplicateSeedId index seed.id)
  | weight (zero : seed.weight = 0) : seed.Breaks index earlier (.zeroSeedWeight index)

/-- The broken rules of a configuration. -/
inductive Config.Breaks (c : Config) (p : Problem) : Prop
  | health (broken : c.healthCheck.Breaks p)
  | balancer (broken : c.loadBalancer.Breaks p)
  | seed {index : Nat} {seed : Seed} (there : c.services[index]? = some seed)
      (broken : seed.Breaks index ((c.services.take index).map Seed.id) p)

namespace Problem

variable {p q : Problem} {broken : Bool}

theorem mem_when_iff : p ∈ when broken q ↔ broken = true ∧ p = q := by
  cases broken <;> simp [when]

theorem accept_iff_forall_not_mem {separator : String} {ps : List Problem} :
    accept separator ps = .ok () ↔ ∀ p, p ∉ ps := by
  rw [accept_eq_ok_iff, List.eq_nil_iff_forall_not_mem]

theorem when_sublist (broken : Bool) (p : Problem) : (when broken p).Sublist [p] := by
  cases broken <;> simp [when]

end Problem

namespace HealthConfig

variable {c : HealthConfig} {p : Problem}

theorem mem_problems_iff : p ∈ c.problems ↔ c.Breaks p := by
  constructor
  · intro listed
    simp only [problems, List.mem_append, Problem.mem_when_iff, beq_iff_eq] at listed
    obtain ((⟨zero, rfl⟩ | ⟨zero, rfl⟩) | ⟨zero, rfl⟩) | ⟨zero, rfl⟩ := listed
    · exact .interval zero
    · exact .timeout zero
    · exact .failures zero
    · exact .recovery zero
  · intro broken
    cases broken with
    | interval zero | timeout zero | failures zero | recovery zero =>
      simp [problems, Problem.mem_when_iff, zero]

theorem check_eq_ok_iff : c.check = .ok () ↔ ∀ p, ¬c.Breaks p := by
  rw [check, Problem.accept_iff_forall_not_mem]
  exact forall_congr' fun p => not_congr mem_problems_iff

end HealthConfig

namespace BalancerConfig

variable {c : BalancerConfig} {p : Problem}

theorem mem_problems_iff : p ∈ c.problems ↔ c.Breaks p := by
  constructor
  · intro listed
    simp only [problems, List.mem_append, Problem.mem_when_iff, beq_iff_eq, Bool.not_eq_true',
      Bool.and_eq_false_iff, decide_eq_false_iff_not, ← not_and_or] at listed
    obtain ((((⟨zero, rfl⟩ | ⟨zero, rfl⟩) | ⟨zero, rfl⟩) | ⟨outside, rfl⟩) | ⟨zero, rfl⟩) |
      ⟨outside, rfl⟩ := listed
    · exact .threshold zero
    · exact .timeout zero
    · exact .replicas zero
    · exact .alpha outside
    · exact .window zero
    · exact .rate outside
  · intro broken
    cases broken with
    | threshold zero | timeout zero | replicas zero | window zero =>
      simp [problems, Problem.mem_when_iff, zero]
    | alpha outside | rate outside =>
      have low := not_and_or.mp outside
      simp [problems, Problem.mem_when_iff, low]

theorem check_eq_ok_iff : c.check = .ok () ↔ ∀ p, ¬c.Breaks p := by
  rw [check, Problem.accept_iff_forall_not_mem]
  exact forall_congr' fun p => not_congr mem_problems_iff

/-- The rates of an accepted load balancer section lie between zero and one. -/
theorem rates_of_check (accepted : c.check = .ok ()) :
    (0.0 < c.responseTimeAlpha ∧ c.responseTimeAlpha ≤ 1.0) ∧
      0.0 ≤ c.minSuccessRate ∧ c.minSuccessRate ≤ 1.0 := by
  have unbroken := check_eq_ok_iff.mp accepted
  exact ⟨not_not.mp (mt Breaks.alpha (unbroken _)), not_not.mp (mt Breaks.rate (unbroken _))⟩

end BalancerConfig

namespace Seed

variable {seed : Seed} {index : Nat} {earlier others : List String} {p : Problem}

theorem Breaks.congr
    (alike : Text.isBlank seed.id = false → seed.id ∈ earlier → seed.id ∈ others)
    (broken : seed.Breaks index earlier p) : seed.Breaks index others p := by
  cases broken with
  | name blank => exact .name blank
  | id blank => exact .id blank
  | twice written again => exact .twice written (alike written again)
  | weight zero => exact .weight zero

/-- The problems of one seed. -/
def problems (seed : Seed) (index : Nat) (seen : List String) : List Problem :=
  Problem.when (Text.isBlank seed.name) (.blankSeedName index) ++
  Problem.when (Text.isBlank seed.id) (.blankSeedId index) ++
  Problem.when (!Text.isBlank seed.id && seen.contains seed.id)
    (.duplicateSeedId index seed.id) ++
  Problem.when (seed.weight == 0) (.zeroSeedWeight index)

theorem mem_problems_iff : p ∈ seed.problems index earlier ↔ seed.Breaks index earlier p := by
  constructor
  · intro listed
    simp only [problems, List.mem_append, Problem.mem_when_iff, beq_iff_eq, Bool.and_eq_true,
      Bool.not_eq_true', List.contains_eq_mem, decide_eq_true_eq] at listed
    obtain ((⟨blank, rfl⟩ | ⟨blank, rfl⟩) | ⟨⟨written, again⟩, rfl⟩) | ⟨zero, rfl⟩ := listed
    · exact .name blank
    · exact .id blank
    · exact .twice written again
    · exact .weight zero
  · intro broken
    cases broken with
    | name blank | id blank => simp [problems, Problem.mem_when_iff, blank]
    | twice written again => simp [problems, Problem.mem_when_iff, written, again]
    | weight zero => simp [problems, Problem.mem_when_iff, zero]

end Seed

theorem seedProblems_cons (seen : List String) (start : Nat) (first : Seed) (rest : List Seed) :
    seedProblems seen start (first :: rest) =
      first.problems start seen ++
        seedProblems (if Text.isBlank first.id then seen else first.id :: seen) (start + 1) rest :=
  rfl

/-- A seed is compared with the ids of all seeds before it. Blank ids are not noted, but an id that
is compared is not blank. -/
theorem mem_seedProblems_iff {seen : List String} {start : Nat} {seeds : List Seed} {p : Problem} :
    p ∈ seedProblems seen start seeds ↔
      ∃ (i : Nat) (seed : Seed), seeds[i]? = some seed ∧
        seed.Breaks (start + i) (seen ++ (seeds.take i).map Seed.id) p := by
  induction seeds generalizing seen start with
  | nil => simp [seedProblems]
  | cons first rest ih =>
    rw [seedProblems_cons, List.mem_append, Seed.mem_problems_iff, ih]
    -- for a seed behind the first one it is the same whether the first id counts as seen or earlier
    have noted (seed : Seed) (earlier : List String) (written : Text.isBlank seed.id = false) :
        (seed.id ∈ (if Text.isBlank first.id then seen else first.id :: seen) ++ earlier ↔
          seed.id ∈ seen ++ first.id :: earlier) := by
      cases blank : Text.isBlank first.id with
      | true =>
        have differ : seed.id ≠ first.id := by
          intro same
          rw [same, blank] at written
          cases written
        simp [differ]
      | false => simp [or_left_comm]
    constructor
    · rintro (broken | ⟨i, seed, there, broken⟩)
      · exact ⟨0, first, rfl, by simpa using broken⟩
      · refine ⟨i + 1, seed, there, ?_⟩
        have place : start + (i + 1) = start + 1 + i := by omega
        rw [place]
        exact broken.congr fun written => (noted seed _ written).mp
    · rintro ⟨i, seed, there, broken⟩
      cases i with
      | zero =>
        cases there
        exact .inl (by simpa using broken)
      | succ i =>
        have place : start + (i + 1) = start + 1 + i := by omega
        rw [place] at broken
        exact .inr ⟨i, seed, there, broken.congr fun written => (noted seed _ written).mpr⟩

namespace Config

variable {c : Config} {p : Problem}

/-- A problem is listed exactly if its rule is broken. -/
theorem mem_problems_iff : p ∈ c.problems ↔ c.Breaks p := by
  simp only [problems, List.mem_append, HealthConfig.mem_problems_iff,
    BalancerConfig.mem_problems_iff, mem_seedProblems_iff, Nat.zero_add, List.nil_append]
  constructor
  · rintro ((broken | broken) | ⟨i, seed, there, broken⟩)
    · exact .health broken
    · exact .balancer broken
    · exact .seed there broken
  · intro broken
    cases broken with
    | health broken => exact .inl (.inl broken)
    | balancer broken => exact .inl (.inr broken)
    | seed there broken => exact .inr ⟨_, _, there, broken⟩

theorem check_eq_ok_iff : c.check = .ok () ↔ ∀ p, ¬c.Breaks p := by
  rw [check, Problem.accept_iff_forall_not_mem]
  exact forall_congr' fun p => not_congr mem_problems_iff

/-- The sections of an accepted configuration are accepted on their own. -/
theorem sections_of_check (accepted : c.check = .ok ()) :
    c.healthCheck.check = .ok () ∧ c.loadBalancer.check = .ok () := by
  have unbroken := check_eq_ok_iff.mp accepted
  exact ⟨HealthConfig.check_eq_ok_iff.mpr fun p broken => unbroken p (.health broken),
    BalancerConfig.check_eq_ok_iff.mpr fun p broken => unbroken p (.balancer broken)⟩

/-- The seeds of an accepted configuration have names, ids and weights, and no id is there
twice. -/
theorem seeds_of_check (accepted : c.check = .ok ()) :
    (∀ seed ∈ c.services, Text.isBlank seed.name = false ∧ Text.isBlank seed.id = false ∧
      seed.weight ≠ 0) ∧ (c.services.map Seed.id).Nodup := by
  have unbroken {index : Nat} {seed : Seed} (there : c.services[index]? = some seed) (p : Problem) :
      ¬seed.Breaks index ((c.services.take index).map Seed.id) p :=
    fun broken => check_eq_ok_iff.mp accepted p (.seed there broken)
  have written {index : Nat} {seed : Seed} (there : c.services[index]? = some seed) :
      Text.isBlank seed.id = false :=
    Bool.eq_false_iff.mpr fun blank => unbroken there _ (.id blank)
  constructor
  · intro seed mem
    obtain ⟨index, there⟩ := List.mem_iff_getElem?.mp mem
    exact ⟨Bool.eq_false_iff.mpr fun blank => unbroken there _ (.name blank), written there,
      fun zero => unbroken there _ (.weight zero)⟩
  · rw [List.Nodup, List.pairwise_map, List.pairwise_iff_getElem]
    intro i j inside inside' before same
    have there : c.services[j]? = some c.services[j] := List.getElem?_eq_getElem inside'
    have again : c.services[j].id ∈ (c.services.take j).map Seed.id := by
      have early : c.services[i] ∈ c.services.take j := List.mem_take_iff_getElem.mpr
        ⟨i, by omega, rfl⟩
      exact same ▸ List.mem_map_of_mem early
    exact unbroken there _ (.twice (written there) again)

end Config

end ServiceMesh
