import Mathlib.Algebra.Order.BigOperators.Group.List
import Mathlib.Data.List.Induction
import Mathlib.Tactic.Ring
import ServiceMesh.Health.History

/-!
# Summaries of checks

A summary covers the latest checks that were added to a history. The times of those that answered
are added up and divided by their number. A history is short and a time takes at most as many
milliseconds as 64 bits hold, so the sum stays in the range of durations, and the mean is the exact
quotient rounded down to the nanosecond.
-/

namespace ServiceMesh

/-- Division of a number of two digits: what is left over of the first digit is handed down to the
second one. -/
theorem div_mod_eq (q : Nat) {n base : Nat} (pos : 0 < n) (second : 0 < base) :
    q / n % base = q % base / n + (q / base % n * base + q % base % n) / n := by
  have digits := Nat.div_add_mod q base
  have first := Nat.div_add_mod (q / base) n
  have last := Nat.div_add_mod (q % base) n
  have less := Nat.mod_lt q second
  have left := Nat.mod_lt (q / base) pos
  generalize q / base / n = a at *
  generalize q / base % n = b at *
  generalize q % base / n = c at *
  generalize q % base % n = e at *
  have whole : q = b * base + e + n * (base * a + c) := by
    rw [← digits, ← first, ← last]
    ring
  have few : c + (b * base + e) / n < base := by
    have handed : (b * base + e) / n * n ≤ b * base + e := Nat.div_mul_le_self _ _
    have room : (b + 1) * base ≤ n * base := Nat.mul_le_mul_right base left
    refine Nat.lt_of_mul_lt_mul_right (a := n) ?_
    calc (c + (b * base + e) / n) * n = n * c + (b * base + e) / n * n := by ring
      _ ≤ n * c + (b * base + e) := Nat.add_le_add_left handed _
      _ < (b + 1) * base := by rw [Nat.succ_mul]; omega
      _ ≤ base * n := by rwa [Nat.mul_comm base]
  rw [whole, Nat.add_mul_div_left _ _ pos, Nat.add_comm, Nat.add_assoc, Nat.mul_add_mod,
    Nat.mod_eq_of_lt few]

namespace Duration

variable {d : Duration} {times : List Duration} {n : Nat}

theorem nanoseconds_share (d : Duration) (pos : 0 < n) :
    (d.share n).nanoseconds = d.nanoseconds / n := by
  have inside := d.inRange
  have less : d.nanoseconds / n ≤ d.nanoseconds := Nat.div_le_self _ _
  rw [share, if_neg (by omega), nanoseconds_clamp_of_lt (by omega)]

/-- A share in seconds and nanoseconds: both parts are divided, and the seconds that are left over
are handed down to the nanoseconds. -/
theorem parts_share (d : Duration) (pos : 0 < n) :
    (d.share n).secs = d.secs / n ∧
      (d.share n).subsecond =
        d.subsecond / n + (d.secs % n * perSecond + d.subsecond % n) / n := by
  simp only [secs, subsecond, nanoseconds_share d pos]
  have second : 0 < perSecond := by decide
  constructor
  · rw [Nat.div_div_eq_div_mul, Nat.div_div_eq_div_mul, Nat.mul_comm]
  · exact div_mod_eq d.nanoseconds pos second

/-- Sums whose exact value is a duration are exact. -/
theorem nanoseconds_foldl_add (start : Duration)
    (short : start.nanoseconds + (times.map nanoseconds).sum <
      18_446_744_073_709_551_616 * 1_000_000_000) :
    (times.foldl (· + ·) start).nanoseconds =
      start.nanoseconds + (times.map nanoseconds).sum := by
  induction times generalizing start with
  | nil => simp
  | cons first rest ih =>
    simp only [List.map_cons, List.sum_cons] at short
    have reached : (start + first).nanoseconds = start.nanoseconds + first.nanoseconds := by
      rw [nanoseconds_add]
      omega
    rw [List.foldl_cons, ih (start + first) (by omega), reached, List.map_cons, List.sum_cons]
    omega

end Duration

namespace History

/-- A history holds the latest of the checks that were added to it. -/
theorem checks_foldl_push (checks : List Check) :
    (checks.foldl push {}).checks = checks.drop (checks.length - capacity) := by
  induction checks using List.reverseRecOn with
  | nil => rfl
  | append_singleton checks k ih =>
    rw [List.foldl_concat, push, ih, List.length_append, List.length_singleton, List.length_drop]
    by_cases full : capacity ≤ checks.length
    · have kept : checks.length - (checks.length - capacity) = capacity := by omega
      have start : checks.length + 1 - capacity = checks.length - capacity + 1 := by omega
      have inside : checks.length - capacity + 1 ≤ checks.length := by
        rw [capacity] at full ⊢
        omega
      rw [if_pos kept, List.drop_drop, start, List.drop_append_of_le_length inside]
    · have short : checks.length - (checks.length - capacity) ≠ capacity := by omega
      have all : checks.length - capacity = 0 := by omega
      have start : checks.length + 1 - capacity = 0 := by omega
      rw [if_neg short, all, start, List.drop_zero, List.drop_zero]

/-! ## The mean of times -/

section Mean

variable {times : List Duration}

theorem mean_eq_none_iff : mean times = none ↔ times = [] := by
  cases times <;> simp [mean]

/-- The mean of times is a share of their sum, among as many as there are. -/
theorem eq_share_of_mean {d : Duration} (found : mean times = some d) :
    0 < times.length ∧ d = (times.foldl (· + ·) Duration.zero).share times.length := by
  cases times with
  | nil => cases found
  | cons first rest =>
    cases found
    exact ⟨Nat.succ_pos _, rfl⟩

/-- Some time is not above the mean, even though the mean is rounded down. -/
theorem exists_le_mean (nonempty : 0 < times.length) :
    ∃ t ∈ times, t.nanoseconds ≤ (times.map Duration.nanoseconds).sum / times.length := by
  have beyond := Nat.lt_mul_div_succ (times.map Duration.nanoseconds).sum nonempty
  generalize (times.map Duration.nanoseconds).sum / times.length = mean at *
  have below : (times.map Duration.nanoseconds).sum < (times.map fun _ => mean + 1).sum := by
    simpa using beyond
  obtain ⟨t, mem, less⟩ := List.exists_lt_of_sum_lt _ _ below
  exact ⟨t, mem, Nat.le_of_lt_succ less⟩

/-- Some time is not below the mean. -/
theorem exists_mean_le (nonempty : 0 < times.length) :
    ∃ t ∈ times, (times.map Duration.nanoseconds).sum / times.length ≤ t.nanoseconds := by
  have under := Nat.mul_div_le (times.map Duration.nanoseconds).sum times.length
  generalize (times.map Duration.nanoseconds).sum / times.length = mean at *
  have above : (times.map fun _ => mean).sum ≤ (times.map Duration.nanoseconds).sum := by
    simpa using under
  exact List.exists_le_of_sum_le (List.ne_nil_of_length_pos nonempty) _ _ above

/-- A history has room for so few checks that their times can be added up, if each of them takes
at most as many milliseconds as 64 bits hold. -/
theorem sum_nanoseconds_lt (few : times.length ≤ capacity)
    (brief : ∀ t ∈ times, t.nanoseconds ≤ (2 ^ 64 - 1) * 1_000_000) :
    (times.map Duration.nanoseconds).sum < 18_446_744_073_709_551_616 * 1_000_000_000 := by
  have most : (times.map Duration.nanoseconds).sum ≤
      (times.map fun _ => (2 ^ 64 - 1) * 1_000_000).sum := List.sum_le_sum brief
  rw [List.map_const', List.sum_replicate, nsmul_eq_mul, Nat.cast_id] at most
  rw [capacity] at few
  omega

end Mean

/-- A summary is exact. It covers the latest checks that were added, a hundred at most. If no
probe takes more milliseconds than 64 bits hold, adding up the times of those that answered never
leaves the range of durations, and their mean is absent if none answered, and otherwise the sum
divided by their number, rounded down to the nanosecond: in nanoseconds, in seconds and what is
left over, and between the shortest and the longest time. -/
theorem summary_exact (checks : List Check)
    (brief : ∀ c ∈ checks, ∀ t, c.time = some t → t.nanoseconds ≤ (2 ^ 64 - 1) * 1_000_000) :
    let summary := (checks.foldl push {}).summary
    let times := summary.checks.filterMap Check.time
    let sum := (times.map Duration.nanoseconds).sum
    (summary.checks <:+ checks ∧ summary.checks.length = min checks.length 100) ∧
      (∀ early, early <+: times →
        (early.foldl (· + ·) Duration.zero).nanoseconds = (early.map Duration.nanoseconds).sum) ∧
      (summary.averageTime = none ↔ ∀ c ∈ summary.checks, c.time = none) ∧
      ∀ mean, summary.averageTime = some mean →
        times.length ≠ 0 ∧ mean.nanoseconds = sum / times.length ∧
          (mean.secs = sum / 1_000_000_000 / times.length ∧
            mean.subsecond = sum % 1_000_000_000 / times.length +
              (sum / 1_000_000_000 % times.length * 1_000_000_000 +
                sum % 1_000_000_000 % times.length) / times.length) ∧
          (∃ t ∈ times, t.nanoseconds ≤ mean.nanoseconds) ∧
          ∃ t ∈ times, mean.nanoseconds ≤ t.nanoseconds := by
  intro summary times sum
  have kept : summary.checks = checks.drop (checks.length - capacity) := checks_foldl_push checks
  have latest : summary.checks <:+ checks := by
    rw [kept]
    exact List.drop_suffix _ _
  have length : summary.checks.length = min checks.length 100 := by
    rw [kept, List.length_drop, capacity]
    omega
  have few : times.length ≤ capacity := by
    have answered : times.length ≤ summary.checks.length := List.length_filterMap_le _ _
    rw [capacity]
    omega
  have inside : ∀ t ∈ times, t.nanoseconds ≤ (2 ^ 64 - 1) * 1_000_000 := by
    intro t mem
    obtain ⟨c, member, time⟩ := List.mem_filterMap.mp mem
    exact brief c (latest.mem member) t time
  have sums : ∀ early, early <+: times →
      (early.foldl (· + ·) Duration.zero).nanoseconds = (early.map Duration.nanoseconds).sum := by
    intro early before
    have short := sum_nanoseconds_lt (Nat.le_trans before.length_le few)
      fun t mem => inside t (before.mem mem)
    have zero : Duration.zero.nanoseconds = 0 := rfl
    rw [Duration.nanoseconds_foldl_add _ (by omega), zero, Nat.zero_add]
  refine ⟨⟨latest, length⟩, sums, ?_, ?_⟩
  · show mean times = none ↔ _
    rw [mean_eq_none_iff, List.filterMap_eq_nil_iff]
  · intro average found
    have answered : 0 < times.length ∧
        average = (times.foldl (· + ·) Duration.zero).share times.length := eq_share_of_mean found
    obtain ⟨nonempty, rfl⟩ := answered
    have whole : (times.foldl (· + ·) Duration.zero).nanoseconds = sum :=
      sums times (List.prefix_refl times)
    have shared : ((times.foldl (· + ·) Duration.zero).share times.length).nanoseconds =
        sum / times.length := by
      rw [Duration.nanoseconds_share _ nonempty, whole]
    refine ⟨Nat.ne_of_gt nonempty, shared, ?_, ?_, ?_⟩
    · have parts := Duration.parts_share (times.foldl (· + ·) Duration.zero) nonempty
      simp only [Duration.secs, Duration.subsecond, Duration.perSecond, whole] at parts ⊢
      exact parts
    · rw [shared]
      exact exists_le_mean nonempty
    · rw [shared]
      exact exists_mean_le nonempty

/-- A hundred probes that take as many milliseconds as 64 bits hold, one that takes a nanosecond
and one that does not answer: the oldest two of them make room. -/
theorem summary_exact_longest :
    let long : Duration := ⟨(2 ^ 64 - 1) * 1_000_000, by decide⟩
    let checks : List Check := .replicate 100 ⟨.up, .healthy, some long⟩ ++
      [⟨.up, .healthy, some ⟨1, by decide⟩⟩, ⟨.down, .healthy, none⟩]
    (∀ c ∈ checks, ∀ t, c.time = some t → t.nanoseconds ≤ (2 ^ 64 - 1) * 1_000_000) ∧
      (checks.foldl push {}).summary.checks.length = 100 ∧
      ∃ mean, (checks.foldl push {}).summary.averageTime = some mean ∧
        mean.nanoseconds = (98 * ((2 ^ 64 - 1) * 1_000_000) + 1) / 99 := by
  intro long checks
  have brief : ∀ c ∈ checks, ∀ t, c.time = some t → t.nanoseconds ≤ (2 ^ 64 - 1) * 1_000_000 := by
    intro c mem t time
    have kinds : c.time = some long ∨ c.time = some ⟨1, by decide⟩ ∨ c.time = none := by
      rcases List.mem_append.mp mem with mem | mem
      · exact .inl (by rw [List.eq_of_mem_replicate mem])
      · obtain rfl | rfl :
            c = ⟨.up, .healthy, some ⟨1, by decide⟩⟩ ∨ c = ⟨.down, .healthy, none⟩ := by
          simpa using mem
        exacts [.inr (.inl rfl), .inr (.inr rfl)]
    obtain known | known | known := kinds <;> cases known.symm.trans time <;> decide
  obtain ⟨⟨-, length⟩, -, absent, value⟩ := summary_exact checks brief
  have kept : (checks.foldl push {}).summary.checks = checks.drop 2 := checks_foldl_push checks
  have times : (checks.drop 2).filterMap Check.time =
      .replicate 98 long ++ [⟨1, by decide⟩] := by
    simp [checks]
  refine ⟨brief, length, ?_⟩
  cases found : (checks.foldl push {}).summary.averageTime with
  | none =>
    have silent := absent.mp found
    rw [kept, ← List.filterMap_eq_nil_iff, times] at silent
    cases silent
  | some mean =>
    refine ⟨mean, rfl, ?_⟩
    rw [(value mean found).2.1, kept, times]
    simp [long]

end History

end ServiceMesh
