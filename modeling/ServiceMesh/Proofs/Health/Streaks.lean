import Mathlib.Algebra.Group.Nat.Defs
import Mathlib.Data.List.Induction
import ServiceMesh.Health.Tracker
import ServiceMesh.Proofs.Since

/-!
# Health by outcomes in a row

A tracker keeps two counters that reset each other, and gives a status back that it is told again
with the next outcome. What comes of it can be told by the outcomes alone: an instance becomes
unhealthy with the failure that makes up the limit of failures in a row, and leaves that status with
the success that makes up the limit for recovery. No counter comes round, whatever the statuses and
configurations are that a tracker is told in between.
-/

namespace ServiceMesh

theorem Outcome.landing_ne_unhealthy (o : Outcome) : o.landing ≠ .unhealthy := by
  cases o <;> decide

/-! ## Observations -/

/-- An outcome with the status of the instance before it and after it. -/
structure Observation where
  before : Status
  outcome : Outcome
  after : Status
  deriving DecidableEq

namespace Observation

def succeeds (o : Observation) : Bool := o.outcome.isSuccess

def fails (o : Observation) : Bool := !o.outcome.isSuccess

/-- The instance is unhealthy no longer. -/
def recovers (o : Observation) : Bool := o.before == .unhealthy && o.after != .unhealthy

/-- The instance becomes unhealthy. -/
def falls (o : Observation) : Bool := o.before != .unhealthy && o.after == .unhealthy

/-- Failures in a row begin anew: at a success or a recovery. -/
def endsFailures (o : Observation) : Bool := o.succeeds || o.recovers

/-- Successes in a row begin anew: at a failure or when the instance becomes unhealthy. -/
def endsSuccesses (o : Observation) : Bool := o.fails || o.falls

/-- The failures in a row at the end of a log. -/
def failuresInRow (log : List Observation) : Nat := countSince endsFailures fails log

/-- The successes in a row at the end of a log. -/
def successesInRow (log : List Observation) : Nat := countSince endsSuccesses succeeds log

section Snoc

variable {before after : Status} {o : Outcome} (log : List Observation)

theorem failuresInRow_of_success (succeeds : o.isSuccess = true) :
    failuresInRow (log ++ [⟨before, o, after⟩]) = 0 :=
  countSince_snoc_of_mark (by simp [endsFailures, Observation.succeeds, succeeds]) log

theorem failuresInRow_of_failure (fails : o.isSuccess = false) (well : before ≠ .unhealthy) :
    failuresInRow (log ++ [⟨before, o, after⟩]) = failuresInRow log + 1 := by
  have goesOn : endsFailures ⟨before, o, after⟩ = false := by
    simp [endsFailures, Observation.succeeds, recovers, fails, well]
  rw [failuresInRow, countSince_snoc goesOn, if_pos (by simp [Observation.fails, fails])]
  rfl

theorem successesInRow_of_failure (fails : o.isSuccess = false) :
    successesInRow (log ++ [⟨before, o, after⟩]) = 0 :=
  countSince_snoc_of_mark (by simp [endsSuccesses, Observation.fails, fails]) log

theorem successesInRow_of_success (succeeds : o.isSuccess = true) :
    successesInRow (log ++ [⟨.unhealthy, o, after⟩]) = successesInRow log + 1 := by
  have goesOn : endsSuccesses ⟨.unhealthy, o, after⟩ = false := by
    simp [endsSuccesses, Observation.fails, falls, succeeds]
  rw [successesInRow, countSince_snoc goesOn, if_pos (by simp [Observation.succeeds, succeeds])]
  rfl

end Snoc

end Observation

namespace Tracker

open Observation

variable {t : Tracker} {current : Status} {o : Outcome} {config : HealthConfig}

/-- The status and the tracker after outcomes that follow one another, each of them observed with
the status that followed from the one before. -/
def followed (config : HealthConfig) (state : Status × Tracker) (outcomes : List Outcome) :
    Status × Tracker :=
  outcomes.foldl (fun state o => state.2.observe state.1 o config) state

/-- The log of outcomes that follow one another. -/
def observations (config : HealthConfig) (state : Status × Tracker) :
    List Outcome → List Observation
  | [] => []
  | o :: rest =>
    let next := state.2.observe state.1 o config
    ⟨state.1, o, next.1⟩ :: observations config next rest

theorem followed_snoc (config : HealthConfig) (state : Status × Tracker) (outcomes : List Outcome)
    (o : Outcome) :
    followed config state (outcomes ++ [o]) =
      (followed config state outcomes).2.observe (followed config state outcomes).1 o config := by
  rw [followed, List.foldl_append]
  rfl

theorem observations_snoc (config : HealthConfig) (state : Status × Tracker)
    (outcomes : List Outcome) (o : Outcome) :
    observations config state (outcomes ++ [o]) =
      observations config state outcomes ++
        [⟨(followed config state outcomes).1, o,
          (followed config state (outcomes ++ [o])).1⟩] := by
  induction outcomes generalizing state with
  | nil => rfl
  | cons first rest ih => exact congrArg (_ :: ·) (ih (state.2.observe state.1 first config))

/-! ## What an outcome does -/

theorem observe_success (succeeds : o.isSuccess = true) (well : current ≠ .unhealthy) :
    t.observe current o config = (o.landing, {}) := by
  rw [observe, if_pos succeeds, if_pos well]

theorem observe_success_of_unhealthy (succeeds : o.isSuccess = true) :
    t.observe .unhealthy o config =
      if config.recoveryChecks ≤ t.successes + 1 then (o.landing, {})
      else (.unhealthy, { failures := 0, successes := t.successes + 1 }) := by
  rw [observe, if_pos succeeds, if_neg (by simp)]

theorem observe_failure (fails : o.isSuccess = false) (well : current ≠ .unhealthy) :
    t.observe current o config =
      if config.maxFailures ≤ t.failures + 1 then (.unhealthy, {})
      else (current, { failures := t.failures + 1, successes := 0 }) := by
  rw [observe, if_neg (by simp [fails]), if_neg well]

theorem observe_failure_of_unhealthy (fails : o.isSuccess = false) :
    t.observe .unhealthy o config = (.unhealthy, { t with successes := 0 }) := by
  rw [observe, if_neg (by simp [fails]), if_pos rfl]

/-! ## Counters that never come round -/

/-- Both counters can be raised by one. -/
def HasRoom (t : Tracker) : Prop := t.failures.toNat + 1 < 2 ^ 32 ∧ t.successes.toNat + 1 < 2 ^ 32

theorem hasRoom_empty : HasRoom {} := ⟨by decide, by decide⟩

/-- A counter below a limit of 32 bits can be raised, and what is raised and still below one can be
raised again. -/
theorem toNat_add_one_lt {count limit : UInt32} (below : ¬limit ≤ count + 1) :
    (count + 1).toNat + 1 < 2 ^ 32 := by
  have short := UInt32.lt_iff_toNat_lt.mp (UInt32.not_le.mp below)
  have width := limit.toNat_lt
  omega

theorem HasRoom.observe (h : t.HasRoom) (current : Status) (o : Outcome) (config : HealthConfig) :
    (t.observe current o config).2.HasRoom := by
  cases succeeds : o.isSuccess with
  | true =>
    by_cases ill : current = .unhealthy
    · rw [ill, observe_success_of_unhealthy succeeds]
      split
      case isTrue => exact hasRoom_empty
      case isFalse below => exact ⟨hasRoom_empty.1, toNat_add_one_lt below⟩
    · rw [observe_success succeeds ill]
      exact hasRoom_empty
  | false =>
    by_cases ill : current = .unhealthy
    · rw [ill, observe_failure_of_unhealthy succeeds]
      exact ⟨h.1, hasRoom_empty.2⟩
    · rw [observe_failure succeeds ill]
      split
      case isTrue => exact hasRoom_empty
      case isFalse below => exact ⟨toNat_add_one_lt below, hasRoom_empty.2⟩

/-- What is done to a tracker: it is told an outcome, with whatever status the instance has by then
and whatever configuration is in force, or it is begun anew. -/
inductive Call where
  | observe (current : Status) (outcome : Outcome) (config : HealthConfig)
  | reset

/-- The tracker after a call. -/
def call (t : Tracker) : Call → Tracker
  | .observe current outcome config => (t.observe current outcome config).2
  | .reset => {}

theorem HasRoom.called (h : t.HasRoom) (calls : List Call) : (calls.foldl call t).HasRoom := by
  induction calls generalizing t with
  | nil => exact h
  | cons first rest ih =>
    cases first with
    | observe current outcome config => exact ih (h.observe current outcome config)
    | reset => exact ih hasRoom_empty

/-! ## What a tracker holds -/

/-- A tracker holds what the log of its outcomes tells. The failures in a row of an instance that
is not unhealthy are counted, and the successes in a row of one that is; the other counter is zero,
and neither is as long as its limit. -/
structure Holds (config : HealthConfig) (log : List Observation) (state : Status × Tracker) :
    Prop where
  failures_lt : state.2.failures < config.maxFailures
  successes_lt : state.2.successes < config.recoveryChecks
  well : state.1 ≠ .unhealthy →
    state.2.failures.toNat = failuresInRow log ∧ state.2.successes = 0
  ill : state.1 = .unhealthy →
    state.2.successes.toNat = successesInRow log ∧ state.2.failures = 0

namespace Holds

variable {log : List Observation}

theorem pos_of_one_le {limit : UInt32} (h : 1 ≤ limit) : 0 < limit :=
  UInt32.lt_of_lt_of_le (by decide) h

theorem start (failing : 1 ≤ config.maxFailures) (recovering : 1 ≤ config.recoveryChecks)
    (status : Status) : Holds config [] (status, {}) where
  failures_lt := pos_of_one_le failing
  successes_lt := pos_of_one_le recovering
  well _ := ⟨rfl, rfl⟩
  ill _ := ⟨rfl, rfl⟩

/-- Below its limit a counter can be raised. -/
theorem toNat_add_one {count limit : UInt32} (below : count < limit) :
    (count + 1).toNat = count.toNat + 1 := by
  have short := UInt32.lt_iff_toNat_lt.mp below
  have width := limit.toNat_lt
  rw [UInt32.toNat_add, UInt32.toNat_one, Nat.mod_eq_of_lt (by omega)]

/-- The next count makes up the limit just if the count in a row is one short of it. -/
theorem reaches_iff {count limit : UInt32} {row : Nat} (below : count < limit)
    (counted : count.toNat = row) : limit ≤ count + 1 ↔ row + 1 = limit.toNat := by
  have short := UInt32.lt_iff_toNat_lt.mp below
  rw [UInt32.le_iff_toNat_le, toNat_add_one below]
  omega

/-- Every outcome leaves a tracker that holds what its log tells. -/
theorem observe (h : Holds config log (current, t)) (failing : 1 ≤ config.maxFailures)
    (recovering : 1 ≤ config.recoveryChecks) (o : Outcome) :
    Holds config (log ++ [⟨current, o, (t.observe current o config).1⟩])
      (t.observe current o config) := by
  have no_failures := pos_of_one_le failing
  have no_successes := pos_of_one_le recovering
  cases succeeds : o.isSuccess with
  | true =>
    by_cases ill : current = .unhealthy
    · subst ill
      obtain ⟨counted, -⟩ := h.ill rfl
      rw [observe_success_of_unhealthy succeeds]
      split
      case isTrue =>
        exact ⟨no_failures, no_successes,
          fun _ => ⟨(failuresInRow_of_success _ succeeds).symm, rfl⟩,
          fun unhealthy => absurd unhealthy o.landing_ne_unhealthy⟩
      case isFalse below =>
        refine ⟨no_failures, UInt32.not_le.mp below, fun well => absurd rfl well, fun _ => ?_⟩
        rw [successesInRow_of_success _ succeeds, ← counted]
        exact ⟨toNat_add_one h.successes_lt, rfl⟩
    · rw [observe_success succeeds ill]
      exact ⟨no_failures, no_successes,
        fun _ => ⟨(failuresInRow_of_success _ succeeds).symm, rfl⟩,
        fun unhealthy => absurd unhealthy o.landing_ne_unhealthy⟩
  | false =>
    by_cases ill : current = .unhealthy
    · subst ill
      obtain ⟨-, reset⟩ := h.ill rfl
      rw [observe_failure_of_unhealthy succeeds]
      exact ⟨h.failures_lt, no_successes, fun well => absurd rfl well,
        fun _ => ⟨(successesInRow_of_failure _ succeeds).symm, reset⟩⟩
    · obtain ⟨counted, -⟩ := h.well ill
      rw [observe_failure succeeds ill]
      split
      case isTrue =>
        exact ⟨no_failures, no_successes, fun well => absurd rfl well,
          fun _ => ⟨(successesInRow_of_failure _ succeeds).symm, rfl⟩⟩
      case isFalse below =>
        refine ⟨UInt32.not_le.mp below, no_successes, fun _ => ?_,
          fun unhealthy => absurd unhealthy ill⟩
        rw [failuresInRow_of_failure _ succeeds ill, ← counted]
        exact ⟨toNat_add_one h.failures_lt, rfl⟩

theorem followed (failing : 1 ≤ config.maxFailures) (recovering : 1 ≤ config.recoveryChecks)
    (status : Status) (outcomes : List Outcome) :
    Holds config (observations config (status, {}) outcomes)
      (Tracker.followed config (status, {}) outcomes) := by
  induction outcomes using List.reverseRecOn with
  | nil => exact .start failing recovering status
  | append_singleton outcomes o ih =>
    rw [observations_snoc, followed_snoc]
    exact ih.observe failing recovering o

/-- An instance that is not unhealthy becomes so just with the failure that makes up the limit. -/
theorem falls_iff (h : Holds config log (current, t)) (well : current ≠ .unhealthy) (o : Outcome) :
    ((t.observe current o config).1 = .unhealthy ↔
      o = .down ∧ failuresInRow log + 1 = config.maxFailures.toNat) ∧
    (o = .down → (t.observe current o config).1 ≠ .unhealthy →
      (t.observe current o config).1 = current) := by
  obtain ⟨counted, -⟩ := h.well well
  have reaches := reaches_iff h.failures_lt counted
  cases o with
  | down =>
    rw [observe_failure rfl well]
    split
    case isTrue reached =>
      exact ⟨⟨fun _ => ⟨rfl, reaches.mp reached⟩, fun _ => rfl⟩, fun _ => absurd rfl⟩
    case isFalse below =>
      exact ⟨⟨fun unhealthy => absurd unhealthy well,
        fun made => absurd (reaches.mpr made.2) below⟩, fun _ _ => rfl⟩
  | up | degraded =>
    rw [observe_success rfl well]
    exact ⟨⟨nofun, nofun⟩, nofun⟩

/-- An unhealthy instance recovers just with the success that makes up the limit for it. -/
theorem recovers_iff (h : Holds config log (.unhealthy, t)) (o : Outcome) :
    (t.observe .unhealthy o config).1 ≠ .unhealthy ↔
      o.isSuccess = true ∧ successesInRow log + 1 = config.recoveryChecks.toNat := by
  obtain ⟨counted, -⟩ := h.ill rfl
  have reaches := reaches_iff h.successes_lt counted
  cases succeeds : o.isSuccess with
  | false =>
    rw [observe_failure_of_unhealthy succeeds]
    exact ⟨fun recovered => absurd rfl recovered, nofun⟩
  | true =>
    rw [observe_success_of_unhealthy succeeds]
    split
    case isTrue reached =>
      exact ⟨fun _ => ⟨rfl, reaches.mp reached⟩, fun _ => o.landing_ne_unhealthy⟩
    case isFalse below =>
      exact ⟨fun recovered => absurd rfl recovered, fun made => absurd (reaches.mpr made.2) below⟩

end Holds

/-- A success that does not leave an instance unhealthy makes it degraded or healthy, as it was
answered. -/
theorem landing_of_success (succeeds : o.isSuccess = true)
    (well : (t.observe current o config).1 ≠ .unhealthy) :
    (t.observe current o config).1 = if o = .degraded then .degraded else .healthy := by
  have lands : o.landing = if o = .degraded then .degraded else .healthy := by
    cases o <;> rfl
  rw [← lands]
  by_cases ill : current = .unhealthy
  · rw [ill, observe_success_of_unhealthy succeeds] at well ⊢
    split
    case isTrue => rfl
    case isFalse below => exact absurd (by rw [if_neg below]) well
  · rw [observe_success succeeds ill]

/-- The status of an instance follows from the outcomes in a row. Let both limits be at least one,
let the tracker begin empty with any status, and let each outcome be observed with the status that
followed from the one before. An instance that is not unhealthy becomes so exactly with the failure
that makes up the limit of failures in a row, and a failure before that leaves its status alone; an
unhealthy one recovers exactly with the success that makes up the limit for recovery; and a success
that does not leave it unhealthy makes it degraded or healthy as it was answered. The counters stay
below their limits, and the one that does not count is zero. Whatever statuses and configurations a
tracker is told, both counters always have room for one more. -/
theorem status_follows_streaks (config : HealthConfig) (failing : 1 ≤ config.maxFailures)
    (recovering : 1 ≤ config.recoveryChecks) (start : Status) (outcomes : List Outcome) :
    let state := followed config (start, {}) outcomes
    let log := observations config (start, {}) outcomes
    (state.2.failures < config.maxFailures ∧ state.2.successes < config.recoveryChecks ∧
      (state.1 ≠ .unhealthy →
        state.2.failures.toNat = failuresInRow log ∧ state.2.successes = 0) ∧
      (state.1 = .unhealthy →
        state.2.successes.toNat = successesInRow log ∧ state.2.failures = 0)) ∧
    (∀ o : Outcome,
      let next := (state.2.observe state.1 o config).1
      (state.1 ≠ .unhealthy →
        (next = .unhealthy ↔ o = .down ∧ failuresInRow log + 1 = config.maxFailures.toNat) ∧
        (o = .down → next ≠ .unhealthy → next = state.1)) ∧
      (state.1 = .unhealthy →
        (next ≠ .unhealthy ↔
          o.isSuccess = true ∧ successesInRow log + 1 = config.recoveryChecks.toNat)) ∧
      (o.isSuccess = true → next ≠ .unhealthy →
        next = if o = .degraded then .degraded else .healthy)) ∧
    ∀ calls : List Call,
      let t := calls.foldl call {}
      t.failures.toNat + 1 < 2 ^ 32 ∧ t.successes.toNat + 1 < 2 ^ 32 := by
  intro state log
  have holds : Holds config log state := .followed failing recovering start outcomes
  refine ⟨⟨holds.failures_lt, holds.successes_lt, holds.well, holds.ill⟩, ?_, ?_⟩
  · intro o next
    refine ⟨fun well => holds.falls_iff well o, fun ill => ?_, landing_of_success⟩
    obtain ⟨current, t⟩ := state
    cases ill
    exact holds.recovers_iff o
  · intro calls
    exact hasRoom_empty.called calls

/-- Two failures in a row make a healthy instance unhealthy, and two successes in a row bring it
back, degraded if the second one is. A success in between breaks the one row, and a failure the
other. -/
theorem status_follows_streaks_of_two :
    let config : HealthConfig := { maxFailures := 2, recoveryChecks := 2 }
    let outcomes : List Outcome := [.down, .up, .down, .down, .up, .down, .up]
    let state := followed config (.healthy, {}) outcomes
    1 ≤ config.maxFailures ∧ 1 ≤ config.recoveryChecks ∧ state.1 = .unhealthy ∧
      (state.2.observe state.1 .degraded config).1 = .degraded := by
  intro config outcomes state
  obtain ⟨-, machine, -⟩ :=
    status_follows_streaks config (by decide) (by decide) .healthy outcomes
  have unhealthy : state.1 = .unhealthy := by decide
  obtain ⟨-, recovers, lands⟩ := machine .degraded
  have recovered := (recovers unhealthy).mpr ⟨rfl, by decide⟩
  exact ⟨by decide, by decide, unhealthy, lands rfl recovered⟩

end Tracker

end ServiceMesh
