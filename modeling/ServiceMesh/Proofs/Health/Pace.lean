import Mathlib.Data.List.Chain
import ServiceMesh.Timeline

/-!
# The pace of a loop

When a probe of a loop is due depends on how late the one before was taken, and that on how long
the one before that took. What is kept through all of it is said of the latest probe alone: the
next one is due an interval after that one started, or earlier by the tolerance at most. So the
bounds hold along any number of probes, whatever they meet.
-/

namespace ServiceMesh

/-! ## Probes -/

namespace Probe

/-- A probe ends within a limit from its start. -/
structure Within (limit : Nat) (probe : Probe) : Prop where
  begins : probe.started ≤ probe.ends
  ends : probe.ends ≤ probe.started + limit

/-- A probe is under way at a moment, and ends within a limit from its start. -/
structure UnderWay (now limit : Nat) (probe : Probe) : Prop where
  within : probe.Within limit
  begun : probe.started ≤ now
  unended : now ≤ probe.ends

variable (now limit : Nat) (reaction : Reaction)

theorem started_begin : (Probe.begin now limit reaction).started = now := by
  cases reaction with
  | answers delay =>
    rw [Probe.begin]
    split <;> rfl
  | hangs => rfl

/-- A probe that hangs ends like any other. -/
theorem within_begin : (Probe.begin now limit reaction).Within limit := by
  cases reaction with
  | answers delay =>
    rw [Probe.begin]
    split
    case isTrue intime => exact ⟨Nat.le_add_right _ _, Nat.add_le_add_left intime _⟩
    case isFalse => exact ⟨Nat.le_add_right _ _, Nat.le_refl _⟩
  | hangs => exact ⟨Nat.le_add_right _ _, Nat.le_refl _⟩

theorem underWay_begin : (Probe.begin now limit reaction).UnderWay now limit := by
  have started := started_begin now limit reaction
  have within := within_begin now limit reaction
  have begins := within.begins
  rw [started] at begins
  exact ⟨within, started.le, begins⟩

end Probe

/-! ## The probes of a loop -/

/-- A probe that a loop began, with the configuration of the loop. -/
structure Launch where
  config : HealthConfig
  probe : Probe
  deriving DecidableEq

namespace Launch

def interval (x : Launch) : Nat := x.config.intervalMs.toNat

def timeout (x : Launch) : Nat := x.config.timeoutMs.toNat

/-- Two probes of a loop that follow each other: they do not overlap, and the second one starts at
least the interval less the tolerance after the first one and at most the interval or the time
limit after it, whichever is longer. -/
structure Precedes (first second : Launch) : Prop where
  config : second.config = first.config
  apart : first.probe.ends ≤ second.probe.started
  soonest : first.probe.started + first.interval ≤ second.probe.started + tolerance
  latest : second.probe.started ≤ first.probe.started + max first.interval first.timeout

/-- The probes that a loop has begun are steady: each of them ends in time, and each follows the
one before at the pace of the loop. -/
structure Steady (log : List Launch) : Prop where
  within : ∀ x ∈ log, x.probe.Within x.timeout
  chain : log.IsChain Precedes

variable {log : List Launch} {x : Launch} {due : Nat}

theorem Steady.nil : Steady [] := ⟨fun _ listed => absurd listed List.not_mem_nil, .nil⟩

theorem Steady.snoc (steady : Steady log) (within : x.probe.Within x.timeout)
    (follows : ∀ last ∈ log.getLast?, last.Precedes x) : Steady (log ++ [x]) := by
  constructor
  · intro y listed
    rcases List.mem_append.mp listed with old | new
    · exact steady.within y old
    · rwa [List.mem_singleton.mp new]
  · rw [List.isChain_append]
    refine ⟨steady.chain, .singleton x, ?_⟩
    rintro last final _ ⟨⟩
    exact follows last final

/-- No two probes of a loop overlap, also if others were begun between them. -/
theorem Steady.apart (steady : Steady log) :
    log.Pairwise fun first second => first.probe.ends ≤ second.probe.started := by
  let Before (first second : Launch) : Prop :=
    first.probe.ends ≤ second.probe.started ∧ second.probe.started ≤ second.probe.ends
  have trans : Trans Before Before Before :=
    ⟨fun first second => ⟨(first.1.trans first.2).trans second.1, second.2⟩⟩
  have chain : log.IsChain Before :=
    steady.chain.imp_of_mem_imp fun _ second _ listed precedes =>
      ⟨precedes.apart, (steady.within second listed).begins⟩
  exact (List.isChain_iff_pairwise.mp chain).imp And.left

/-- When the probe after one is due. -/
structure Due (x : Launch) (due : Nat) : Prop where
  soonest : x.probe.started + x.interval ≤ due + tolerance
  latest : due ≤ x.probe.started + x.interval

/-- However late a probe was taken, the next one is due an interval after its start, or earlier by
the tolerance at most. -/
theorem due_nextDue (taken : due ≤ x.probe.started) :
    x.Due (nextDue x.interval due x.probe.started) := by
  unfold nextDue
  split
  case isTrue late => exact ⟨Nat.le_add_right _ _, Nat.le_refl _⟩
  case isFalse kept =>
    constructor
    · omega
    · omega

/-- The pace of a probe that is taken when the one before has ended: at its due time, or at the end
of the one before if that is later. -/
theorem Due.precedes {next : Launch} (h : x.Due due) (within : x.probe.Within x.timeout)
    (config : next.config = x.config) (taken : due ≤ next.probe.started)
    (past : x.probe.ends ≤ next.probe.started)
    (soon : next.probe.started ≤ max due x.probe.ends) : x.Precedes next := by
  have soonest := h.soonest
  have latest := h.latest
  have ends := within.ends
  refine ⟨config, past, ?_, ?_⟩
  · omega
  · omega

end Launch

/-! ## The phases of a loop -/

namespace Phase

/-- Where a loop stands at a moment, by the probes that it has begun. It never waits longer than
until its next probe is due, or until its latest one has ended if that is later. -/
inductive Stands (now : Nat) (config : HealthConfig) : List Launch → Phase → Prop
  | fresh : Stands now config [] .fresh
  | waiting {log : List Launch} {probe : Probe} {due : Nat} (next : Launch.Due ⟨config, probe⟩ due)
      (past : probe.ends ≤ now) (soon : now ≤ max due probe.ends) :
      Stands now config (log ++ [⟨config, probe⟩]) (.waiting due)
  | probing {log : List Launch} {probe : Probe} {due : Nat} (next : Launch.Due ⟨config, probe⟩ due)
      (begun : probe.started ≤ now) (unended : now ≤ probe.ends) :
      Stands now config (log ++ [⟨config, probe⟩]) (.probing probe due)

namespace Stands

variable {now later due : Nat} {config : HealthConfig} {log : List Launch} {probe : Probe}

/-- The clock may go on to the moment at which the loop has something to do. -/
theorem goOn {l : Loop} (stands : l.phase.Stands now config log) (goes : now ≤ later)
    (reached : now < later → later ≤ Timeline.wakeOfLoop now l) :
    l.phase.Stands later config log := by
  obtain ⟨serial, phase⟩ := l
  cases stands with
  | fresh => exact .fresh
  | waiting next past soon =>
    simp only [Timeline.wakeOfLoop] at reached
    refine .waiting next (past.trans goes) ?_
    omega
  | probing next begun unended =>
    simp only [Timeline.wakeOfLoop] at reached
    refine .probing next (begun.trans goes) ?_
    omega

/-- A loop that has begun no probe has something to do now. -/
theorem wake_of_unlaunched {l : Loop} (stands : l.phase.Stands now config log)
    (unlaunched : log = []) : Timeline.wakeOfLoop now l = now := by
  obtain ⟨serial, phase⟩ := l
  cases stands with
  | fresh => rfl
  | waiting => exact absurd unlaunched (List.append_ne_nil_of_right_ne_nil _ (List.cons_ne_nil _ _))
  | probing => exact absurd unlaunched (List.append_ne_nil_of_right_ne_nil _ (List.cons_ne_nil _ _))

/-- A probe that was under way ends. -/
theorem ended (stands : (Phase.probing probe due).Stands now config log)
    (past : probe.ends ≤ now) : (Phase.waiting due).Stands now config log := by
  cases stands with
  | probing next begun unended =>
    exact .waiting next past (unended.trans (Nat.le_max_right _ _))

/-- A probe begins that was due, as the first one or as the one after another. -/
theorem begun {phase : Phase} (stands : phase.Stands now config log) (steady : Launch.Steady log)
    (idle : phase = .fresh ∧ due = now ∨ phase = .waiting due) (taken : due ≤ now)
    (within : probe.Within config.timeoutMs.toNat) (started : probe.started = now) :
    Launch.Steady (log ++ [⟨config, probe⟩]) ∧
      (Phase.probing probe (nextDue config.intervalMs.toNat due now)).Stands now config
        (log ++ [⟨config, probe⟩]) := by
  constructor
  · refine steady.snoc within ?_
    intro last final
    cases stands with
    | fresh => cases final
    | @waiting log' probe' due' next past soon =>
      obtain ⟨⟨⟩, -⟩ | ⟨⟨⟩⟩ := idle
      rw [List.getLast?_concat] at final
      cases final
      have listed : (⟨config, probe'⟩ : Launch) ∈ log' ++ [⟨config, probe'⟩] :=
        List.mem_append_right _ (List.mem_singleton_self _)
      subst started
      exact next.precedes (steady.within _ listed) rfl taken past soon
    | probing =>
      obtain ⟨⟨⟩, -⟩ | ⟨⟨⟩⟩ := idle
  · subst started
    exact .probing (Launch.due_nextDue (x := ⟨config, probe⟩) taken) (Nat.le_refl _) within.begins

/-- The latest probe of a loop is not long ago. -/
theorem now_le {phase : Phase} (stands : phase.Stands now config log)
    (steady : Launch.Steady log) {last : Launch} (final : log.getLast? = some last) :
    last.config = config ∧ now ≤ last.probe.started + max last.interval last.timeout := by
  have ends := (steady.within last (List.mem_of_getLast? final)).ends
  cases stands with
  | fresh => cases final
  | waiting next past soon =>
    rw [List.getLast?_concat] at final
    cases final
    have latest := next.latest
    refine ⟨rfl, ?_⟩
    dsimp only at ends latest ⊢
    omega
  | probing next begun unended =>
    rw [List.getLast?_concat] at final
    cases final
    refine ⟨rfl, ?_⟩
    dsimp only at ends ⊢
    omega

/-- A loop that probes is at its latest probe. -/
theorem underWay (stands : (Phase.probing probe due).Stands now config log)
    (steady : Launch.Steady log) :
    log.getLast? = some ⟨config, probe⟩ ∧ probe.UnderWay now config.timeoutMs.toNat := by
  cases stands with
  | probing next begun unended =>
    have within := steady.within ⟨config, probe⟩
      (List.mem_append_right _ (List.mem_singleton_self _))
    exact ⟨List.getLast?_concat, within, begun, unended⟩

end Stands

end Phase

end ServiceMesh
