import ServiceMesh.Proofs.Coordinator.Schedule
import ServiceMesh.Proofs.Health.Pace

/-!
# Prompt acts

In a run the clock of the probes goes from job to job and passes none of them, and what is not due
is not done. That is all of the schedule that bounds on time rest on, so it is said act by act: an
act is on time, and acts are prompt when each of them is on time. The acts of a run are prompt,
and every moment of a run is a place in the list of its acts.
-/

namespace ServiceMesh

open Timeline (jobsFor)

/-- A list is split at a member. It stands in the second of two parts if it is not in the first. -/
theorem split_of_not_mem {α : Type} {x : α} {first rest left right : List α} (absent : x ∉ left)
    (split : left ++ right = first ++ x :: rest) :
    ∃ between, first = left ++ between ∧ right = between ++ x :: rest := by
  rcases List.append_eq_append_iff.mp split with ⟨between, same, rest'⟩ | ⟨between, same, rest'⟩
  · exact ⟨between, same, rest'⟩
  · cases between with
    | nil => exact ⟨[], by rw [same, List.append_nil, List.append_nil], rest'.symm⟩
    | cons y others =>
      cases rest'
      rw [same] at absent
      exact absurd (List.mem_append_right _ List.mem_cons_self) absent

namespace Coordinator

variable {c : Coordinator} {limit : Nat} {w : Timeline.Wake}

/-- Whether an act happens on time. The clock goes on and stops at the first job at the latest, and
a loop takes no step before its job is due. -/
def OnTime (c : Coordinator) : Act → Prop
  | .clock later =>
    c.timeline.now ≤ later ∧ (c.timeline.now < later → ∀ w ∈ c.timeline.wakes, later ≤ w.time)
  | .loop id => ∀ w, c.timeline.loopWake? id = some w → w.time ≤ c.timeline.now
  | .call _ | .spawned _ | .finish .. => True

/-- Acts each of which happens on time. -/
def Prompt (c : Coordinator) : List Act → Prop
  | [] => True
  | a :: rest => c.OnTime a ∧ (c.act a).Prompt rest

theorem prompt_append {first second : List Act} :
    c.Prompt (first ++ second) ↔ c.Prompt first ∧ (c.acted first).Prompt second := by
  induction first generalizing c with
  | nil => exact (iff_of_eq (true_and _)).symm
  | cons a rest ih => rw [List.cons_append, Prompt, ih, Prompt, acted_cons, and_assoc]

/-- The clock does not go back. -/
theorem now_le_act {a : Act} (onTime : c.OnTime a) :
    c.timeline.now ≤ (c.act a).timeline.now := by
  rw [now_act]
  cases a with
  | clock later => exact onTime.1
  | _ => exact Nat.le_refl _

theorem now_le_acted {acts : List Act} (prompt : c.Prompt acts) :
    c.timeline.now ≤ (c.acted acts).timeline.now := by
  induction acts generalizing c with
  | nil => exact Nat.le_refl _
  | cons a rest ih => exact (now_le_act prompt.1).trans (ih prompt.2)

/-! ## The acts of the schedule -/

/-- The first job is done when it is due, and no job is passed. -/
theorem prompt_jobActs (next : c.timeline.next? limit = some w) :
    c.Prompt (c.timeline.jobActs w) := by
  have there := (Timeline.mem_of_next? next).1
  rw [Timeline.next?, Option.filter_eq_some_iff] at next
  refine ⟨⟨Nat.le_max_left _ _, ?_⟩, ?_, trivial⟩
  · intro goes w' listed
    have order := Timeline.not_before_first next.1 listed
    simp only [Timeline.Wake.before, Bool.or_eq_false_iff, decide_eq_false_iff_not] at order
    omega
  · rcases Timeline.mem_wakes_iff.mp there with ⟨id, wake⟩ | ⟨k, -, wake⟩
    · obtain ⟨l, live, rfl⟩ := Option.map_eq_some_iff.mp wake
      intro w' wake'
      rw [Timeline.loopWake?] at wake'
      obtain ⟨l', live', rfl⟩ := Option.map_eq_some_iff.mp wake'
      obtain rfl : l = l' := Option.some.inj (live.symm.trans live')
      obtain ⟨serial, phase⟩ := l
      cases phase with
      | fresh => exact Nat.le_refl _
      | waiting due => exact Nat.le_max_right _ _
      | probing probe due => exact Nat.le_max_right _ _
    · obtain ⟨time, -, rfl⟩ := Option.map_eq_some_iff.mp wake
      trivial

theorem prompt_jobsFor (limit fuel : Nat) : c.Prompt (jobsFor limit fuel c.timeline) := by
  induction fuel generalizing c with
  | zero => trivial
  | succ fuel ih =>
    unfold jobsFor
    cases next : c.timeline.next? limit with
    | none => trivial
    | some w =>
      refine prompt_append.mpr ⟨prompt_jobActs next, ?_⟩
      rw [acted_jobActs]
      exact ih

theorem prompt_jobs (limit : Nat) : c.Prompt (c.timeline.jobs limit) := prompt_jobsFor limit _

/-- A caller that waits for a time goes on at its end, before what is due then. -/
theorem prompt_advanceActs (orderly : c.Orderly) (ms : Nat) :
    c.Prompt (c.timeline.advanceActs ms) := by
  unfold Timeline.advanceActs
  split
  case isTrue => trivial
  case isFalse some =>
    have goes : c.timeline.now < c.timeline.now + ms := Nat.lt_add_of_pos_right (by omega)
    have idle : (c.ran (c.timeline.now + ms)).timeline.next? (c.timeline.now + ms) = none :=
      (ran_preserves (P := fun _ => True) orderly trivial fun _ _ _ _ _ => trivial).2
    refine prompt_append.mpr ⟨prompt_jobs _, ?_⟩
    rw [acted_jobs]
    exact ⟨⟨(now_ran_lt orderly goes).le, fun _ _ listed =>
      Timeline.le_of_next?_eq_none idle listed⟩, trivial⟩

theorem now_advanceActs (c : Coordinator) (ms : Nat) :
    (c.acted (c.timeline.advanceActs ms)).timeline.now = c.timeline.now + ms := by
  rw [Timeline.acted_advanceActs]
  change (c.timeline.advance ms).now = _
  unfold Timeline.advance
  split
  case isTrue still => rw [still, Nat.add_zero]
  case isFalse => rfl

theorem prompt_checkActs (orderly : c.Orderly) (id : String) :
    c.Prompt (c.timeline.checkActs id) := by
  unfold Timeline.checkActs
  split
  · trivial
  · refine ⟨trivial, prompt_append.mpr ⟨?_, trivial, trivial⟩⟩
    exact prompt_advanceActs (orderly.act (.call (.setTarget id Target.called))) _

theorem prompt_joinActs (handle : String) : c.Prompt (c.timeline.joinActs handle) := by
  unfold Timeline.joinActs
  split
  · trivial
  · refine prompt_append.mpr ⟨prompt_jobs _, ?_⟩
    rw [acted_jobs]
    split
    · exact prompt_jobs (c := c.ran (c.timeline.now + 1)) _
    · trivial

theorem prompt_operation (orderly : c.Orderly) (op : Operation) :
    c.Prompt (c.acts (.operation op)) := by
  cases op with
  | check id => exact prompt_checkActs orderly id
  | join handle => exact prompt_joinActs handle
  | advance ms => exact prompt_advanceActs orderly ms
  | _ => exact ⟨trivial, trivial⟩

/-- The acts of a run are prompt. -/
theorem prompt_history (orderly : c.Orderly) (ops : List Operation) :
    c.Prompt (c.history (ops.map .operation)) := by
  induction ops generalizing c with
  | nil => trivial
  | cons op rest ih =>
    refine prompt_append.mpr ⟨prompt_operation orderly op, ?_⟩
    rw [acted_acts]
    exact ih (orderly.perform op)

/-! ## Checks that are waited for -/

theorem finish_not_mem_of_scheduled {acts : List Act} {id : String} {probe : Probe}
    {config : HealthConfig} (scheduled : ∀ a ∈ acts, a.scheduled = true) :
    .finish id probe config ∉ acts :=
  fun listed => nomatch scheduled _ listed

/-- The probe of a check that its caller waited for: it was begun with the check, and ends when
the caller has waited until then. -/
structure Awaited (c : Coordinator) (first : List Act) (id : String) (probe : Probe)
    (config : HealthConfig) (before wait : List Act) : Prop where
  acts : first = before ++ .call (.setTarget id Target.called) :: wait
  accepted : (c.acted before).timeline.checkConfig id = .ok config
  begins : ((c.acted before).timeline.beginProbe id config).1 = probe
  ends : (c.acted first).timeline.now = probe.ends

/-- While its caller waits, the probe of a check is under way. -/
theorem Awaited.underWay {first before wait part : List Act} {id : String} {probe : Probe}
    {config : HealthConfig} (h : c.Awaited first id probe config before wait)
    (prompt : c.Prompt first) (between : part <+: wait) :
    probe.UnderWay (c.acted (before ++ .call (.setTarget id Target.called) :: part)).timeline.now
      config.timeoutMs.toNat := by
  obtain ⟨acts, -, begins, ends⟩ := h
  obtain ⟨rest, rfl⟩ := between
  have split : first = (before ++ .call (.setTarget id Target.called) :: part) ++ rest := by
    rw [acts, List.append_assoc, List.cons_append]
  have begun := Probe.underWay_begin (c.acted before).timeline.now config.timeoutMs.toNat
    ((c.acted before).timeline.target id).reaction
  have started := Probe.started_begin (c.acted before).timeline.now config.timeoutMs.toNat
    ((c.acted before).timeline.target id).reaction
  change (Probe.begin _ _ _) = probe at begins
  rw [begins] at begun started
  rw [split, prompt_append, prompt_append] at prompt
  have early := now_le_acted prompt.1.2
  have late := now_le_acted prompt.2
  rw [← acted_append] at early
  rw [← acted_append, ← split, ends] at late
  exact ⟨begun.within, started ▸ early, late⟩

theorem Awaited.shift {op : Operation} {first before wait : List Act} {id : String} {probe : Probe}
    {config : HealthConfig} (h : (c.perform op).2.Awaited first id probe config before wait) :
    c.Awaited (c.acts (.operation op) ++ first) id probe config
      (c.acts (.operation op) ++ before) wait := by
  have acted : ∀ acts, c.acted (c.acts (.operation op) ++ acts) = (c.perform op).2.acted acts := by
    intro acts
    rw [acted_append, acted_acts]
    rfl
  obtain ⟨acts, accepted, begins, ends⟩ := h
  exact ⟨by rw [acts, List.append_assoc], by rwa [acted], by rwa [acted], by rwa [acted]⟩

/-- A probe ends for a caller only when the caller waited for a check, and then last of all. -/
theorem finish_cases (c : Coordinator) (op : Operation) :
    (∀ id probe config, .finish id probe config ∉ c.acts (.operation op)) ∨
    ∃ id probe config wait, (∀ a ∈ wait, a.scheduled = true) ∧
      c.acts (.operation op) =
        .call (.setTarget id Target.called) :: wait ++ [.finish id probe config] ∧
      c.Awaited (.call (.setTarget id Target.called) :: wait) id probe config [] wait := by
  cases op with
  | check id =>
    rw [acts, Timeline.checkActs]
    cases accepted : c.timeline.checkConfig id with
    | error => exact .inl fun _ _ _ => List.not_mem_nil
    | ok config =>
      obtain ⟨-, -, unended⟩ := Probe.underWay_begin c.timeline.now config.timeoutMs.toNat
        (c.timeline.target id).reaction
      refine .inr ⟨id, _, config, _, scheduled_advanceActs _ _, rfl, rfl, accepted, rfl, ?_⟩
      rw [acted_cons]
      have clock := now_advanceActs (c.act (.call (.setTarget id Target.called)))
        ((c.timeline.beginProbe id config).1.ends - c.timeline.now)
      exact clock.trans (Nat.add_sub_cancel' unended)
  | join handle => exact .inl fun _ _ _ =>
      finish_not_mem_of_scheduled (scheduled_joinActs c.timeline handle)
  | advance ms => exact .inl fun _ _ _ =>
      finish_not_mem_of_scheduled (scheduled_advanceActs c.timeline ms)
  | _ =>
    refine .inl fun _ _ _ listed => ?_
    cases List.mem_singleton.mp listed

/-- A probe that ends for a caller in a run is that of a check which the caller waited for. -/
theorem awaited_of_finish {ops : List Operation} {first rest : List Act} {id : String}
    {probe : Probe} {config : HealthConfig}
    (split : c.history (ops.map .operation) = first ++ .finish id probe config :: rest) :
    ∃ before wait, c.Awaited first id probe config before wait := by
  induction ops generalizing c first with
  | nil => exact absurd split.symm (List.append_ne_nil_of_right_ne_nil _ (List.cons_ne_nil _ _))
  | cons op ops ih =>
    rw [List.map_cons, history] at split
    rcases c.finish_cases op with absent | ⟨id', probe', config', wait, scheduled, acts, awaited⟩
    · obtain ⟨between, rfl, later⟩ := split_of_not_mem (absent id probe config) split
      obtain ⟨before, wait, awaited⟩ := ih later
      exact ⟨_, wait, awaited.shift⟩
    · have absent : .finish id probe config ∉ .call (.setTarget id' Target.called) :: wait := by
        intro listed
        rcases List.mem_cons.mp listed with ⟨⟨⟩⟩ | waits
        exact finish_not_mem_of_scheduled scheduled waits
      have parts := split
      rw [acts, List.append_assoc] at parts
      obtain ⟨between, rfl, later⟩ := split_of_not_mem absent parts
      cases between with
      | nil =>
        cases later
        rw [List.append_nil]
        exact ⟨[], wait, awaited⟩
      | cons own between =>
        obtain ⟨rfl, since⟩ := List.cons.inj later
        obtain ⟨before, wait', awaited'⟩ := ih since
        have shifted := awaited'.shift
        rw [acts, List.append_assoc] at shifted
        exact ⟨_, wait', shifted⟩

end Coordinator

end ServiceMesh
