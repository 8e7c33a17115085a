import ServiceMesh.Proofs.Coordinator.Registrations

/-!
# Acts

An operation that takes time lets loops and spawned checks go on while its caller waits, so
between its beginning and its end much may happen. An act is what happens at one moment: an
operation that takes no time, a move of the clock, one step of a loop or of a spawned check,
or the end of a probe that a caller waited for. Every event is a list of acts, and what is
said of every list of acts is said of every history.
-/

namespace ServiceMesh

/-- What happens to a node at one moment. -/
inductive Act where
  /-- an operation that takes no time -/
  | call (op : Operation)
  /-- the clock of the probes is set -/
  | clock (now : Nat)
  /-- the loop of an id does what is next -/
  | loop (id : String)
  /-- a spawned check does what is next -/
  | spawned (k : SpawnedCheck)
  /-- the probe that a caller waited for ends -/
  | finish (id : String) (probe : Probe) (config : HealthConfig)

namespace Coordinator

/-- Let an act happen. An operation that takes time is not an act. -/
def act (c : Coordinator) : Act → Coordinator
  | .call op => if op.waits then c else (c.perform op).2
  | .clock now => { c with timeline := { c.timeline with now } }
  | .loop id => { c with timeline := c.timeline.stepLoop id }
  | .spawned k => { c with timeline := c.timeline.stepSpawned k }
  | .finish id probe config => { c with timeline := (c.timeline.endProbe id probe config).2 }

/-- The node after acts that happen one after the other. -/
def acted (c : Coordinator) (acts : List Act) : Coordinator := acts.foldl act c

@[simp] theorem acted_nil (c : Coordinator) : c.acted [] = c := rfl

@[simp] theorem acted_cons (c : Coordinator) (a : Act) (acts : List Act) :
    c.acted (a :: acts) = (c.act a).acted acts := rfl

theorem acted_append (c : Coordinator) (first second : List Act) :
    c.acted (first ++ second) = (c.acted first).acted second := by
  rw [acted, List.foldl_append]
  rfl

theorem act_call (c : Coordinator) {op : Operation} (atOnce : op.waits = false) :
    c.act (.call op) = (c.perform op).2 := by
  rw [act, atOnce]
  rfl

end Coordinator

/-! ## The acts of an event -/

namespace Timeline

/-- The acts of a job: the clock is set to its moment, and it is done. -/
def jobActs (t : Timeline) (w : Wake) : List Act :=
  [.clock (max t.now w.time),
    match w.job with
    | .loop id => .loop id
    | .spawned k => .spawned k]

/-- The acts of the jobs that are due before a limit, at most of a number of them. -/
def jobsFor (limit : Nat) : Nat → Timeline → List Act
  | 0, _ => []
  | fuel + 1, t =>
    match t.next? limit with
    | none => []
    | some w => t.jobActs w ++ jobsFor limit fuel (t.perform w)

/-- The acts of all jobs that are due before a limit. -/
def jobs (t : Timeline) (limit : Nat) : List Act := jobsFor limit (t.work limit) t

/-- The acts while a caller waits for a number of milliseconds. -/
def advanceActs (t : Timeline) (ms : Nat) : List Act :=
  if ms = 0 then [] else t.jobs (t.now + ms) ++ [.clock (t.now + ms)]

/-- The acts of a check that its caller waits for. -/
def checkActs (t : Timeline) (id : String) : List Act :=
  match t.checkConfig id with
  | .error _ => []
  | .ok config =>
    let (probe, t) := t.beginProbe id config
    .call (.setTarget id Target.called) ::
      (t.advanceActs (probe.ends - t.now) ++ [.finish id probe config])

/-- The acts while a caller waits for a spawned check. -/
def joinActs (t : Timeline) (handle : String) : List Act :=
  match t.result? handle with
  | some _ => []
  | none =>
    let begun := t.run (t.now + 1)
    t.jobs (t.now + 1) ++
      match (begun.spawned? handle).map SpawnedCheck.phase with
      | some (.probing probe _) => begun.jobs (probe.ends + 1)
      | _ => []

/-- The act of the spawned check with a number, if there is one. -/
def stepCheckActs (t : Timeline) (serial : Nat) : List Act :=
  match t.spawned.find? fun k => k.serial == serial with
  | none => []
  | some k => [.spawned k]

variable (c : Coordinator)

theorem acted_jobActs (w : Wake) :
    c.acted (c.timeline.jobActs w) = { c with timeline := c.timeline.perform w } := by
  unfold perform
  cases job : w.job <;> simp only [jobActs, job] <;> rfl

private theorem acted_jobsFor (limit fuel : Nat) :
    c.acted (jobsFor limit fuel c.timeline) =
      { c with timeline := runFor limit fuel c.timeline } := by
  induction fuel generalizing c with
  | zero => rfl
  | succ fuel ih =>
    unfold jobsFor runFor
    cases c.timeline.next? limit with
    | none => rfl
    | some w =>
      simp only
      rw [Coordinator.acted_append, acted_jobActs]
      exact ih { c with timeline := c.timeline.perform w }

theorem acted_jobs (limit : Nat) :
    c.acted (c.timeline.jobs limit) = { c with timeline := c.timeline.run limit } :=
  acted_jobsFor c limit _

theorem acted_advanceActs (ms : Nat) :
    c.acted (c.timeline.advanceActs ms) = { c with timeline := c.timeline.advance ms } := by
  unfold advanceActs advance
  split
  case isTrue => rfl
  case isFalse =>
    rw [Coordinator.acted_append, acted_jobs]
    rfl

theorem acted_checkActs (id : String) :
    c.acted (c.timeline.checkActs id) = { c with timeline := (c.timeline.check id).2 } := by
  unfold checkActs check
  cases c.timeline.checkConfig id with
  | error => rfl
  | ok config =>
    simp only
    rw [Coordinator.acted_cons, Coordinator.acted_append]
    have begun : c.act (.call (.setTarget id Target.called)) =
        { c with timeline := (c.timeline.beginProbe id config).2 } := rfl
    rw [begun, acted_advanceActs]
    rfl

theorem acted_joinActs (handle : String) :
    c.acted (c.timeline.joinActs handle) = { c with timeline := (c.timeline.join handle).2 } := by
  unfold joinActs join
  cases c.timeline.result? handle with
  | some => rfl
  | none =>
    simp only
    rw [Coordinator.acted_append, acted_jobs]
    have rest := acted_jobs { c with timeline := c.timeline.run (c.timeline.now + 1) }
    cases ((c.timeline.run (c.timeline.now + 1)).spawned? handle).map SpawnedCheck.phase with
    | none => rfl
    | some phase =>
      cases phase with
      | probing probe _ => exact rest (probe.ends + 1)
      | fresh | finished => rfl

private theorem acted_stepCheckActs (serial : Nat) :
    c.acted (c.timeline.stepCheckActs serial) =
      { c with timeline := c.timeline.stepCheck serial } := by
  unfold stepCheckActs stepCheck
  cases c.timeline.spawned.find? fun k => k.serial == serial <;> rfl

end Timeline

namespace Coordinator

variable {c : Coordinator}

/-- The acts of an event. -/
def acts (c : Coordinator) : Event → List Act
  | .operation (.check id) => c.timeline.checkActs id
  | .operation (.join handle) => c.timeline.joinActs handle
  | .operation (.advance ms) => c.timeline.advanceActs ms
  | .operation op => [.call op]
  | .pass ms => [.clock (c.timeline.now + ms)]
  | .loop id => [.loop id]
  | .check serial => c.timeline.stepCheckActs serial

/-- The acts of events that happen one after the other. -/
def history (c : Coordinator) : List Event → List Act
  | [] => []
  | e :: rest => c.acts e ++ (c.occur e).history rest

/-- An event is what its acts make of a node. -/
theorem acted_acts (c : Coordinator) (e : Event) : c.acted (c.acts e) = c.occur e := by
  cases e with
  | operation op =>
    cases op with
    | check id => exact Timeline.acted_checkActs c id
    | join handle => exact Timeline.acted_joinActs c handle
    | advance ms => exact Timeline.acted_advanceActs c ms
    | _ => rfl
  | pass ms => rfl
  | loop id => rfl
  | check serial => exact Timeline.acted_stepCheckActs c serial

/-- Every history is a list of acts. -/
theorem acted_history (c : Coordinator) (events : List Event) :
    c.acted (c.history events) = c.after events := by
  induction events generalizing c with
  | nil => rfl
  | cons e rest ih => rw [history, acted_append, acted_acts, ih, after_cons]

/-- An operation that takes time is no act, and does nothing as one. -/
theorem act_call_cases (c : Coordinator) (op : Operation) :
    c.act (.call op) = c ∨ Call c op (c.perform op).1 (c.act (.call op)) := by
  cases takes : op.waits with
  | true =>
    rw [act, takes]
    exact .inl rfl
  | false =>
    rw [c.act_call takes]
    exact .inr (c.perform_call takes)

/-- An act is an operation at once, or one that takes time and does nothing as an act, or a step. -/
theorem act_kinds (c : Coordinator) (a : Act) :
    (∃ op, a = .call op ∧ op.waits = false ∧ Call c op (c.perform op).1 (c.act a)) ∨
    (∃ op, a = .call op ∧ op.waits = true ∧ c.act a = c) ∨ ∀ op, a ≠ .call op := by
  by_cases called : ∃ op, a = .call op
  · obtain ⟨op, rfl⟩ := called
    cases takes : op.waits with
    | false =>
      rw [c.act_call takes]
      exact .inl ⟨op, rfl, takes, c.perform_call takes⟩
    | true =>
      rw [act, takes]
      exact .inr (.inl ⟨op, rfl, takes, rfl⟩)
  · exact .inr (.inr fun op same => called ⟨op, same⟩)

/-- An act changes a node by changes. -/
theorem act_changes (c : Coordinator) (a : Act) : Changes c (c.act a) := by
  cases a with
  | call op =>
    rcases c.act_call_cases op with same | made
    · rw [same]
    · exact .single (.call made)
  | clock now => exact .single (.beat (.aside rfl))
  | loop id => exact changes_of_beats (c.timeline.stepLoop_beats id)
  | spawned k => exact changes_of_beats (c.timeline.stepSpawned_beats k)
  | finish id probe config => exact changes_of_beats (c.timeline.endProbe_beats id probe config)

theorem acted_changes (c : Coordinator) (acts : List Act) : Changes c (c.acted acts) := by
  induction acts generalizing c with
  | nil => exact .refl
  | cons a rest ih => exact (c.act_changes a).trans (ih _)

theorem attached_act (attached : c.mesh.Attached) (a : Act) : (c.act a).mesh.Attached :=
  attached_changes (c.act_changes a) attached

/-- What no beat changes of the parts of a node is not changed by an act that is no call. -/
theorem act_leaves {α : Type} (part : Mesh → α)
    (beat : ∀ {c : Coordinator} {t : Timeline}, Beat c.timeline t → c.mesh.Attached →
      part t.mesh = part c.mesh)
    (attached : c.mesh.Attached) {a : Act} (timed : ∀ op, a ≠ .call op) :
    part (c.act a).mesh = part c.mesh := by
  have leaves : ∀ {t : Timeline}, Beats c.timeline t → part t.mesh = part c.mesh := by
    intro t beats
    induction beats with
    | refl => rfl
    | @tail middle last first b ih =>
      have next : middle.mesh.Attached := attached_changes (changes_of_beats first) attached
      exact (beat (c := { c with timeline := middle }) b next).trans ih
  cases a with
  | call op => exact absurd rfl (timed op)
  | clock => rfl
  | loop id => exact leaves (c.timeline.stepLoop_beats id)
  | spawned k => exact leaves (c.timeline.stepSpawned_beats k)
  | finish id probe config => exact leaves (c.timeline.endProbe_beats id probe config)

theorem attached_acted (attached : c.mesh.Attached) (acts : List Act) :
    (c.acted acts).mesh.Attached :=
  attached_changes (c.acted_changes acts) attached

end Coordinator

/-! ## Acts of the schedule -/

/-- Whether an act is one of the schedule: the clock moves, or a loop or a spawned check takes
a step. -/
def Act.scheduled : Act → Bool
  | .clock _ | .loop _ | .spawned _ => true
  | .call _ | .finish .. => false

namespace Coordinator

theorem scheduled_jobActs (t : Timeline) (w : Timeline.Wake) :
    ∀ a ∈ t.jobActs w, a.scheduled = true := by
  intro a listed
  rcases List.mem_cons.mp listed with rfl | job
  · rfl
  · rw [List.mem_singleton.mp job]
    cases w.job <;> rfl

theorem scheduled_jobsFor (limit fuel : Nat) (t : Timeline) :
    ∀ a ∈ Timeline.jobsFor limit fuel t, a.scheduled = true := by
  induction fuel generalizing t with
  | zero =>
    intro a listed
    exact absurd listed List.not_mem_nil
  | succ fuel ih =>
    unfold Timeline.jobsFor
    cases t.next? limit with
    | none =>
      intro a listed
      exact absurd listed List.not_mem_nil
    | some w =>
      intro a listed
      rcases List.mem_append.mp listed with own | later
      · exact scheduled_jobActs t w a own
      · exact ih _ a later

theorem scheduled_jobs (limit : Nat) (t : Timeline) :
    ∀ a ∈ t.jobs limit, a.scheduled = true :=
  scheduled_jobsFor limit _ t

theorem scheduled_advanceActs (t : Timeline) (ms : Nat) :
    ∀ a ∈ t.advanceActs ms, a.scheduled = true := by
  unfold Timeline.advanceActs
  split
  · intro a listed
    exact absurd listed List.not_mem_nil
  · intro a listed
    rcases List.mem_append.mp listed with job | last
    · exact scheduled_jobs _ t a job
    · rw [List.mem_singleton.mp last]
      rfl

theorem scheduled_joinActs (t : Timeline) (handle : String) :
    ∀ a ∈ t.joinActs handle, a.scheduled = true := by
  unfold Timeline.joinActs
  split
  · intro a listed
    exact absurd listed List.not_mem_nil
  · intro a listed
    rcases List.mem_append.mp listed with job | later
    · exact scheduled_jobs _ t a job
    · split at later
      · exact scheduled_jobs _ _ a later
      · cases later

end Coordinator

/-! ## Probes that end -/

/-- The probe that the next step of the loop of an id brings to its end, if there is one. -/
def Timeline.endingOfLoop? (t : Timeline) (id : String) : Option Coordinator.Ending :=
  match t.mesh.monitor.watches[id]? with
  | some { config, loop := some { phase := .probing probe _, .. } } => some ⟨id, probe, config⟩
  | _ => none

/-- The probe that the next step of a spawned check brings to its end, if there is one. -/
def SpawnedCheck.ending? (k : SpawnedCheck) : Option Coordinator.Ending :=
  match k.phase with
  | .probing probe config => some ⟨k.id, probe, config⟩
  | _ => none

namespace Coordinator

/-- The probe that an act brings to its end, if there is one. -/
def ending? (c : Coordinator) : Act → Option Ending
  | .loop id => c.timeline.endingOfLoop? id
  | .spawned k => k.ending?
  | .finish id probe config => some ⟨id, probe, config⟩
  | .call _ | .clock _ => none

/-- The node when a probe has ended, if there is one, and nothing else has happened. -/
def endedBy (c : Coordinator) : Option Ending → Coordinator
  | none => c
  | some e => c.ended e

theorem Untouched.refl (c : Coordinator) : c.Untouched c := ⟨rfl, fun _ => rfl, rfl⟩

theorem Untouched.trans {c next last : Coordinator} (first : c.Untouched next)
    (second : next.Untouched last) : c.Untouched last where
  records := second.records.trans first.records
  slots id := (second.slots id).trans (first.slots id)
  notices := second.notices.trans first.notices

theorem tick_untouched (c : Coordinator) (id : String) (config : HealthConfig) (due : Nat) :
    c.Untouched { c with timeline := c.timeline.tick id config due } := by
  unfold Timeline.tick
  split
  · exact ⟨rfl, fun _ => rfl, rfl⟩
  · exact ⟨rfl, fun _ => rfl, rfl⟩

/-- A step of a loop does to records, slots and notices what the end of its probe does. -/
theorem endedBy_untouched_loop (c : Coordinator) (id : String) :
    (c.endedBy (c.timeline.endingOfLoop? id)).Untouched
      { c with timeline := c.timeline.stepLoop id } := by
  unfold Timeline.stepLoop Timeline.endingOfLoop?
  cases c.timeline.mesh.monitor.watches[id]? with
  | none => exact .refl c
  | some w =>
    obtain ⟨config, loop⟩ := w
    cases loop with
    | none => exact .refl c
    | some l =>
      obtain ⟨serial, phase⟩ := l
      cases phase with
      | fresh => exact c.tick_untouched id config c.timeline.now
      | waiting due => exact c.tick_untouched id config due
      | probing probe due =>
        simp only [endedBy, ended]
        cases c.timeline.endProbe id probe config with
        | mk result t =>
          cases result with
          | ok => exact ⟨rfl, fun _ => rfl, rfl⟩
          | error e => cases e <;> exact ⟨rfl, fun _ => rfl, rfl⟩

/-- A step of a spawned check does to records, slots and notices what the end of its probe
does. -/
theorem endedBy_untouched_spawned (c : Coordinator) (k : SpawnedCheck) :
    (c.endedBy k.ending?).Untouched { c with timeline := c.timeline.stepSpawned k } := by
  unfold Timeline.stepSpawned SpawnedCheck.ending?
  cases k.phase with
  | fresh =>
    simp only
    cases c.timeline.checkConfig k.id with
    | error => exact ⟨rfl, fun _ => rfl, rfl⟩
    | ok => exact ⟨rfl, fun _ => rfl, rfl⟩
  | probing probe config => exact ⟨rfl, fun _ => rfl, rfl⟩
  | finished => exact .refl c

/-- What an act other than a call does to records, slots and notices is what the end of its
probe does to them; an act without such a probe leaves them alone. -/
theorem endedBy_untouched (c : Coordinator) {a : Act} (timed : ∀ op, a ≠ .call op) :
    (c.endedBy (c.ending? a)).Untouched (c.act a) := by
  cases a with
  | call op => exact absurd rfl (timed op)
  | clock => exact ⟨rfl, fun _ => rfl, rfl⟩
  | loop id => exact c.endedBy_untouched_loop id
  | spawned k => exact c.endedBy_untouched_spawned k
  | finish => exact .refl _

/-- No step registers or removes anyone. -/
theorem contains_step {c : Coordinator} (attached : c.mesh.Attached) {a : Act}
    (timed : ∀ op, a ≠ .call op) (other : String) :
    (c.act a).mesh.store.contains other = c.mesh.store.contains other := by
  have rest := (c.endedBy_untouched timed).records
  rw [rest]
  cases c.ending? a with
  | none => rfl
  | some e => exact contains_ended attached e other

end Coordinator

end ServiceMesh
