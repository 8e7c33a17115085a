import ServiceMesh.Proofs.Coordinator.Schedule

/-!
# The probes of a session

A session is a list of operations, and its probes begin and end while operations let time pass.
They are noted here in the order in which they happen, each with the clock of the probes and with
what was found. A caller may wait in one piece or in two: the same is done and noted.
-/

namespace ServiceMesh

/-- A probe begins or ends. -/
structure Probing where
  /-- the clock of the probes -/
  time : Nat
  id : String
  probe : Probe
  /-- what the probe found, if it ends -/
  outcome? : Option Outcome
  deriving DecidableEq

namespace Timeline

/-- The probe that the next step of the loop of an id begins, if it begins one. -/
def beginningOfLoop? (t : Timeline) (id : String) : Option Probe :=
  match t.mesh.monitor.watches[id]? with
  | some { config, loop := some { phase := .fresh, .. } }
  | some { config, loop := some { phase := .waiting _, .. } } =>
    if t.mesh.store.contains id then some (t.beginProbe id config).1 else none
  | _ => none

/-- The probe that a check of an id begins, if it can begin. -/
def beginningOfCheck? (t : Timeline) (id : String) : Option Probe :=
  (t.checkConfig id).toOption.map fun config => (t.beginProbe id config).1

/-- The probe that the next step of a spawned check begins, if it begins one. -/
def beginningOfSpawned? (t : Timeline) (k : SpawnedCheck) : Option Probe :=
  match k.phase with
  | .fresh => t.beginningOfCheck? k.id
  | _ => none

end Timeline

namespace Coordinator

variable {c : Coordinator}

/-- The probe of an id that begins now. -/
def begins (c : Coordinator) (id : String) (probe : Probe) : Probing :=
  { time := c.timeline.now, id, probe, outcome? := none }

/-- The probe that ends now. -/
def ends (c : Coordinator) (e : Ending) : Probing :=
  { time := c.timeline.now, id := e.id, probe := e.probe, outcome? := some (c.finding e).1 }

/-- The probe that an act begins or ends, if there is one. -/
def probing? (c : Coordinator) : Act → Option Probing
  | .loop id =>
    ((c.timeline.beginningOfLoop? id).map (c.begins id)).or
      ((c.timeline.endingOfLoop? id).map c.ends)
  | .spawned k =>
    ((c.timeline.beginningOfSpawned? k).map (c.begins k.id)).or (k.ending?.map c.ends)
  | .finish id probe config => some (c.ends ⟨id, probe, config⟩)
  | .call _ | .clock _ => none

/-- The probes that acts begin and end. -/
def probings (c : Coordinator) : List Act → List Probing
  | [] => []
  | a :: rest => (c.probing? a).toList ++ (c.act a).probings rest

/-- The probe that an operation begins at once, as a check does that can begin. -/
def beginning? (c : Coordinator) : Operation → Option Probing
  | .check id => (c.timeline.beginningOfCheck? id).map (c.begins id)
  | _ => none

/-- The probes that begin and end in a session. -/
def session (c : Coordinator) : List Operation → List Probing
  | [] => []
  | op :: rest =>
    (c.beginning? op).toList ++ c.probings (c.acts (.operation op)) ++
      (c.perform op).2.session rest

theorem probings_append (c : Coordinator) (first second : List Act) :
    c.probings (first ++ second) = c.probings first ++ (c.acted first).probings second := by
  induction first generalizing c with
  | nil => rfl
  | cons a rest ih => rw [List.cons_append, probings, ih, probings, List.append_assoc, acted_cons]

theorem session_append (c : Coordinator) (first second : List Operation) :
    c.session (first ++ second) = c.session first ++ (c.run first).session second := by
  induction first generalizing c with
  | nil => rfl
  | cons op rest ih =>
    rw [List.cons_append, session, ih, session, List.append_assoc _ _ (session _ second), run_cons]

theorem session_cons (c : Coordinator) (op : Operation) (rest : List Operation) :
    c.session (op :: rest) = c.session [op] ++ (c.perform op).2.session rest :=
  c.session_append [op] rest

theorem session_singleton (c : Coordinator) (op : Operation) :
    c.session [op] = (c.beginning? op).toList ++ c.probings (c.acts (.operation op)) :=
  List.append_nil _

theorem acted_operation (c : Coordinator) (op : Operation) :
    c.acted (c.acts (.operation op)) = (c.perform op).2 :=
  c.acted_acts (.operation op)

/-! ## Waiting -/

theorem perform_advance (c : Coordinator) {ms : Nat} (pos : ms ≠ 0) :
    (c.perform (.advance ms)).2 =
      (c.ran (c.timeline.now + ms)).setClock (c.timeline.now + ms) := by
  change { c with timeline := c.timeline.advance ms } = _
  rw [Timeline.advance, if_neg pos]
  rfl

theorem session_advance (c : Coordinator) {ms : Nat} (pos : ms ≠ 0) :
    c.session [.advance ms] = c.probings (c.timeline.jobs (c.timeline.now + ms)) := by
  change [] ++ c.probings (c.timeline.advanceActs ms) ++ [] = _
  rw [Timeline.advanceActs, if_neg pos, probings_append, List.nil_append, List.append_nil]
  exact List.append_nil _

/-- The clock need not be set before the jobs of a run. -/
theorem probings_setClock (orderly : c.Orderly) (now limit : Nat) :
    c.probings ((c.setClock now).timeline.jobs limit) =
      (c.setClock now).probings ((c.setClock now).timeline.jobs limit) ∧
    (c.acted ((c.setClock now).timeline.jobs limit)).setClock limit =
      ((c.setClock now).ran limit).setClock limit := by
  have set : (c.setClock now).Orderly := orderly.act (.clock now)
  rw [← acted_jobs]
  cases next : (c.setClock now).timeline.next? limit with
  | none =>
    rw [(ran_of_none set next).1]
    exact ⟨rfl, rfl⟩
  | some w =>
    rw [(ran_of_some set next).1]
    exact ⟨rfl, rfl⟩

/-- Waiting twice is waiting once for both times. -/
theorem wait_twice (orderly : c.Orderly) (first second : Nat) :
    (c.run [.advance first, .advance second] = c.run [.advance (first + second)]) ∧
      c.session [.advance first, .advance second] = c.session [.advance (first + second)] := by
  by_cases still : first = 0
  · subst still
    rw [Nat.zero_add]
    exact ⟨rfl, rfl⟩
  by_cases still' : second = 0
  · subst still'
    rw [Nat.add_zero]
    refine ⟨rfl, ?_⟩
    exact (c.session_append [.advance first] [.advance 0]).trans (List.append_nil _)
  have both : first + second ≠ 0 := by omega
  have goes : c.timeline.now < c.timeline.now + first := by omega
  have le : c.timeline.now + first ≤ c.timeline.now + (first + second) := by omega
  have reached : Orderly (c.ran (c.timeline.now + first)) := c.acted_jobs _ ▸ orderly.acted _
  have split := jobs_split orderly goes le
  obtain ⟨seen, ends⟩ := probings_setClock reached (c.timeline.now + first)
    (c.timeline.now + (first + second))
  have until' : c.timeline.now + first + second = c.timeline.now + (first + second) := by omega
  constructor
  · rw [run_cons, run_cons, run_cons, run_nil, run_nil, perform_advance c still,
      perform_advance c both, perform_advance _ still', ← c.acted_jobs (_ + (_ + _)), split,
      acted_append, acted_jobs, ends]
    change ((_ : Coordinator).ran (c.timeline.now + first + second)).setClock
      (c.timeline.now + first + second) = _
    rw [until']
  · have parts := session_append c [.advance first] [.advance second]
    rw [List.singleton_append] at parts
    rw [parts, session_advance c still, session_advance c both, split, probings_append, acted_jobs,
      seen, run_cons, run_nil, perform_advance c still, session_advance _ still']
    change _ ++ Coordinator.probings _ (Timeline.jobs _ (c.timeline.now + first + second)) = _
    rw [until']

/-- A check that its caller waits for begins its probe, waits for the moment it ends, and ends
it. -/
theorem wait_for_check {id : String} {config : HealthConfig} {probe : Probe}
    {begun next : Coordinator} (accepted : c.timeline.checkConfig id = .ok config)
    (probes : (c.timeline.beginProbe id config).1 = probe)
    (begins : (c.perform (.setTarget id Target.called)).2 = begun)
    (waited : (begun.perform (.advance (probe.ends - c.timeline.now))).2 = next) :
    c.probings (c.timeline.checkActs id) =
      begun.session [.advance (probe.ends - c.timeline.now)] ++
        (next.probing? (.finish id probe config)).toList ∧
    c.acted (c.timeline.checkActs id) = next.act (.finish id probe config) := by
  have acts : c.timeline.checkActs id =
      .call (.setTarget id Target.called) ::
        (begun.timeline.advanceActs (probe.ends - c.timeline.now) ++
          [.finish id probe config]) := by
    rw [Timeline.checkActs, accepted, ← begins, ← probes]
    rfl
  have called : c.act (.call (.setTarget id Target.called)) = begun := begins
  have seen : begun.session [.advance (probe.ends - c.timeline.now)] =
      begun.probings (begun.timeline.advanceActs (probe.ends - c.timeline.now)) :=
    begun.session_singleton _
  have waits : begun.acted (begun.timeline.advanceActs (probe.ends - c.timeline.now)) = next :=
    (begun.acted_operation _).trans waited
  have ended : next.probings [.finish id probe config] =
      (next.probing? (.finish id probe config)).toList := List.append_nil _
  rw [acts]
  constructor
  · rw [probings, called, probings_append, waits, seen, ended]
    rfl
  · rw [acted_cons, called, acted_append, waits]
    rfl

/-- Waiting for a probe of a spawned check is waiting for the moment it ends, and for the jobs of
that moment. -/
theorem wait_for_probe (orderly : c.Orderly) {k : SpawnedCheck} {probe : Probe}
    {config : HealthConfig} {next : Coordinator} (there : k ∈ c.timeline.spawned)
    (phase : k.phase = .probing probe config) (goes : c.timeline.now < probe.ends)
    (waited : next = (c.perform (.advance (probe.ends - c.timeline.now))).2) :
    c.probings (c.timeline.jobs (probe.ends + 1)) =
      c.session [.advance (probe.ends - c.timeline.now)] ++
        next.probings (next.timeline.jobs (probe.ends + 1)) ∧
    c.ran (probe.ends + 1) = next.ran (probe.ends + 1) := by
  have pos : probe.ends - c.timeline.now ≠ 0 := by omega
  have until' : c.timeline.now + (probe.ends - c.timeline.now) = probe.ends := by omega
  have split := jobs_split orderly goes (Nat.le_succ _)
  have reached : Orderly (c.ran probe.ends) := c.acted_jobs _ ▸ orderly.acted _
  have set : ((c.ran probe.ends).setClock probe.ends).Orderly := reached.act (.clock probe.ends)
  -- the probe has not ended before its moment, so there is a job that sets the clock
  have member : k ∈ (c.ran probe.ends).timeline.spawned :=
    probing_ran orderly there phase (Nat.le_refl _)
  have busy : ((c.ran probe.ends).setClock probe.ends).timeline.next? (probe.ends + 1) ≠ none := by
    intro idle
    have wake : Timeline.spawnWake? ((c.ran probe.ends).setClock probe.ends).timeline k =
        Option.some ⟨probe.ends, k.serial, .spawned k⟩ := by
      rw [Timeline.spawnWake?, Timeline.wakeOfSpawned?, phase]
      rfl
    have late := Timeline.le_of_next?_eq_none idle
      (Timeline.mem_wakes_iff.mpr (.inr ⟨k, member, wake⟩))
    exact absurd late (Nat.not_succ_le_self _)
  obtain ⟨w, next?⟩ := Option.ne_none_iff_exists'.mp busy
  rw [waited, perform_advance c pos, session_advance c pos, until']
  constructor
  · rw [split, probings_append, acted_jobs]
    exact congrArg _ (probings_setClock reached probe.ends _).1
  · rw [← acted_jobs, split, acted_append, acted_jobs, ← acted_jobs _ (probe.ends + 1),
      (ran_of_some set next?).1]
    rfl

end Coordinator

end ServiceMesh
