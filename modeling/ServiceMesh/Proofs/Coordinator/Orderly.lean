import Mathlib.Data.List.Nodup
import ServiceMesh.Proofs.Config.Rules
import ServiceMesh.Proofs.Coordinator.Agreement
import ServiceMesh.Proofs.Coordinator.Posts

/-!
# Orderly nodes

A node does its jobs in an order that its tables decide. What the order rests on is said here and
kept by every act: watched ids are registered and are probed at intervals that are not empty, and
spawned checks have the numbers of the order in which they were begun. In such a node a step of
a loop is a step of its phase and nothing else, and no loop is abandoned.
-/

namespace ServiceMesh

/-! ## Intervals -/

namespace HealthConfig

theorem interval_pos_of_check {config : HealthConfig} (accepted : config.check = .ok ()) :
    0 < config.intervalMs.toNat := by
  have differ : config.intervalMs ≠ 0 := fun zero =>
    check_eq_ok_iff.mp accepted _ (.interval zero)
  exact Nat.pos_of_ne_zero fun zero => differ (UInt64.toNat_inj.mp zero)

end HealthConfig

/-- A probe is due later than the one before it. -/
theorem lt_nextDue {interval due now : Nat} (paced : 0 < interval) :
    due < nextDue interval due now := by
  unfold nextDue
  split <;> omega

namespace Monitor

/-- Every watched id is probed at an interval that is not empty. -/
def Paced (m : Monitor) : Prop :=
  ∀ id config, m.settings? id = some config → 0 < config.intervalMs.toNat

variable {m next : Monitor} {id : String}

theorem Paced.of_settings (h : m.Paced) (settings : ∀ id, next.settings? id = m.settings? id) :
    next.Paced := by
  intro id config watched
  rw [settings] at watched
  exact h id config watched

theorem Paced.erase (h : m.Paced) (watches : next.watches = m.watches.erase id) : next.Paced := by
  intro other config watched
  by_cases same : id = other
  · subst same
    rw [settings?_erase_self watches] at watched
    cases watched
  · rw [settings?_erase_ne same watches] at watched
    exact h other config watched

theorem Paced.drop (h : m.Paced) (id : String) : (m.drop id).Paced :=
  (h.of_settings (m.settings?_endLoop id)).erase rfl

theorem Paced.watch (h : m.Paced) {store : Store} {config : HealthConfig}
    (done : m.watch store id config = .ok next) : next.Paced := by
  rw [watch_eq_bind] at done
  obtain ⟨-, -, done⟩ := Failure.bind_eq_ok_iff.mp done
  obtain ⟨⟨⟩, accepted, done⟩ := Failure.bind_eq_ok_iff.mp done
  split at done
  case isFalse => cases done
  case isTrue =>
    cases done
    intro other config' watched
    by_cases same : id = other
    · subst same
      rw [settings?_rewatched_self] at watched
      cases watched
      exact HealthConfig.interval_pos_of_check accepted
    · rw [settings?_rewatched_ne m same] at watched
      exact h other config' watched

end Monitor

/-! ## What probes leave alone -/

namespace Coordinator

variable {c next : Coordinator} {id : String}

private theorem watches_ended (attached : c.mesh.Attached) (e : Ending) :
    (c.ended e).mesh.monitor.watches = c.mesh.monitor.watches := by
  have probed : (c.timeline.probed e.probe).monitor.watches = c.mesh.monitor.watches := by
    unfold Timeline.probed
    split <;> rfl
  rcases mesh_ended_cases attached e with ⟨-, vacated⟩ | ⟨r, -, -, checked⟩
  · rw [vacated]
    exact probed
  · rw [checked, Mesh.watches_checked]
    exact probed

private theorem begun_ended (attached : c.mesh.Attached) (e : Ending) :
    (c.ended e).mesh.monitor.begun = c.mesh.monitor.begun := by
  have probed : (c.timeline.probed e.probe).monitor.begun = c.mesh.monitor.begun := by
    unfold Timeline.probed
    split <;> rfl
  rcases mesh_ended_cases attached e with ⟨-, vacated⟩ | ⟨r, -, -, checked⟩
  · rw [vacated]
    exact probed
  · rw [checked, Mesh.begun_checked]
    exact probed

/-- A probe of a registered instance gives it a status or has timed out. -/
theorem answer_of_contains (attached : c.mesh.Attached) {e : Ending}
    (there : c.mesh.store.contains e.id = true) :
    (∃ status, (c.timeline.endProbe e.id e.probe e.config).1 = .ok status) ∨
      (c.timeline.endProbe e.id e.probe e.config).1 = .error (.timeout e.config.timeout) := by
  rw [Timeline.answer_endProbe]
  rcases (attached_probed attached e.probe).applyCheck_eq e.id (c.timeline.finding e.id e.probe).1
      (c.timeline.finding e.id e.probe).2 e.config with ⟨gone, -⟩ | ⟨r, -, -, applied⟩
  · rw [probed_store] at gone
    cases there.symm.trans gone
  · rw [applied]
    simp only [Option.elim_some]
    split
    · exact .inr rfl
    · exact .inl ⟨_, rfl⟩

end Coordinator

namespace Timeline

variable {t : Timeline} {id : String}

theorem watches_endProbe (attached : t.mesh.Attached) (id : String) (probe : Probe)
    (config : HealthConfig) :
    (t.endProbe id probe config).2.mesh.monitor.watches = t.mesh.monitor.watches :=
  Coordinator.watches_ended (c := { (default : Coordinator) with timeline := t }) attached
    ⟨id, probe, config⟩

theorem begun_endProbe (attached : t.mesh.Attached) (id : String) (probe : Probe)
    (config : HealthConfig) :
    (t.endProbe id probe config).2.mesh.monitor.begun = t.mesh.monitor.begun :=
  Coordinator.begun_ended (c := { (default : Coordinator) with timeline := t }) attached
    ⟨id, probe, config⟩

theorem spawned_endProbe (t : Timeline) (id : String) (probe : Probe) (config : HealthConfig) :
    (t.endProbe id probe config).2.spawned = t.spawned := by
  unfold endProbe
  split <;> rfl

/-! ## A step of a loop -/

/-- Where a loop of an id stands after its next step. -/
def nextPhase (t : Timeline) (id : String) (config : HealthConfig) : Phase → Phase
  | .fresh =>
    .probing (t.beginProbe id config).1 (nextDue config.intervalMs.toNat t.now t.now)
  | .waiting due => .probing (t.beginProbe id config).1 (nextDue config.intervalMs.toNat due t.now)
  | .probing _ due => .waiting due

/-- The watch of an id after the next step of its loop. -/
def stepped (t : Timeline) (id : String) (w : Watch) : Watch :=
  { w with loop := w.loop.map fun l => { l with phase := t.nextPhase id w.config l.phase } }

theorem contains_of_watched (attached : t.mesh.Attached) {w : Watch}
    (watched : t.mesh.monitor.watches[id]? = some w) : t.mesh.store.contains id = true :=
  attached.monitor.slotted id (attached.monitor.watched id (Option.isSome_of_eq_some watched))

/-- A step of a loop that stands somewhere is a step of its phase, after its probe has ended or
begun. -/
theorem stepLoop_of_watched (attached : t.mesh.Attached) {config : HealthConfig} {l : Loop}
    (watched : t.mesh.monitor.watches[id]? = some { config, loop := some l }) :
    t.stepLoop id =
      (match l.phase with
        | .fresh | .waiting _ => (t.beginProbe id config).2
        | .probing probe _ => (t.endProbe id probe config).2).setPhase id
          (t.nextPhase id config l.phase) := by
  have there := contains_of_watched attached watched
  unfold stepLoop
  simp only [watched]
  obtain ⟨serial, phase⟩ := l
  cases phase with
  | fresh =>
    simp only [tick, if_pos there]
    rfl
  | waiting due =>
    simp only [tick, if_pos there]
    rfl
  | probing probe due =>
    have answer := Coordinator.answer_of_contains
      (c := { (default : Coordinator) with timeline := t }) (e := ⟨id, probe, config⟩) attached
      there
    simp only at answer ⊢
    generalize t.endProbe id probe config = ended at answer ⊢
    obtain ⟨result, later⟩ := ended
    rcases answer with ⟨status, given⟩ | late
    · cases given
      rfl
    · cases late
      rfl

theorem stepLoop_of_idle
    (idle : ∀ config l, t.mesh.monitor.watches[id]? ≠ some { config, loop := some l }) :
    t.stepLoop id = t := by
  unfold stepLoop
  split
  case h_1 config l watched => exact absurd watched (idle config l)
  case h_2 => rfl

theorem getElem?_watches_setPhase (t : Timeline) (id other : String) (phase : Phase) :
    (t.setPhase id phase).mesh.monitor.watches[other]? =
      if id = other then
        (t.mesh.monitor.watches[other]?).map fun w =>
          { w with loop := w.loop.map fun l => { l with phase } }
      else t.mesh.monitor.watches[other]? := by
  change (t.mesh.monitor.watches.update id _)[other]? = _
  by_cases same : id = other
  · subst same
    rw [if_pos rfl, Table.getElem?_update_self]
  · rw [if_neg same, Table.getElem?_update_ne _ same]

/-- A step of a loop is seen in one watch only. -/
theorem getElem?_watches_stepLoop (attached : t.mesh.Attached) (id other : String) :
    (t.stepLoop id).mesh.monitor.watches[other]? =
      if id = other then (t.mesh.monitor.watches[other]?).map (t.stepped id)
      else t.mesh.monitor.watches[other]? := by
  by_cases stands : ∃ config l, t.mesh.monitor.watches[id]? = some { config, loop := some l }
  · obtain ⟨config, l, watched⟩ := stands
    rw [stepLoop_of_watched attached watched, getElem?_watches_setPhase]
    have kept : (match l.phase with
        | .fresh | .waiting _ => (t.beginProbe id config).2
        | .probing probe _ => (t.endProbe id probe config).2).mesh.monitor.watches =
        t.mesh.monitor.watches := by
      split
      · rfl
      · rfl
      · exact watches_endProbe attached id _ config
    rw [kept]
    split
    case isTrue same =>
      subst same
      rw [watched]
      rfl
    case isFalse => rfl
  · have idle : ∀ config l, t.mesh.monitor.watches[id]? ≠ some { config, loop := some l } :=
      fun config l watched => stands ⟨config, l, watched⟩
    rw [stepLoop_of_idle idle]
    split
    case isTrue same =>
      subst same
      cases watched : t.mesh.monitor.watches[id]? with
      | none => rfl
      | some w =>
        obtain ⟨config, loop⟩ := w
        cases loop with
        | none => rfl
        | some l => exact absurd watched (idle config l)
    case isFalse => rfl

theorem begun_stepLoop (attached : t.mesh.Attached) (id : String) :
    (t.stepLoop id).mesh.monitor.begun = t.mesh.monitor.begun := by
  by_cases stands : ∃ config l, t.mesh.monitor.watches[id]? = some { config, loop := some l }
  · obtain ⟨config, l, watched⟩ := stands
    rw [stepLoop_of_watched attached watched]
    change (match l.phase with
        | .fresh | .waiting _ => (t.beginProbe id config).2
        | .probing probe _ => (t.endProbe id probe config).2).mesh.monitor.begun = _
    split
    · rfl
    · rfl
    · exact begun_endProbe attached id _ config
  · rw [stepLoop_of_idle fun config l watched => stands ⟨config, l, watched⟩]

theorem spawned_stepLoop (t : Timeline) (id : String) : (t.stepLoop id).spawned = t.spawned := by
  have ticked : ∀ config due, (t.tick id config due).spawned = t.spawned := by
    intro config due
    unfold tick
    split <;> rfl
  rw [stepLoop_eq]
  split
  · exact ticked _ _
  · exact ticked _ _
  · split
    · exact t.spawned_endProbe id _ _
    · exact t.spawned_endProbe id _ _
    · exact t.spawned_endProbe id _ _
  · rfl

/-! ## A step of a spawned check -/

/-- Where a spawned check stands after its next step. -/
def nextSpawnPhase (t : Timeline) (k : SpawnedCheck) : SpawnPhase :=
  match k.phase with
  | .fresh =>
    match t.checkConfig k.id with
    | .error e => .finished (.error e)
    | .ok config => .probing (t.beginProbe k.id config).1 config
  | .probing probe config => .finished (t.endProbe k.id probe config).1
  | .finished result => .finished result

theorem spawned_stepSpawned (t : Timeline) {k : SpawnedCheck}
    (open' : ∀ result, k.phase ≠ .finished result) :
    (t.stepSpawned k).spawned = (t.setSpawned k.serial (t.nextSpawnPhase k)).spawned := by
  unfold stepSpawned nextSpawnPhase
  obtain ⟨handle, serial, id, phase⟩ := k
  cases phase with
  | fresh =>
    simp only
    cases t.checkConfig id <;> rfl
  | probing probe config =>
    exact congrArg (List.map _) (t.spawned_endProbe id probe config)
  | finished result => exact absurd rfl (open' result)

theorem watches_stepSpawned (attached : t.mesh.Attached) (k : SpawnedCheck) :
    (t.stepSpawned k).mesh.monitor.watches = t.mesh.monitor.watches := by
  unfold stepSpawned
  split
  · split <;> rfl
  · exact watches_endProbe attached k.id _ _
  · rfl

theorem begun_stepSpawned (attached : t.mesh.Attached) (k : SpawnedCheck) :
    (t.stepSpawned k).mesh.monitor.begun = t.mesh.monitor.begun := by
  unfold stepSpawned
  split
  · split <;> rfl
  · exact begun_endProbe attached k.id _ _
  · rfl

end Timeline

/-- Spawned checks with ascending numbers are told apart by them. -/
theorem SpawnedCheck.eq_of_serial {checks : List SpawnedCheck}
    (ascend : (checks.map SpawnedCheck.serial).Pairwise (· < ·)) {j k : SpawnedCheck}
    (hj : j ∈ checks) (hk : k ∈ checks) (same : j.serial = k.serial) : j = k := by
  have distinct : (checks.map SpawnedCheck.serial).Nodup := ascend.imp fun less => less.ne
  exact List.inj_on_of_nodup_map distinct hj hk same

/-! ## Orderly nodes -/

namespace Coordinator

variable {c next : Coordinator}

theorem paced_call {op : Operation} {answer : Answer} (made : Call c op answer next)
    (paced : c.mesh.monitor.Paced) : next.mesh.monitor.Paced := by
  cases made with
  | unregister => exact (paced.drop _).of_settings fun _ => rfl
  | watch done => exact paced.watch done
  | unwatch => exact paced.drop _
  | configure health balancer => cases health <;> cases balancer <;> exact paced
  | start => exact paced.of_settings c.mesh.monitor.settings?_run
  | stop => exact paced.of_settings c.mesh.monitor.settings?_halt
  | refused | register | setMetadata | spawn | select | report | readBreaker | resetBreaker
  | startAgain | stopAgain | listenHealth | listenServices | setTarget | wait => exact paced

theorem paced_beat {t : Timeline} (b : Beat c.timeline t) (paced : c.mesh.monitor.Paced) :
    t.mesh.monitor.Paced := by
  cases b with
  | aside same => exact same ▸ paced
  | setPhase id phase =>
    exact paced.of_settings (Monitor.Level.setPhase c.timeline id phase).settings
  | abandon => exact paced.erase rfl
  | count => exact paced
  | apply id outcome time config =>
    exact paced.of_settings (Monitor.Level.applyCheck c.mesh id outcome time config false).settings

theorem paced_changes (chain : Changes c next) (paced : c.mesh.monitor.Paced) :
    next.mesh.monitor.Paced := by
  have step : ∀ middle last, Change middle last → middle.mesh.monitor.Paced →
      last.mesh.monitor.Paced := by
    intro middle last change paced
    cases change with
    | call made => exact paced_call made paced
    | beat b => exact paced_beat b paced
  exact changes_preserve step chain paced

theorem spawned_call {op : Operation} {answer : Answer} (made : Call c op answer next)
    (other : ∀ handle id, op ≠ .spawn handle id) :
    next.timeline.spawned = c.timeline.spawned := by
  cases made with
  | spawn handle id => exact absurd rfl (other handle id)
  | _ => rfl

/-- The numbers of the spawned checks. -/
def serials (c : Coordinator) : List Nat := c.timeline.spawned.map SpawnedCheck.serial

theorem serials_setSpawned (t : Timeline) (serial : Nat) (phase : SpawnPhase) :
    (t.setSpawned serial phase).spawned.map SpawnedCheck.serial =
      t.spawned.map SpawnedCheck.serial := by
  rw [Timeline.setSpawned, List.map_map]
  apply List.map_congr_left
  intro k _
  rw [Function.comp_apply]
  split <;> rfl

/-- An act leaves the numbers of the spawned checks alone, or adds the next number. -/
theorem serials_act (c : Coordinator) (a : Act) :
    (c.act a).serials = c.serials ∨
      (c.act a).serials = c.serials ++ [c.mesh.monitor.begun] ∧
        (c.act a).mesh.monitor.begun = c.mesh.monitor.begun + 1 := by
  cases a with
  | call op =>
    by_cases spawns : ∃ handle id, op = .spawn handle id
    · obtain ⟨handle, id, rfl⟩ := spawns
      exact .inr ⟨List.map_append, rfl⟩
    · have other : ∀ handle id, op ≠ .spawn handle id :=
        fun handle id same => spawns ⟨handle, id, same⟩
      rcases c.act_call_cases op with same | made
      · exact .inl (congrArg serials same)
      · exact .inl (congrArg (List.map _) (spawned_call made other))
  | clock => exact .inl rfl
  | loop id => exact .inl (congrArg (List.map _) (c.timeline.spawned_stepLoop id))
  | spawned k =>
    by_cases done : ∃ result, k.phase = .finished result
    · obtain ⟨result, phase⟩ := done
      rw [act, Timeline.stepSpawned, phase]
      exact .inl rfl
    · have unfinished : ∀ result, k.phase ≠ .finished result :=
        fun result same => done ⟨result, same⟩
      rw [serials, act, c.timeline.spawned_stepSpawned unfinished, serials_setSpawned]
      exact .inl rfl
  | finish id probe config =>
    exact .inl (congrArg (List.map _) (c.timeline.spawned_endProbe id probe config))

/-- What the order of the jobs of a node rests on. -/
structure Orderly (c : Coordinator) : Prop where
  attached : c.mesh.Attached
  paced : c.mesh.monitor.Paced
  ascend : c.serials.Pairwise (· < ·)
  numbered : ∀ serial ∈ c.serials, serial < c.mesh.monitor.begun

/-- Every act keeps a node orderly. -/
theorem Orderly.act (orderly : c.Orderly) (a : Act) : (c.act a).Orderly := by
  have changes := c.act_changes a
  have attached := attached_changes changes orderly.attached
  have paced := paced_changes changes orderly.paced
  rcases c.serials_act a with same | ⟨more, begun⟩
  · refine ⟨attached, paced, same ▸ orderly.ascend, ?_⟩
    intro serial member
    rw [same] at member
    have grown := (ages_changes changes orderly.attached).begun
    exact (orderly.numbered serial member).trans_le grown
  · refine ⟨attached, paced, ?_, ?_⟩
    · rw [more, List.pairwise_append]
      refine ⟨orderly.ascend, List.pairwise_singleton _ _, ?_⟩
      intro serial member new here
      rw [List.mem_singleton.mp here]
      exact orderly.numbered serial member
    · intro serial member
      rw [more, List.mem_append, List.mem_singleton] at member
      rw [begun]
      rcases member with old | rfl
      · exact Nat.lt_succ_of_lt (orderly.numbered serial old)
      · exact Nat.lt_succ_self _

theorem Orderly.acted (orderly : c.Orderly) (acts : List Act) : (c.acted acts).Orderly := by
  induction acts generalizing c with
  | nil => exact orderly
  | cons a rest ih => exact ih (orderly.act a)

theorem Orderly.perform (orderly : c.Orderly) (op : Operation) : (c.perform op).2.Orderly := by
  have acted := orderly.acted (c.acts (.operation op))
  rwa [acted_acts] at acted

theorem orderly_fresh (config : Config) : (fresh config).Orderly where
  attached := attached_fresh config
  paced id config watched := by cases watched
  ascend := .nil
  numbered serial member := by cases member

end Coordinator

end ServiceMesh
