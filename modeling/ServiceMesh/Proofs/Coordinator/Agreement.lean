import ServiceMesh.Proofs.Coordinator.Lifetime
import ServiceMesh.Proofs.Coordinator.Stance

/-!
# Nodes that agree on a share

Whatever happens to an id or a name of a share, happens alike to two nodes that agree on the
share, and they agree on it afterwards. Whatever happens to another id or name is not seen in the
share, for a node agrees with what becomes of it.
-/

namespace ServiceMesh

variable {σ : Share}

/-! ## The parts of a node -/

/-- Two nodes agree on a share in all their parts. -/
structure Mesh.Agree (σ : Share) (m n : Mesh) : Prop where
  store : m.store.Agree σ n.store
  bank : m.bank.Agree σ n.bank
  balancer : m.balancer.Agree σ n.balancer
  monitor : m.monitor.Agree σ n.monitor

namespace Mesh.Agree

variable {m n last : Mesh} {r : Record} {id : String}

theorem refl (σ : Share) (m : Mesh) : m.Agree σ m := ⟨.refl _ _, .refl _ _, .refl _ _, .refl _ _⟩

theorem symm (h : m.Agree σ n) : n.Agree σ m :=
  ⟨h.store.symm, h.bank.symm, h.balancer.symm, h.monitor.symm⟩

theorem trans (h : m.Agree σ n) (h' : n.Agree σ last) : m.Agree σ last :=
  ⟨h.store.trans h'.store, h.bank.trans h'.bank, h.balancer.trans h'.balancer,
    h.monitor.trans h'.monitor⟩

/-! ### Checks -/

theorem verdict (h : m.Agree σ n) (own : σ.ids r.id = true) (outcome : Outcome)
    (config : HealthConfig) : m.verdict r outcome config = n.verdict r outcome config := by
  rw [Mesh.verdict, h.monitor.slots r.id own, Mesh.verdict]

theorem slotted (h : m.Agree σ n) (id : String) (slot : Slot) :
    (m.slotted id slot).Agree σ (n.slotted id slot) :=
  ⟨h.store, h.bank, h.balancer,
    h.monitor.alter (m.monitor.alters_insertSlot id slot) (n.monitor.alters_insertSlot id slot)⟩

private theorem slotted_outside (outside : σ.ids id = false) (m : Mesh) (slot : Slot) :
    m.Agree σ (m.slotted id slot) :=
  ⟨.refl _ _, .refl _ _, .refl _ _,
    .alter_outside outside (m.monitor.alters_insertSlot id slot)⟩

theorem noted (h : m.Agree σ n) (id : String) (outcome : Outcome) (time : Option Duration) :
    (m.noted id outcome time).Agree σ (n.noted id outcome time) := by
  cases time with
  | none => exact h
  | some t =>
    exact ⟨h.store.modify id _, h.bank, h.balancer, h.monitor.alter
      (m.monitor.alters_countCheck _ id) (n.monitor.alters_countCheck _ id)⟩

private theorem noted_outside (outside : σ.ids id = false) (m : Mesh) (outcome : Outcome)
    (time : Option Duration) : m.Agree σ (m.noted id outcome time) := by
  cases time with
  | none => exact .refl σ m
  | some t =>
    exact ⟨.modify_outside outside _ _, .refl _ _, .refl _ _, .of_same rfl rfl rfl rfl⟩

theorem turned (h : m.Agree σ n) (id : String) (previous current : Status) :
    (m.turned id previous current).Agree σ (n.turned id previous current) := by
  unfold Mesh.turned
  split
  · exact h
  · have same : ∀ m : Monitor,
        m.Agree σ { m with gauge := m.gauge.insert id current.selectable } := fun m =>
      .of_same rfl rfl rfl rfl
    exact ⟨h.store.modify id _, h.bank, h.balancer,
      (same _).symm.trans (h.monitor.trans (same _))⟩

private theorem turned_outside (outside : σ.ids id = false) (m : Mesh) (previous current : Status) :
    m.Agree σ (m.turned id previous current) := by
  unfold Mesh.turned
  split
  · exact .refl σ m
  · exact ⟨.modify_outside outside _ _, .refl _ _, .refl _ _, .of_same rfl rfl rfl rfl⟩

theorem checked (h : m.Agree σ n) (own : σ.ids r.id = true) (outcome : Outcome)
    (time : Option Duration) (config : HealthConfig) :
    (m.checked r outcome time config).Agree σ (n.checked r outcome time config) := by
  have slot : m.checkedSlot r outcome time config = n.checkedSlot r outcome time config := by
    rw [checkedSlot, h.verdict own, h.monitor.slots r.id own, checkedSlot]
  rw [Mesh.checked, Mesh.checked, slot, h.verdict own]
  exact ((h.slotted r.id _).noted r.id outcome time).turned r.id r.status _

theorem checked_outside (outside : σ.ids r.id = false) (m : Mesh) (outcome : Outcome)
    (time : Option Duration) (config : HealthConfig) :
    m.Agree σ (m.checked r outcome time config) :=
  ((slotted_outside outside m _).trans (noted_outside outside _ outcome time)).trans
    (turned_outside outside _ r.status _)

theorem vacated (h : m.Agree σ n) (id : String) : (m.vacated id).Agree σ (n.vacated id) :=
  ⟨h.store, h.bank, h.balancer,
    h.monitor.alter (m.monitor.alters_eraseSlot id) (n.monitor.alters_eraseSlot id)⟩

private theorem vacated_outside (outside : σ.ids id = false) (m : Mesh) :
    m.Agree σ (m.vacated id) :=
  ⟨.refl _ _, .refl _ _, .refl _ _, .alter_outside outside (m.monitor.alters_eraseSlot id)⟩

theorem applyCheck (h : m.Agree σ n) (left : m.Attached) (right : n.Attached)
    (own : σ.ids id = true) (outcome : Outcome) (time : Option Duration) (config : HealthConfig) :
    (m.applyCheck id outcome time config false).1 = (n.applyCheck id outcome time config false).1 ∧
      (m.applyCheck id outcome time config false).2.Agree σ
        (n.applyCheck id outcome time config false).2 := by
  have found := h.store.find? own
  have given := h.store.get own
  rcases left.applyCheck_eq id outcome time config with
    ⟨gone, e, failed, refused⟩ | ⟨r, there, same, applied⟩
  · rcases right.applyCheck_eq id outcome time config with
      ⟨-, e', failed', refused'⟩ | ⟨r', there', -, -⟩
    · rw [refused, refused']
      have alike : e = e' := Except.error.inj (failed.symm.trans (given.trans failed'))
      exact ⟨by rw [alike], h.vacated id⟩
    · rw [Store.contains, found, there'] at gone
      cases gone
  · rcases right.applyCheck_eq id outcome time config with
      ⟨gone', -, -, -⟩ | ⟨r', there', -, applied'⟩
    · rw [Store.contains, ← found, there] at gone'
      cases gone'
    · have alike : r = r' := Option.some.inj (there.symm.trans (found.trans there'))
      subst alike
      rw [applied, applied', h.verdict (same ▸ own)]
      exact ⟨rfl, h.checked (same ▸ own) outcome time config⟩

theorem applyCheck_outside (attached : m.Attached) (outside : σ.ids id = false) (outcome : Outcome)
    (time : Option Duration) (config : HealthConfig) :
    m.Agree σ (m.applyCheck id outcome time config false).2 := by
  rcases attached.applyCheck_eq id outcome time config with
    ⟨-, e, -, refused⟩ | ⟨r, -, rfl, applied⟩
  · rw [refused]
    exact vacated_outside outside m
  · rw [applied]
    exact checked_outside outside m outcome time config

end Mesh.Agree

/-! ## Probes and loops -/

/-- Two timelines agree on a share. Their clocks of the probes may differ. -/
structure Timeline.Agree (σ : Share) (t u : Timeline) : Prop where
  mesh : t.mesh.Agree σ u.mesh
  targets : Table.AgreeOn σ.ids t.targets u.targets
  moment : t.moment = u.moment

namespace Timeline

variable {t u v : Timeline} {id : String}

theorem targets_endProbe (t : Timeline) (id : String) (probe : Probe) (config : HealthConfig) :
    (t.endProbe id probe config).2.targets =
      if probe.timedOut then t.targets else t.targets.insert id (t.target id).answer.2 := by
  unfold endProbe
  split <;> rfl

/-- A step of a loop as the stance of its id tells it. -/
theorem stepLoop_eq (t : Timeline) (id : String) :
    t.stepLoop id =
      match t.mesh.monitor.stance? id with
      | some (config, some .fresh) => t.tick id config t.now
      | some (config, some (.waiting due)) => t.tick id config due
      | some (config, some (.probing probe due)) =>
        match (t.endProbe id probe config).1 with
        | .ok _ | .error (.timeout _) =>
          (t.endProbe id probe config).2.setPhase id (.waiting due)
        | .error _ => (t.endProbe id probe config).2.abandon id
      | _ => t := by
  unfold stepLoop Monitor.stance?
  cases t.mesh.monitor.watches[id]? with
  | none => rfl
  | some w =>
    obtain ⟨config, loop⟩ := w
    cases loop with
    | none => rfl
    | some l =>
      obtain ⟨serial, phase⟩ := l
      cases phase with
      | fresh | waiting => rfl
      | probing probe due =>
        simp only [Option.map_some]
        cases t.endProbe id probe config with
        | mk result later =>
          cases result with
          | ok => rfl
          | error e => cases e <;> rfl

/-! The clock of the probes stands still. -/

theorem now_endProbe (t : Timeline) (id : String) (probe : Probe) (config : HealthConfig) :
    (t.endProbe id probe config).2.now = t.now := by
  unfold endProbe
  split <;> rfl

theorem now_tick (t : Timeline) (id : String) (config : HealthConfig) (due : Nat) :
    (t.tick id config due).now = t.now := by
  unfold tick
  split <;> rfl

theorem now_stepLoop (t : Timeline) (id : String) : (t.stepLoop id).now = t.now := by
  rw [stepLoop_eq]
  split
  · exact t.now_tick id _ _
  · exact t.now_tick id _ _
  · split
    · exact t.now_endProbe id _ _
    · exact t.now_endProbe id _ _
    · exact t.now_endProbe id _ _
  · rfl

theorem now_stepSpawned (t : Timeline) (k : SpawnedCheck) : (t.stepSpawned k).now = t.now := by
  unfold stepSpawned
  split
  · split <;> rfl
  · exact t.now_endProbe k.id _ _
  · rfl

/-! What agreement on a share keeps. -/

namespace Agree

theorem refl (σ : Share) (t : Timeline) : t.Agree σ t := ⟨.refl _ _, .refl _ _, rfl⟩

theorem symm (h : t.Agree σ u) : u.Agree σ t := ⟨h.mesh.symm, h.targets.symm, h.moment.symm⟩

theorem trans (h : t.Agree σ u) (h' : u.Agree σ v) : t.Agree σ v :=
  ⟨h.mesh.trans h'.mesh, h.targets.trans h'.targets, h.moment.trans h'.moment⟩

theorem target (h : t.Agree σ u) (own : σ.ids id = true) : t.target id = u.target id := by
  rw [Timeline.target, h.targets id own, Timeline.target]

theorem setTarget (h : t.Agree σ u) (own : σ.ids id = true) (f : Target → Target) :
    (t.setTarget id f).Agree σ (u.setTarget id f) :=
  ⟨h.mesh, h.targets.insert fun _ => by rw [h.target own], h.moment⟩

theorem setTarget_outside (outside : σ.ids id = false) (t : Timeline) (f : Target → Target) :
    t.Agree σ (t.setTarget id f) :=
  ⟨.refl _ _, .insert_outside outside _ _, rfl⟩

theorem setMonitor (h : t.Agree σ u) {m n : Monitor} (monitors : m.Agree σ n) :
    (t.setMonitor m).Agree σ (u.setMonitor n) :=
  ⟨⟨h.mesh.store, h.mesh.bank, h.mesh.balancer, monitors⟩, h.targets, h.moment⟩

theorem setMonitor_outside (t : Timeline) {n : Monitor} (monitors : t.mesh.monitor.Agree σ n) :
    t.Agree σ (t.setMonitor n) :=
  ⟨⟨.refl _ _, .refl _ _, .refl _ _, monitors⟩, .refl _ _, rfl⟩

theorem setMoment (h : t.Agree σ u) {moment moment' : Moment} (same : moment = moment') :
    ({ t with moment } : Timeline).Agree σ { u with moment := moment' } :=
  ⟨h.mesh, h.targets, same⟩

theorem wait (h : t.Agree σ u) (ms : Nat) : (t.wait ms).Agree σ (u.wait ms) :=
  h.setMoment (congrArg (· + ms * 1_000_000) h.moment)

theorem setPhase (h : t.Agree σ u) (id : String) (phase : Phase) :
    (t.setPhase id phase).Agree σ (u.setPhase id phase) :=
  h.setMonitor (h.mesh.monitor.alter (Monitor.alters_setPhase t id phase)
    (Monitor.alters_setPhase u id phase))

theorem setPhase_outside (outside : σ.ids id = false) (t : Timeline) (phase : Phase) :
    t.Agree σ (t.setPhase id phase) :=
  setMonitor_outside t (.alter_outside outside (Monitor.alters_setPhase t id phase))

theorem abandon (h : t.Agree σ u) (id : String) : (t.abandon id).Agree σ (u.abandon id) :=
  h.setMonitor (h.mesh.monitor.alter (t.mesh.monitor.alters_eraseWatch id)
    (u.mesh.monitor.alters_eraseWatch id))

theorem abandon_outside (outside : σ.ids id = false) (t : Timeline) :
    t.Agree σ (t.abandon id) :=
  setMonitor_outside t (.alter_outside outside (t.mesh.monitor.alters_eraseWatch id))

theorem probed (h : t.Agree σ u) (probe : Probe) : (t.probed probe).Agree σ (u.probed probe) := by
  unfold Timeline.probed
  split
  · have same : ∀ m : Monitor, m.Agree σ (m.countCheck .timedOut) := fun m =>
      .of_same rfl rfl rfl rfl
    exact ⟨h.mesh.store, h.mesh.bank, h.mesh.balancer,
      (same _).symm.trans (h.mesh.monitor.trans (same _))⟩
  · exact h.mesh

theorem probed_outside (t : Timeline) (probe : Probe) : t.mesh.Agree σ (t.probed probe) := by
  unfold Timeline.probed
  split
  · exact ⟨.refl _ _, .refl _ _, .refl _ _, .of_same rfl rfl rfl rfl⟩
  · exact .refl _ _

theorem finding (h : t.Agree σ u) (own : σ.ids id = true) (probe : Probe) :
    t.finding id probe = u.finding id probe := by
  rw [Timeline.finding, h.target own, Timeline.finding]

/-- The probe of an id of the share ends alike. -/
theorem endProbe (h : t.Agree σ u) (left : t.mesh.Attached) (right : u.mesh.Attached)
    (own : σ.ids id = true) (probe : Probe) (config : HealthConfig) :
    (t.endProbe id probe config).1 = (u.endProbe id probe config).1 ∧
      (t.endProbe id probe config).2.Agree σ (u.endProbe id probe config).2 := by
  have left' : (t.probed probe).Attached :=
    Coordinator.attached_probed (c := { (default : Coordinator) with timeline := t }) left probe
  have right' : (u.probed probe).Attached :=
    Coordinator.attached_probed (c := { (default : Coordinator) with timeline := u }) right probe
  have applied := (h.probed probe).applyCheck left' right' own (t.finding id probe).1
    (t.finding id probe).2 config
  constructor
  · rw [answer_endProbe, answer_endProbe, applied.1, h.finding own]
  · constructor
    · rw [mesh_endProbe, mesh_endProbe, ← h.finding own]
      exact applied.2
    · rw [targets_endProbe, targets_endProbe, h.target own]
      split
      · exact h.targets
      · exact h.targets.insert fun _ => rfl
    · rw [moment_endProbe, moment_endProbe, h.moment]

theorem endProbe_outside (attached : t.mesh.Attached) (outside : σ.ids id = false) (probe : Probe)
    (config : HealthConfig) : t.Agree σ (t.endProbe id probe config).2 := by
  have attached' : (t.probed probe).Attached :=
    Coordinator.attached_probed (c := { (default : Coordinator) with timeline := t }) attached probe
  constructor
  · rw [mesh_endProbe]
    exact (probed_outside t probe).trans (.applyCheck_outside attached' outside _ _ config)
  · rw [targets_endProbe]
    split
    · exact .refl _ _
    · exact .insert_outside outside _ _
  · rw [moment_endProbe]

theorem tick (h : t.Agree σ u) (sameTime : t.now = u.now) (own : σ.ids id = true)
    (config : HealthConfig) (due : Nat) :
    (t.tick id config due).Agree σ (u.tick id config due) := by
  unfold Timeline.tick
  rw [h.mesh.store.contains own]
  split
  · simp only [Timeline.beginProbe, h.target own, sameTime]
    have called := (h.setTarget own Target.called).setPhase id
      (.probing (.begin u.now config.timeoutMs.toNat (u.target id).reaction)
        (nextDue config.intervalMs.toNat due u.now))
    have clock : (t.setTarget id Target.called).now = u.now := sameTime
    rw [clock]
    exact called
  · exact h.abandon id

theorem tick_outside (outside : σ.ids id = false) (t : Timeline) (config : HealthConfig)
    (due : Nat) : t.Agree σ (t.tick id config due) := by
  unfold Timeline.tick
  split
  · exact (setTarget_outside outside t Target.called).trans (setPhase_outside outside _ _)
  · exact abandon_outside outside t

/-- The loop of an id of the share does what is next alike. -/
theorem stepLoop (h : t.Agree σ u) (sameTime : t.now = u.now) (left : t.mesh.Attached)
    (right : u.mesh.Attached) (own : σ.ids id = true) :
    (t.stepLoop id).Agree σ (u.stepLoop id) := by
  rw [stepLoop_eq, stepLoop_eq, h.mesh.monitor.stances id own]
  split
  · rw [sameTime]
    exact h.tick sameTime own _ _
  · exact h.tick sameTime own _ _
  case h_3 config probe due _ =>
    obtain ⟨answer, agree⟩ := h.endProbe left right own probe config
    rw [answer]
    split
    · exact agree.setPhase id _
    · exact agree.setPhase id _
    · exact agree.abandon id
  · exact h

theorem stepLoop_outside (attached : t.mesh.Attached) (outside : σ.ids id = false) :
    t.Agree σ (t.stepLoop id) := by
  rw [stepLoop_eq]
  split
  · exact tick_outside outside t _ _
  · exact tick_outside outside t _ _
  case h_3 config probe due _ =>
    have ended := endProbe_outside attached outside probe config
    split
    · exact ended.trans (setPhase_outside outside _ _)
    · exact ended.trans (setPhase_outside outside _ _)
    · exact ended.trans (abandon_outside outside _)
  · exact .refl σ t

theorem checkConfig (h : t.Agree σ u) (own : σ.ids id = true) :
    t.checkConfig id = u.checkConfig id := by
  unfold Timeline.checkConfig
  rw [h.mesh.store.get own, h.mesh.monitor.configFor own]

theorem setSpawned (h : t.Agree σ u) (serial serial' : Nat) (phase phase' : SpawnPhase) :
    (t.setSpawned serial phase).Agree σ (u.setSpawned serial' phase') :=
  ⟨h.mesh, h.targets, h.moment⟩

/-- A spawned check of an id of the share does what is next alike. -/
theorem stepSpawned (h : t.Agree σ u) (left : t.mesh.Attached) (right : u.mesh.Attached)
    {k : SpawnedCheck} (own : σ.ids k.id = true) : (t.stepSpawned k).Agree σ (u.stepSpawned k) := by
  unfold Timeline.stepSpawned
  split
  · rw [h.checkConfig own]
    split
    · exact h.setSpawned _ _ _ _
    · exact (h.setTarget own Target.called).setSpawned _ _ _ _
  · exact (h.endProbe left right own _ _).2.setSpawned _ _ _ _
  · exact h

theorem stepSpawned_outside (attached : t.mesh.Attached) {k : SpawnedCheck}
    (outside : σ.ids k.id = false) : t.Agree σ (t.stepSpawned k) := by
  have aside : ∀ (t : Timeline) (serial : Nat) (phase : SpawnPhase),
      t.Agree σ (t.setSpawned serial phase) := fun t _ _ => ⟨.refl _ _, .refl _ _, rfl⟩
  unfold Timeline.stepSpawned
  split
  · split
    · exact aside t _ _
    · exact (setTarget_outside outside t Target.called).trans (aside _ _ _)
  · exact (endProbe_outside attached outside _ _).trans (aside _ _ _)
  · exact .refl σ t

end Agree

end Timeline

namespace Coordinator

/-- Only the clock itself is set. -/
theorem now_act (c : Coordinator) (a : Act) :
    (c.act a).timeline.now =
      match a with
      | .clock now => now
      | _ => c.timeline.now := by
  cases a with
  | call op =>
    rcases c.act_call_cases op with same | made
    · rw [same]
    · exact now_call made
  | clock => rfl
  | loop id => exact c.timeline.now_stepLoop id
  | spawned k => exact c.timeline.now_stepSpawned k
  | finish id probe config => exact c.timeline.now_endProbe id probe config

end Coordinator

end ServiceMesh
