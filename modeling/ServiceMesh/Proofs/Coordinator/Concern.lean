import ServiceMesh.Proofs.Coordinator.Agreement

/-!
# What concerns a share

An operation concerns a share if its id or its name is in the share, or if it concerns every
instance. Nodes that agree on a share answer the operations that concern it alike. An operation
that does not concern it is not seen in it.
-/

namespace ServiceMesh

variable {σ : Share}

/-! ## What concerns a share -/

/-- Whether an operation concerns a share. The lifecycle, the configuration, the subscribers and
the clocks concern every share. -/
def Operation.concerns (σ : Share) : Operation → Bool
  | .register r => σ.ids r.id
  | .unregister id | .setMetadata id _ | .watch id _ | .unwatch id | .check id | .spawn _ id
  | .report id _ _ | .readBreaker id | .resetBreaker id | .setTarget id _ => σ.ids id
  | .select name _ _ => σ.names name
  | .join _ | .configure .. | .start | .startOutside | .stop | .listenHealth _
  | .listenServices _ | .advance _ | .wait _ => true

/-- Whether an act concerns a share. -/
def Act.concerns (σ : Share) : Act → Bool
  | .call op => op.concerns σ
  | .clock _ => true
  | .loop id => σ.ids id
  | .spawned k => σ.ids k.id
  | .finish id _ _ => σ.ids id

namespace Coordinator

variable {c d e : Coordinator} {id : String}

/-- Who is listed under a name is one of its members. -/
theorem member_of_listed (attached : c.mesh.Attached) {name : String}
    (listed : id ∈ c.mesh.store.names[name]?.getD []) :
    ∃ r ∈ c.mesh.store.members name, r.id = id := by
  obtain ⟨l, represents⟩ := attached.store
  rw [represents.idsOf?, Roster.getD_idsOf?] at listed
  rw [represents.members_eq]
  exact List.mem_map.mp listed

private theorem report_of_error {e : Failure} (refused : c.mesh.store.get id = .error e)
    (time : Duration) (success : Bool) : c.report id time success = (.error e, c) := by
  simp only [report, Mesh.report, Balancer.report, refused]
  rfl

private theorem report_of_unknown {r : Record} {e : Failure} (got : c.mesh.store.get id = .ok r)
    (unknown : c.mesh.bank.get id = .error e) (time : Duration) (success : Bool) :
    c.report id time success = (.error e, c) := by
  simp only [report, Mesh.report, Balancer.report, Bank.report, got, unknown]
  rfl

private theorem report_of_known {r : Record} {x : Breaker} (got : c.mesh.store.get id = .ok r)
    (known : c.mesh.bank.get id = .ok x) (time : Duration) (success : Bool) :
    c.report id time success = (.ok (), c.setMesh (c.mesh.reported r id time success
      (c.mesh.bank.put id x (x.record success time c.timeline.moment)))) := by
  have counted : c.mesh.bank.report id success time c.timeline.moment =
      .ok ((x.record success time c.timeline.moment).state,
        c.mesh.bank.put id x (x.record success time c.timeline.moment)) := by
    rw [Bank.report, known]
    rfl
  have there : c.mesh.store.contains id = true := Option.isSome_of_eq_some (Store.find?_of_get got)
  simp only [report, Mesh.report, Balancer.report, got, counted, Store.setResponse, if_pos there]
  rfl

private theorem configure_of_check {health : Option HealthConfig} {balancer : Option BalancerConfig}
    (accepted : checkSections health balancer = .ok ()) :
    c.configure health balancer = (.ok (), c.setMesh (configured c.mesh health balancer)) := by
  rcases c.configure_eq health balancer with ⟨e, refused⟩ | taken
  · obtain ⟨healthy, balanced⟩ := check_of_checkSections accepted
    simp only [configure, accepted, setHealth_of_check _ healthy,
      setBalancer_of_check _ balanced] at refused
    cases refused
  · exact taken

/-- A removal that succeeds removes a record from the registry. -/
theorem store_of_unregister {r : Record}
    (done : c.unregister id = (.ok r, c.setMesh (c.removed id r))) :
    (c.mesh.store.unregister id).1 = .ok r := by
  rcases c.unregister_eq id with ⟨e, refused⟩ | ⟨r', removed, done'⟩
  · rw [done] at refused
    cases congrArg Prod.fst refused
  · rw [done] at done'
    cases congrArg Prod.fst done'
    exact removed

/-- The removal of what is not registered is refused. -/
theorem unregister_of_absent (absent : c.mesh.store.find? id = none) :
    c.unregister id =
      (Failure.requireText id "service_id" >>= fun _ => .error (.unknownId id), c) := by
  unfold Coordinator.unregister Store.unregister
  cases Failure.requireText id "service_id" with
  | error e => rfl
  | ok _ =>
    simp only [absent]
    rfl

/-! ## Operations that are refused or taken alike -/

theorem register_alike {r : Record}
    (taken : c.mesh.store.contains r.id = d.mesh.store.contains r.id) :
    (∃ e, c.register r = (.error e, c) ∧ d.register r = (.error e, d)) ∨
      r.validate = .ok () ∧ c.mesh.store.contains r.id = false ∧
        c.register r = (.ok (), c.setMesh (c.added r)) ∧
        d.register r = (.ok (), d.setMesh (d.added r)) := by
  cases valid : r.validate with
  | error e =>
    simp only [Coordinator.register, valid]
    exact .inl ⟨e, rfl, rfl⟩
  | ok _ =>
    cases there : c.mesh.store.contains r.id with
    | true =>
      simp only [Coordinator.register, valid, there, ← taken, if_true]
      exact .inl ⟨_, rfl, rfl⟩
    | false =>
      exact .inr ⟨rfl, rfl, c.register_of_free valid there,
        d.register_of_free valid (taken ▸ there)⟩

theorem unregister_alike (left : c.mesh.Attached) (right : d.mesh.Attached)
    (there : c.mesh.store.contains id = d.mesh.store.contains id) :
    (∃ e, c.unregister id = (.error e, c) ∧ d.unregister id = (.error e, d)) ∨
      ∃ r r', (c.mesh.store.unregister id).1 = .ok r ∧ (d.mesh.store.unregister id).1 = .ok r' ∧
        c.unregister id = (.ok r, c.setMesh (c.removed id r)) ∧
        d.unregister id = (.ok r', d.setMesh (d.removed id r')) := by
  cases registered : c.mesh.store.contains id with
  | true =>
    obtain ⟨r, done⟩ := unregister_of_contains left registered
    obtain ⟨r', done'⟩ := unregister_of_contains right (there ▸ registered)
    exact .inr ⟨r, r', store_of_unregister done, store_of_unregister done', done, done'⟩
  | false =>
    have absent : ∀ {c : Coordinator}, c.mesh.store.contains id = false →
        c.mesh.store.find? id = none := by
      intro c absent
      rwa [Store.contains, Option.isSome_eq_false_iff, Option.isNone_iff_eq_none] at absent
    rw [unregister_of_absent (absent registered),
      unregister_of_absent (absent (there ▸ registered))]
    cases Failure.requireText id "service_id" with
    | error e => exact .inl ⟨e, rfl, rfl⟩
    | ok _ => exact .inl ⟨_, rfl, rfl⟩

theorem watch_alike (defaults : c.mesh.monitor.defaults = d.mesh.monitor.defaults)
    (there : c.mesh.store.contains id = d.mesh.store.contains id) (config : Option HealthConfig) :
    (∃ e, c.watch id config = .error e ∧ d.watch id config = .error e) ∨
      ∃ settings, c.watch id config = .ok (c.setMonitor (c.mesh.monitor.rewatched id settings)) ∧
        d.watch id config = .ok (d.setMonitor (d.mesh.monitor.rewatched id settings)) := by
  unfold Coordinator.watch
  simp only [Monitor.watch_eq_bind, ← defaults, ← there]
  cases Failure.requireText id "service_id" with
  | error e => exact .inl ⟨e, rfl, rfl⟩
  | ok _ =>
    cases (config.getD c.mesh.monitor.defaults).check with
    | error e => exact .inl ⟨e, rfl, rfl⟩
    | ok _ =>
      cases c.mesh.store.contains id with
      | false => exact .inl ⟨_, rfl, rfl⟩
      | true => exact .inr ⟨_, rfl, rfl⟩

theorem unwatch_alike (c d : Coordinator) (id : String) :
    (∃ e, c.unwatch id = .error e ∧ d.unwatch id = .error e) ∨
      c.unwatch id = .ok (c.setMonitor (c.mesh.monitor.drop id)) ∧
        d.unwatch id = .ok (d.setMonitor (d.mesh.monitor.drop id)) := by
  unfold Coordinator.unwatch Monitor.unwatch
  cases Failure.requireText id "service_id" with
  | error e => exact .inl ⟨e, rfl, rfl⟩
  | ok _ => exact .inr ⟨rfl, rfl⟩

/-- Two nodes agree on a share. -/
structure Agree (σ : Share) (c d : Coordinator) : Prop where
  timeline : c.timeline.Agree σ d.timeline
  lifecycle : c.lifecycle = d.lifecycle
  initialStatus : c.initialStatus = d.initialStatus

namespace Agree

theorem refl (σ : Share) (c : Coordinator) : c.Agree σ c := ⟨.refl _ _, rfl, rfl⟩

theorem symm (h : c.Agree σ d) : d.Agree σ c :=
  ⟨h.timeline.symm, h.lifecycle.symm, h.initialStatus.symm⟩

theorem trans (h : c.Agree σ d) (h' : d.Agree σ e) : c.Agree σ e :=
  ⟨h.timeline.trans h'.timeline, h.lifecycle.trans h'.lifecycle,
    h.initialStatus.trans h'.initialStatus⟩

theorem mesh (h : c.Agree σ d) : c.mesh.Agree σ d.mesh := h.timeline.mesh

theorem setMesh (h : c.Agree σ d) {m n : Mesh} (meshes : m.Agree σ n) :
    (c.setMesh m).Agree σ (d.setMesh n) :=
  ⟨⟨meshes, h.timeline.targets, h.timeline.moment⟩, h.lifecycle, h.initialStatus⟩

theorem setMesh_outside (c : Coordinator) {n : Mesh} (meshes : c.mesh.Agree σ n) :
    c.Agree σ (c.setMesh n) :=
  ⟨⟨meshes, .refl _ _, rfl⟩, rfl, rfl⟩

theorem setTimeline (h : c.Agree σ d) {t u : Timeline} (timelines : t.Agree σ u) :
    ({ c with timeline := t } : Coordinator).Agree σ { d with timeline := u } :=
  ⟨timelines, h.lifecycle, h.initialStatus⟩

theorem setTimeline_outside (c : Coordinator) {u : Timeline} (timelines : c.timeline.Agree σ u) :
    c.Agree σ { c with timeline := u } :=
  ⟨timelines, rfl, rfl⟩

theorem setMonitor (h : c.Agree σ d) {m n : Monitor} (monitors : m.Agree σ n) :
    (c.setMonitor m).Agree σ (d.setMonitor n) :=
  h.setMesh ⟨h.mesh.store, h.mesh.bank, h.mesh.balancer, monitors⟩

theorem setMonitor_outside (c : Coordinator) {n : Monitor}
    (monitors : c.mesh.monitor.Agree σ n) : c.Agree σ (c.setMonitor n) :=
  setMesh_outside c ⟨.refl _ _, .refl _ _, .refl _ _, monitors⟩

theorem setBank (h : c.Agree σ d) {b b' : Bank} (banks : b.Agree σ b') :
    (c.setMesh { c.mesh with bank := b }).Agree σ (d.setMesh { d.mesh with bank := b' }) :=
  h.setMesh ⟨h.mesh.store, banks, h.mesh.balancer, h.mesh.monitor⟩

theorem setBank_outside (c : Coordinator) {b : Bank} (banks : c.mesh.bank.Agree σ b) :
    c.Agree σ (c.setMesh { c.mesh with bank := b }) :=
  setMesh_outside c ⟨.refl _ _, banks, .refl _ _, .refl _ _⟩

/-! ## Operations on the share -/

/-- Two outcomes of an operation are alike if they are answered alike and leave nodes that agree. -/
def Outcomes {α : Type} (σ : Share) (x y : α × Coordinator) : Prop := x.1 = y.1 ∧ x.2.Agree σ y.2

theorem register (h : c.Agree σ d) {r : Record} (own : σ.ids r.id = true) :
    Outcomes σ (c.register r) (d.register r) := by
  rcases register_alike (h.mesh.store.contains own) with
    ⟨e, refused, refused'⟩ | ⟨valid, free, done, done'⟩
  · rw [refused, refused']
    exact ⟨rfl, h⟩
  · rw [done, done']
    refine ⟨rfl, h.setMesh ?_⟩
    unfold added
    rw [← h.initialStatus, ← h.mesh.balancer.config]
    exact ⟨h.mesh.store.register own valid free, h.mesh.bank.track own _,
      h.mesh.balancer.track own, h.mesh.monitor⟩

theorem unregister (h : c.Agree σ d) (left : c.mesh.Attached) (right : d.mesh.Attached)
    (own : σ.ids id = true) : Outcomes σ (c.unregister id) (d.unregister id) := by
  rcases unregister_alike left right (h.mesh.store.contains own) with
    ⟨e, refused, refused'⟩ | ⟨r, r', removed, removed', done, done'⟩
  · rw [refused, refused']
    exact ⟨rfl, h⟩
  · have same : r = r' := by
      have first := (Store.removed_of_unregister removed).1
      have second := (Store.removed_of_unregister removed').1
      exact Option.some.inj (first.symm.trans ((h.mesh.store.find? own).trans second))
    subst same
    rw [done, done']
    refine ⟨rfl, h.setMesh ?_⟩
    exact ⟨h.mesh.store.unregister removed removed', h.mesh.bank.forget id,
      h.mesh.balancer.forget id,
      h.mesh.monitor.alter (c.mesh.monitor.alters_forget id) (d.mesh.monitor.alters_forget id)⟩

/-- An operation that changes nothing when it is refused. -/
theorem settle (h : c.Agree σ d) {x y : Except Failure Coordinator}
    (alike : (∃ e, x = .error e ∧ y = .error e) ∨
      ∃ c' d', x = .ok c' ∧ y = .ok d' ∧ c'.Agree σ d') :
    Outcomes σ (c.settle x) (d.settle y) := by
  rcases alike with ⟨e, rfl, rfl⟩ | ⟨c', d', rfl, rfl, agree⟩
  · exact ⟨rfl, h⟩
  · exact ⟨rfl, agree⟩

theorem setMetadata (h : c.Agree σ d) (own : σ.ids id = true) (metadata : Json) :
    Outcomes σ (c.settle (c.setMetadata id metadata)) (d.settle (d.setMetadata id metadata)) := by
  apply h.settle
  unfold Coordinator.setMetadata
  rcases h.mesh.store.setMetadata own metadata with ⟨e, left, right⟩ | ⟨s, t, left, right, agree⟩
  · rw [left, right]
    exact .inl ⟨e, rfl, rfl⟩
  · rw [left, right]
    exact .inr ⟨_, _, rfl, rfl,
      h.setMesh ⟨agree, h.mesh.bank, h.mesh.balancer, h.mesh.monitor⟩⟩

theorem watch (h : c.Agree σ d) (own : σ.ids id = true) (config : Option HealthConfig) :
    Outcomes σ (c.settle (c.watch id config)) (d.settle (d.watch id config)) := by
  apply h.settle
  rcases watch_alike h.mesh.monitor.defaults (h.mesh.store.contains own) config with
    refused | ⟨settings, done, done'⟩
  · exact .inl refused
  · exact .inr ⟨_, _, done, done', h.setMonitor (h.mesh.monitor.rewatched id settings)⟩

theorem unwatch (h : c.Agree σ d) (id : String) :
    Outcomes σ (c.settle (c.unwatch id)) (d.settle (d.unwatch id)) := by
  apply h.settle
  rcases unwatch_alike c d id with refused | ⟨done, done'⟩
  · exact .inl refused
  · exact .inr ⟨_, _, done, done', h.setMonitor (h.mesh.monitor.alter
      (c.mesh.monitor.alters_drop id) (d.mesh.monitor.alters_drop id))⟩

theorem select (h : c.Agree σ d) {name : String} (counts : σ.names name = true)
    (attached : c.mesh.Attached)
    (own : ∀ r ∈ c.mesh.store.members name, σ.ids r.id = true) (client : Option String)
    (draw : UInt64) : Outcomes σ (c.select name client draw) (d.select name client draw) := by
  have listed : ∀ id ∈ c.mesh.store.names[name]?.getD [], σ.ids id = true := by
    intro id member
    obtain ⟨r, registered, rfl⟩ := member_of_listed attached member
    exact own r registered
  have chosen := h.mesh.balancer.select h.mesh.store h.mesh.bank counts listed own
    c.timeline.moment client draw
  unfold Coordinator.select Mesh.select
  rw [← h.timeline.moment]
  exact ⟨chosen.1, h.setMesh ⟨h.mesh.store, chosen.2.2, chosen.2.1, h.mesh.monitor⟩⟩

theorem report (h : c.Agree σ d) (own : σ.ids id = true) (time : Duration) (success : Bool) :
    Outcomes σ (c.report id time success) (d.report id time success) := by
  have got := h.mesh.store.get own
  have known := h.mesh.bank.get own
  cases found : c.mesh.store.get id with
  | error e =>
    rw [report_of_error found, report_of_error (got ▸ found)]
    exact ⟨rfl, h⟩
  | ok r =>
    cases broken : c.mesh.bank.get id with
    | error e =>
      rw [report_of_unknown found broken, report_of_unknown (got ▸ found) (known ▸ broken)]
      exact ⟨rfl, h⟩
    | ok x =>
      rw [report_of_known found broken, report_of_known (got ▸ found) (known ▸ broken),
        ← h.timeline.moment]
      exact ⟨rfl, h.setMesh ⟨h.mesh.store.modify id _, h.mesh.bank.put id x _,
        h.mesh.balancer.reported r.serviceName id time success, h.mesh.monitor⟩⟩

theorem readBreaker (h : c.Agree σ d) (own : σ.ids id = true) :
    Outcomes σ (c.perform (.readBreaker id)) (d.perform (.readBreaker id)) := by
  have known := h.mesh.bank.get own
  unfold Outcomes
  simp only [Coordinator.perform, Coordinator.breakerStatus, Bank.status, ← known,
    ← h.timeline.moment]
  cases c.mesh.bank.get id with
  | error e => exact ⟨rfl, h⟩
  | ok x => exact ⟨rfl, h.setBank (h.mesh.bank.put id x _)⟩

theorem resetBreaker (h : c.Agree σ d) (own : σ.ids id = true) :
    Outcomes σ (c.settle (c.resetBreaker id)) (d.settle (d.resetBreaker id)) := by
  apply h.settle
  unfold Coordinator.resetBreaker Bank.reset
  rw [← h.mesh.bank.get own]
  cases c.mesh.bank.get id with
  | error e => exact .inl ⟨e, rfl, rfl⟩
  | ok x => exact .inr ⟨_, _, rfl, rfl, h.setBank (Table.AgreeOn.insert h.mesh.bank fun _ => rfl)⟩

theorem configured {m n : Mesh} (h : m.Agree σ n) (health : Option HealthConfig)
    (balancer : Option BalancerConfig) :
    (Coordinator.configured m health balancer).Agree σ
      (Coordinator.configured n health balancer) := by
  have monitors : ∀ defaults, ({ m.monitor with defaults } : Monitor).Agree σ
      { n.monitor with defaults } := fun _ =>
    ⟨rfl, h.monitor.running, h.monitor.stances, h.monitor.slots⟩
  cases health with
  | none =>
    cases balancer with
    | none => exact h
    | some config =>
      exact ⟨h.store, h.bank.reconfigure _, h.balancer.configure config, h.monitor⟩
  | some defaults =>
    cases balancer with
    | none => exact ⟨h.store, h.bank, h.balancer, monitors defaults⟩
    | some config =>
      exact ⟨h.store, h.bank.reconfigure _, h.balancer.configure config, monitors defaults⟩

theorem configure (h : c.Agree σ d) (health : Option HealthConfig)
    (balancer : Option BalancerConfig) :
    Outcomes σ (c.configure health balancer) (d.configure health balancer) := by
  cases sections : checkSections health balancer with
  | error e =>
    simp only [Coordinator.configure, sections]
    exact ⟨rfl, h⟩
  | ok _ =>
    rw [configure_of_check sections, configure_of_check sections]
    exact ⟨rfl, h.setMesh (configured h.mesh health balancer)⟩

theorem start (h : c.Agree σ d) : c.start.Agree σ d.start := by
  unfold Coordinator.start
  rw [← h.lifecycle]
  split
  · exact h
  · exact ⟨(h.setMonitor h.mesh.monitor.run).timeline, rfl, h.initialStatus⟩

theorem stop (h : c.Agree σ d) : c.stop.Agree σ d.stop := by
  unfold Coordinator.stop
  rw [← h.lifecycle]
  split
  · exact ⟨(h.setMonitor h.mesh.monitor.halt).timeline, rfl, h.initialStatus⟩
  · exact h

/-- The answers of an operation that is answered by its result. -/
theorem Outcomes.answer {α : Type} {x y : Except Failure α × Coordinator} (alike : Outcomes σ x y)
    (answer : α → Answer) :
    Outcomes σ (answerOf answer x.1, x.2) (answerOf answer y.1, y.2) :=
  ⟨congrArg (answerOf answer) alike.1, alike.2⟩

/-- An operation that concerns the share is answered alike, and the nodes agree afterwards. -/
theorem perform (h : c.Agree σ d) (left : c.mesh.Attached) (right : d.mesh.Attached)
    {op : Operation} (atOnce : op.waits = false) (concerns : op.concerns σ = true)
    (members : ∀ name, σ.names name = true →
      ∀ r ∈ c.mesh.store.members name, σ.ids r.id = true) :
    Outcomes σ (c.perform op) (d.perform op) := by
  have monitors : ∀ m : Monitor, m.Agree σ { m with begun := m.begun + 1 } := fun m =>
    .of_same rfl rfl rfl rfl
  cases op with
  | check | join | advance => cases atOnce
  | register r => exact (h.register concerns).answer _
  | unregister id => exact (h.unregister left right concerns).answer _
  | setMetadata id metadata => exact h.setMetadata concerns metadata
  | watch id config => exact h.watch concerns config
  | unwatch id => exact h.unwatch id
  | spawn handle id =>
    have timelines := h.timeline.setMonitor ((monitors _).symm.trans
      (h.mesh.monitor.trans (monitors _)))
    exact ⟨rfl, ⟨timelines.mesh, timelines.targets, timelines.moment⟩, h.lifecycle,
      h.initialStatus⟩
  | select name client draw =>
    exact (h.select concerns left (members name concerns) client draw).answer _
  | report id time success => exact (h.report concerns time success).answer _
  | readBreaker id => exact h.readBreaker concerns
  | resetBreaker id => exact h.resetBreaker concerns
  | configure health balancer => exact (h.configure health balancer).answer _
  | start => exact ⟨rfl, h.start⟩
  | startOutside => exact ⟨rfl, h⟩
  | stop => exact ⟨rfl, h.stop⟩
  | listenHealth | listenServices =>
    exact ⟨rfl, h.setMesh ⟨h.mesh.store, h.mesh.bank, h.mesh.balancer, h.mesh.monitor⟩⟩
  | setTarget id change =>
    exact ⟨rfl, h.setTimeline (h.timeline.setTarget concerns change)⟩
  | wait ms => exact ⟨rfl, h.setTimeline (h.timeline.wait ms)⟩

/-! ## Other operations -/

/-- An operation that does not concern the share is not seen in it, if the records of other ids
have other names and the members of other names are other ids. -/
theorem perform_outside {op : Operation} (atOnce : op.waits = false)
    (outside : op.concerns σ = false)
    (registers : ∀ r, op = .register r → σ.names r.serviceName = false)
    (elsewhere : ∀ id r, c.mesh.store.find? id = some r → σ.ids id = false →
      σ.names r.serviceName = false)
    (members : ∀ name client draw, op = .select name client draw →
      ∀ r ∈ c.mesh.store.members name, σ.ids r.id = false) :
    c.Agree σ (c.perform op).2 := by
  have made := c.perform_call atOnce
  generalize (c.perform op).1 = answer, (c.perform op).2 = next at made ⊢
  cases made with
  | refused => exact .refl σ c
  | register r valid free =>
    refine setMesh_outside c ⟨?_, .track_outside outside _ _, .track_outside outside _, .refl _ _⟩
    exact Store.Agree.register_outside (r := { r with status := c.initialStatus }) outside
      (registers r rfl) _ valid free
  | @unregister id r removed =>
    refine setMesh_outside c ⟨?_, .forget_outside outside _, .forget_outside outside _, ?_⟩
    · refine .unregister_outside outside ?_ removed
      exact fun r found => elsewhere id r found outside
    · exact .alter_outside outside (c.mesh.monitor.alters_forget id)
  | setMetadata id metadata =>
    exact setMesh_outside c ⟨.modify_outside outside _ _, .refl _ _, .refl _ _, .refl _ _⟩
  | @watch id config monitor done =>
    rw [(Monitor.watch_eq done).2]
    exact setMonitor_outside c (.alter_outside outside (c.mesh.monitor.alters_rewatched id _))
  | unwatch id =>
    exact setMonitor_outside c (.alter_outside outside (c.mesh.monitor.alters_drop id))
  | spawn handle id =>
    exact ⟨⟨⟨.refl _ _, .refl _ _, .refl _ _, .of_same rfl rfl rfl rfl⟩, .refl _ _, rfl⟩, rfl, rfl⟩
  | select name client draw =>
    have chosen := Balancer.Agree.select_outside outside c.mesh.store
      (members name client draw rfl) c.mesh.balancer c.mesh.bank c.timeline.moment client draw
    exact setMesh_outside c ⟨.refl _ _, chosen.2, chosen.1, .refl _ _⟩
  | @report id r time success state bank got counted =>
    have away := elsewhere id r (Store.find?_of_get got) outside
    obtain ⟨x, -, rest⟩ := Failure.bind_eq_ok_iff.mp counted
    cases rest
    exact setMesh_outside c ⟨.modify_outside outside _ _, .put_outside outside _ _ _,
      .reported_outside away outside _ time success, .refl _ _⟩
  | readBreaker done =>
    obtain ⟨x, -, rest⟩ := Failure.bind_eq_ok_iff.mp done
    cases rest
    exact setBank_outside c (.put_outside outside _ _ _)
  | resetBreaker done =>
    obtain ⟨x, -, rest⟩ := Failure.bind_eq_ok_iff.mp done
    cases rest
    exact setBank_outside c (Table.AgreeOn.insert_outside outside _ _)
  | setTarget id change =>
    exact setTimeline_outside c (.setTarget_outside outside _ change)
  | configure | start | startAgain | stop | stopAgain | listenHealth | listenServices | wait =>
    cases outside

end Agree

end Coordinator

end ServiceMesh
