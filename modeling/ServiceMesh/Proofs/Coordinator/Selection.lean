import ServiceMesh.Proofs.Coordinator.Attached

/-!
# Selections of a node

Every state that a node comes to has groups that follow its configurations. With that and
the registry in step, the answer to a selection is determined up to the choice among the
candidates: each failure has its own cause, the causes exclude each other, and without any
of them a candidate is selected as it is registered at that moment.
-/

namespace ServiceMesh

namespace Coordinator

variable {c next : Coordinator} {name : String} {client : Option String} {draw : UInt64}

/-! ## Groups follow the configurations -/

theorem coherent_beat {t : Timeline} (b : Beat c.timeline t) (attached : c.mesh.Attached)
    (h : c.mesh.balancer.Coherent) : t.mesh.balancer.Coherent := by
  cases b with
  | aside same => exact same ▸ h
  | apply id outcome time config =>
    rcases attached.applyCheck_eq id outcome time config with
      ⟨-, e, -, refused⟩ | ⟨r, -, -, applied⟩
    · change (c.mesh.applyCheck id outcome time config false).2.balancer.Coherent
      rw [refused]
      exact h
    · change (c.mesh.applyCheck id outcome time config false).2.balancer.Coherent
      rw [applied, Mesh.balancer_checked]
      exact h
  | _ => exact h

theorem coherent_configured {m : Mesh} (h : m.balancer.Coherent) (health : Option HealthConfig)
    (balancer : Option BalancerConfig) : (configured m health balancer).balancer.Coherent := by
  cases health with
  | none =>
    cases balancer with
    | none => exact h
    | some config => exact h.renew config
  | some defaults =>
    cases balancer with
    | none => exact h
    | some config => exact h.renew config

theorem coherent_call {op : Operation} {answer : Answer} (made : Call c op answer next)
    (h : c.mesh.balancer.Coherent) : next.mesh.balancer.Coherent := by
  cases made with
  | register r => exact h.track r.id
  | unregister => exact h.keep rfl rfl rfl
  | select name client draw => exact h.select _ _ _ name client draw
  | report => exact h.reported _ _ _ _
  | configure health balancer => exact coherent_configured h health balancer
  | refused | setMetadata | watch | unwatch | spawn | readBreaker | resetBreaker | start
  | startAgain | stop | stopAgain | listenHealth | listenServices | setTarget | wait => exact h

theorem coherent_change (change : Change c next) (attached : c.mesh.Attached)
    (h : c.mesh.balancer.Coherent) : next.mesh.balancer.Coherent := by
  cases change with
  | call made => exact coherent_call made h
  | beat b => exact coherent_beat b attached h

theorem coherent_after (config : Config) (events : List Event) :
    ((fresh config).after events).mesh.balancer.Coherent := by
  have start : (fresh config).mesh.balancer.Coherent := .ofConfig config.loadBalancer
  exact changes_preserve_attached (fun _ _ => coherent_change) (after_changes _ events)
    (attached_fresh config) start

/-! ## Answers to selections -/

/-- The members of a name that may be selected now, in the order of registration. -/
def candidates (c : Coordinator) (name : String) : List Record :=
  (c.mesh.store.members name).filter fun r =>
    Balancer.Fit c.mesh.balancer.config.breakerEnabled (c.mesh.bank.view c.timeline.moment) r

/-- Consistent hashing is in force, and no candidate of a name owns a point of the ring of
all its members. -/
def Ringless (c : Coordinator) (name : String) : Prop :=
  c.mesh.balancer.config.algorithm = .consistentHash ∧
  ∀ r ∈ c.candidates name,
    ∀ p ∈ (Ring.build ((c.mesh.store.members name).map Record.id)
      c.mesh.balancer.config.hashReplicas).points, p.2 ≠ r.id

/-- The answer to a selection, up to the choice among the candidates. -/
inductive Selects (c : Coordinator) (name : String) : Except Failure Record → Prop
  | blank (h : Text.isBlank name = true) : Selects c name (.error (.blank "service_name"))
  | unknown (written : Text.isBlank name = false) (empty : c.mesh.store.members name = []) :
      Selects c name (.error (.unknownName name))
  | unfit (written : Text.isBlank name = false) (nonempty : c.mesh.store.members name ≠ [])
      (unfit : c.candidates name = []) : Selects c name (.error (.noneHealthy name))
  | ringless (written : Text.isBlank name = false) (nonempty : c.candidates name ≠ [])
      (ringless : c.Ringless name) (reason : String) : Selects c name (.error (.internal reason))
  | chosen {r : Record} (written : Text.isBlank name = false) (owned : ¬c.Ringless name)
      (candidate : r ∈ c.candidates name) : Selects c name (.ok r)

theorem selects_of_coherent (h : c.mesh.balancer.Coherent) (name : String)
    (client : Option String) (draw : UInt64) : c.Selects name (c.select name client draw).1 := by
  have fits : (Balancer.fit c.mesh.balancer.config.breakerEnabled c.timeline.moment
      (c.mesh.store.members name) c.mesh.bank).1 = c.candidates name := Balancer.fit_eq _ _ _ _
  change c.Selects name (c.mesh.balancer.select c.mesh.store c.mesh.bank c.timeline.moment name
    client draw).1
  cases written : Text.isBlank name with
  | true =>
    rw [Balancer.select_of_blank written]
    exact .blank written
  | false =>
    by_cases empty : c.mesh.store.members name = []
    · rw [Balancer.select_of_no_members written empty]
      exact .unknown written empty
    · by_cases unfit : c.candidates name = []
      · rw [Balancer.select_of_none_fit written empty (fits.trans unfit)]
        exact .unfit written empty unfit
      · rw [Balancer.select_of_fit written (fits ▸ unfit), fits]
        have members : (Balancer.requestFor client (c.mesh.store.members name)).members ≠ [] := by
          simpa [Balancer.requestFor] using empty
        rcases Balancer.choose_answer h unfit members with
          ⟨hashing, unowned, reason, answer⟩ | ⟨owned, r, candidate, answer⟩
        · rw [answer]
          exact .ringless written unfit ⟨hashing, unowned⟩ reason
        · rw [answer]
          exact .chosen written owned candidate

theorem candidates_of_no_members (empty : c.mesh.store.members name = []) :
    c.candidates name = [] := by
  rw [candidates, empty, List.filter_nil]

/-- The causes of the answers exclude each other, so each answer tells its cause. -/
theorem Selects.cause {answer : Except Failure Record} (h : c.Selects name answer) :
    ((∃ reason, answer = .error (.invalidArgument reason)) ↔ Text.isBlank name = true) ∧
    ((∃ other, answer = .error (.unknownName other)) ↔
      Text.isBlank name = false ∧ c.mesh.store.members name = []) ∧
    ((∃ other, answer = .error (.noneHealthy other)) ↔
      Text.isBlank name = false ∧ c.mesh.store.members name ≠ [] ∧ c.candidates name = []) ∧
    ((∃ reason, answer = .error (.internal reason)) ↔
      Text.isBlank name = false ∧ c.candidates name ≠ [] ∧ c.Ringless name) ∧
    ((∃ r, answer = .ok r) ↔
      Text.isBlank name = false ∧ c.candidates name ≠ [] ∧ ¬c.Ringless name) := by
  cases h with
  | blank blank => simp [Failure.blank, blank]
  | unknown written empty =>
    have unfit := candidates_of_no_members empty
    simp [written, empty, unfit]
  | unfit written nonempty unfit => simp [written, nonempty, unfit]
  | ringless written nonempty ringless =>
    have members : c.mesh.store.members name ≠ [] := mt candidates_of_no_members nonempty
    simp [written, nonempty, ringless, members]
  | chosen written owned candidate =>
    have nonempty := List.ne_nil_of_mem candidate
    have members : c.mesh.store.members name ≠ [] := mt candidates_of_no_members nonempty
    simp [written, owned, nonempty, members]

theorem Selects.candidate {r : Record} (h : c.Selects name (.ok r)) : r ∈ c.candidates name := by
  cases h with
  | chosen _ _ candidate => exact candidate

/-- The members of a name are the records that are registered under it. -/
theorem mem_members_iff (h : c.mesh.Attached) {r : Record} :
    r ∈ c.mesh.store.members name ↔ c.mesh.store.find? r.id = some r ∧ r.serviceName = name := by
  obtain ⟨l, represents⟩ := h.store
  rw [represents.members_eq, represents.mem_iff, Roster.named, List.mem_filter, beq_iff_eq]

/-- Selection is sound and its failures are exact, in every state that a node comes to, for
every name, client and drawn number. A blank name is an invalid argument, a name without
members is unknown, and one without candidates has no healthy instance; with candidates
the selection fails only when consistent hashing finds no point of them on the ring, and
otherwise it gives a candidate as it is registered. The other algorithms choose a position
in every list of candidates that is not empty, whatever their state. -/
theorem select_exact (config : Config) (events : List Event) (name : String)
    (client : Option String) (draw : UInt64) :
    let c := (fresh config).after events
    let answer := (c.select name client draw).1
    ((∃ reason, answer = .error (.invalidArgument reason)) ↔ Text.isBlank name = true) ∧
    ((∃ other, answer = .error (.unknownName other)) ↔
      Text.isBlank name = false ∧ c.mesh.store.members name = []) ∧
    ((∃ other, answer = .error (.noneHealthy other)) ↔
      Text.isBlank name = false ∧ c.mesh.store.members name ≠ [] ∧ c.candidates name = []) ∧
    ((∃ reason, answer = .error (.internal reason)) ↔
      Text.isBlank name = false ∧ c.candidates name ≠ [] ∧ c.Ringless name) ∧
    ((∃ r, answer = .ok r) ↔
      Text.isBlank name = false ∧ c.candidates name ≠ [] ∧ ¬c.Ringless name) ∧
    (∀ r, answer = .ok r → r ∈ c.candidates name ∧ c.mesh.store.find? r.id = some r) ∧
    (∀ r, r ∈ c.mesh.store.members name ↔
      c.mesh.store.find? r.id = some r ∧ r.serviceName = name) ∧
    ∀ (s : Selector) (offered : List Candidate) (request : Request) (number : UInt64),
      s.algorithm ≠ .consistentHash → offered ≠ [] →
      ∃ i < offered.length, (s.choose offered request number).1 = some i := by
  intro c answer
  have attached : c.mesh.Attached := attached_after config events
  have selects : c.Selects name answer :=
    selects_of_coherent (coherent_after config events) name client draw
  obtain ⟨blank, unknown, unfit, internal, found⟩ := selects.cause
  refine ⟨blank, unknown, unfit, internal, found, ?_, fun _ => mem_members_iff attached, ?_⟩
  · intro r chosen
    have candidate := Selects.candidate (chosen ▸ selects)
    exact ⟨candidate, ((mem_members_iff attached).mp (List.mem_of_mem_filter candidate)).1⟩
  · intro s offered request number ringless nonempty
    exact Selector.choose_in_range ringless nonempty request number

end Coordinator

end ServiceMesh
