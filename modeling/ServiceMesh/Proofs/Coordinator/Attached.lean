import ServiceMesh.Proofs.Coordinator.Change
import ServiceMesh.Proofs.Coordinator.Effect
import ServiceMesh.Proofs.Registry.Agreement

/-!
# Attached state

Breakers, load counters, watches and slots are attached to registered instances. The
parts of a node keep them in tables of their own, and no table looks at another one; that
they stay in step is an invariant of the node, kept by every change.
-/

namespace ServiceMesh

/-! ## The configuration of a balancer -/

namespace Balancer

variable (b : Balancer) (store : Store) (bank : Bank) (now : Moment)

theorem config_track (id : String) : (b.track id).config = b.config := by
  unfold track
  split <;> rfl

private theorem config_choose (name : String) (candidates : List Record) (request : Request)
    (draw : UInt64) : (b.choose name candidates request draw).2.config = b.config := by
  cases chosen : (b.consult name candidates request draw).1.bind (candidates[·]?) with
  | none => rw [choose_of_none chosen]
  | some r => rw [choose_of_some chosen]

theorem config_select (name : String) (client : Option String) (draw : UInt64) :
    (b.select store bank now name client draw).2.1.config = b.config := by
  rcases (b.select_leaves store bank now name client draw).1 with
    ⟨-, -, same⟩ | ⟨-, reason, -, failed⟩ | ⟨candidates, request, -, chosen⟩
  · rw [same]
  · rw [failed]
    rfl
  · rw [chosen, config_choose]

end Balancer

/-! ## The invariant -/

/-- The tables of the parts of a node are in step with the registry. -/
structure Mesh.Attached (m : Mesh) : Prop where
  store : ∃ l, Represents m.store l
  bank : m.bank.Follows m.store.contains m.balancer.config.breakerSettings
  balancer : m.balancer.Follows m.store.contains
  monitor : m.monitor.Follows m.store.contains

namespace Mesh.Attached

variable {m : Mesh}

theorem ofConfig (health : HealthConfig) (balancer : BalancerConfig) :
    (Mesh.ofConfig health balancer).Attached where
  store := ⟨{}, Represents.empty⟩
  bank := Bank.Follows.empty
  balancer := Balancer.Follows.ofConfig balancer
  monitor := Monitor.Follows.empty health

theorem find?_eq_some (h : m.Attached) {id : String} {r : Record}
    (found : m.store.find? id = some r) : m.store.get id = .ok r ∧ r.id = id := by
  obtain ⟨l, represents⟩ := h.store
  rw [represents.find?] at found
  have listed := (Roster.find?_eq_some_iff represents.unique).mp found
  exact ⟨represents.get_eq_ok_iff.mpr listed, listed.2⟩

private theorem absent_of_get_eq_error (h : m.Attached) {id : String} {e : Failure}
    (refused : m.store.get id = .error e) : m.store.contains id = false := by
  rw [Store.contains, Option.isSome_eq_false_iff, Option.isNone_iff_eq_none]
  cases found : m.store.find? id with
  | none => rfl
  | some r =>
    rw [(h.find?_eq_some found).1] at refused
    cases refused

/-- A change of one record in place. -/
theorem modify (h : m.Attached) (id : String) {f : Record → Record}
    (sameId : ∀ r, (f r).id = r.id) (sameName : ∀ r, (f r).serviceName = r.serviceName)
    (sameValid : ∀ r, (f r).validate = r.validate) :
    ({ m with store := m.store.modify id f } : Mesh).Attached := by
  obtain ⟨⟨l, represents⟩, bank, balancer, monitor⟩ := h
  rw [← Store.contains_modify m.store id f] at bank balancer monitor
  exact ⟨⟨_, represents.modify id sameId sameName sameValid⟩, bank, balancer, monitor⟩

/-- Another monitor that follows the registry. -/
theorem setMonitor (h : m.Attached) {monitor : Monitor}
    (follows : monitor.Follows m.store.contains) : ({ m with monitor } : Mesh).Attached :=
  ⟨h.store, h.bank, h.balancer, follows⟩

/-! ## Checks -/

theorem slotted (h : m.Attached) {id : String} (there : m.store.contains id = true) (slot : Slot) :
    (m.slotted id slot).Attached :=
  h.setMonitor (h.monitor.insertSlot there slot)

theorem noted (h : m.Attached) (id : String) (outcome : Outcome) (time : Option Duration) :
    (m.noted id outcome time).Attached := by
  cases time with
  | none => exact h
  | some t =>
    have next := h.modify id (f := fun r => { r with lastResponse := some (.measured t) })
      (fun _ => rfl) (fun _ => rfl) (fun _ => rfl)
    exact next.setMonitor ⟨next.monitor.watched, next.monitor.slotted⟩

theorem turned (h : m.Attached) (id : String) (previous current : Status) :
    (m.turned id previous current).Attached := by
  unfold Mesh.turned
  split
  · exact h
  · have next := h.modify id (f := fun r => { r with status := current })
      (fun _ => rfl) (fun _ => rfl) (fun _ => rfl)
    exact ⟨next.store, next.bank, next.balancer, ⟨next.monitor.watched, next.monitor.slotted⟩⟩

/-- A check is applied to a registered instance, or takes the slot of an id away that no
instance has. -/
theorem applyCheck_eq (h : m.Attached) (id : String) (outcome : Outcome) (time : Option Duration)
    (config : HealthConfig) :
    (m.store.contains id = false ∧
      ∃ e, m.store.get id = .error e ∧
        m.applyCheck id outcome time config false = (.error e, m.vacated id)) ∨
    ∃ r, m.store.find? id = some r ∧ r.id = id ∧ m.applyCheck id outcome time config false =
      (.ok (some (m.verdict r outcome config).1), m.checked r outcome time config) := by
  unfold Mesh.applyCheck
  cases got : m.store.get id with
  | error e => exact .inl ⟨h.absent_of_get_eq_error got, e, rfl, rfl⟩
  | ok r =>
    have found := Store.find?_of_get got
    obtain ⟨-, rfl⟩ := h.find?_eq_some found
    have there : m.store.contains r.id = true := Option.isSome_of_eq_some found
    refine .inr ⟨r, found, rfl, ?_⟩
    simp only [m.applyTo_of_contains r outcome time config there]
    rfl

/-- The slot of an instance that is gone is not missed, and one of an instance that is
there may be made. -/
theorem applyCheck (h : m.Attached) (id : String) (outcome : Outcome) (time : Option Duration)
    (config : HealthConfig) : (m.applyCheck id outcome time config false).2.Attached := by
  rcases h.applyCheck_eq id outcome time config with
    ⟨absent, e, -, refused⟩ | ⟨r, found, rfl, applied⟩
  · rw [refused]
    exact h.setMonitor (h.monitor.eraseSlot absent)
  · rw [applied]
    have there : m.store.contains r.id = true := Option.isSome_of_eq_some found
    exact ((h.slotted there _).noted r.id outcome time).turned r.id r.status _

/-! ## Membership -/

theorem track (h : m.Attached) {r : Record} (new : m.store.contains r.id = false)
    (done : (m.store.register r).1 = .ok ()) :
    ({ m with
      store := (m.store.register r).2
      bank := m.bank.track r.id m.balancer.config.breakerSettings
      balancer := m.balancer.track r.id } : Mesh).Attached := by
  obtain ⟨l, represents⟩ := h.store
  have ids := Store.contains_register done
  constructor
  · exact ⟨_, (represents.register r).2.1⟩
  · rw [ids]
    change Bank.Follows _ _ (m.balancer.track r.id).config.breakerSettings
    rw [Balancer.config_track]
    exact h.bank.track new
  · rw [ids]
    exact h.balancer.track new
  · rw [ids]
    exact h.monitor.grow r.id

theorem forget (h : m.Attached) {id : String} {r : Record}
    (done : (m.store.unregister id).1 = .ok r) :
    ({ m with
      store := (m.store.unregister id).2
      monitor := m.monitor.forget id
      bank := m.bank.forget id
      balancer := m.balancer.forget id } : Mesh).Attached := by
  obtain ⟨l, represents⟩ := h.store
  have ids := Store.contains_unregister done
  constructor
  · exact ⟨_, (represents.unregister id).2⟩
  · rw [ids]
    exact h.bank.forget id
  · rw [ids]
    exact h.balancer.forget id
  · rw [ids]
    exact h.monitor.forget id

/-! ## Load balancing -/

theorem select (h : m.Attached) (now : Moment) (name : String) (client : Option String)
    (draw : UInt64) : (m.select now name client draw).2.Attached := by
  have balancer := h.balancer.select m.store m.bank now name client draw
  refine ⟨h.store, ?_, balancer, h.monitor⟩
  change Bank.Follows (m.balancer.select m.store m.bank now name client draw).2.2 m.store.contains
    (m.balancer.select m.store m.bank now name client draw).2.1.config.breakerSettings
  rw [Balancer.config_select]
  rcases (m.balancer.select_leaves m.store m.bank now name client draw).2 with
    same | ⟨members, looked⟩
  · rw [same]
    exact h.bank
  · rw [looked]
    exact h.bank.fit _ now members

theorem reported (h : m.Attached) (r : Record) (id : String) (time : Duration) (success : Bool)
    {now : Moment} {state : BreakerState} {bank : Bank}
    (counted : m.bank.report id success time now = .ok (state, bank)) :
    (m.reported r id time success bank).Attached := by
  have noted := h.modify id (f := fun r => { r with lastResponse := some (.reported time) })
    (fun _ => rfl) (fun _ => rfl) (fun _ => rfl)
  exact ⟨noted.store, noted.bank.report counted, noted.balancer.reported _ id time success,
    noted.monitor⟩

end Mesh.Attached

/-! ## The node -/

namespace Coordinator

variable {c next : Coordinator}

theorem attached_configured {m : Mesh} (h : m.Attached) (health : Option HealthConfig)
    (balancer : Option BalancerConfig) : (configured m health balancer).Attached := by
  have defaults : (configured m health none).Attached := by
    cases health with
    | none => exact h
    | some config => exact h.setMonitor ⟨h.monitor.watched, h.monitor.slotted⟩
  cases balancer with
  | none => exact defaults
  | some config =>
    exact ⟨defaults.store, defaults.bank.reconfigure _, defaults.balancer, defaults.monitor⟩

theorem attached_beat {t : Timeline} (b : Beat c.timeline t) (h : c.mesh.Attached) :
    t.mesh.Attached := by
  cases b with
  | aside same => exact same ▸ h
  | setPhase id phase => exact h.setMonitor (h.monitor.updateWatch id _)
  | abandon id => exact h.setMonitor (h.monitor.eraseWatch id)
  | count result => exact h.setMonitor ⟨h.monitor.watched, h.monitor.slotted⟩
  | apply id outcome time config => exact h.applyCheck id outcome time config

/-- Loops and checks leave alone what lasts of a record. -/
theorem lasting_beat {part : Record → α} (lasting : Mesh.Lasting part) {t : Timeline}
    (b : Beat c.timeline t) (h : c.mesh.Attached) (id : String) :
    (t.mesh.store.find? id).map part = (c.mesh.store.find? id).map part := by
  cases b with
  | aside same => rw [same]; rfl
  | setPhase | abandon | count => rfl
  | apply changed outcome time config =>
    change ((c.mesh.applyCheck changed outcome time config false).2.store.find? id).map part = _
    rcases h.applyCheck_eq changed outcome time config with ⟨-, e, -, refused⟩ | ⟨r, -, -, applied⟩
    · rw [refused]
      rfl
    · rw [applied, lasting.checked]

theorem attached_call {op : Operation} {answer : Answer} (made : Call c op answer next)
    (h : c.mesh.Attached) : next.mesh.Attached := by
  cases made with
  | register r valid free =>
    have added := h.track (r := { r with status := c.initialStatus }) free
      (Store.register_ok valid free)
    exact ⟨added.store, added.bank, added.balancer, added.monitor⟩
  | unregister done =>
    have gone := h.forget done
    exact ⟨gone.store, gone.bank, gone.balancer, gone.monitor⟩
  | setMetadata id metadata => exact h.modify id (fun _ => rfl) (fun _ => rfl) (fun _ => rfl)
  | watch done => exact h.setMonitor (h.monitor.watch done)
  | unwatch id => exact h.setMonitor (h.monitor.drop id)
  | spawn => exact h.setMonitor ⟨h.monitor.watched, h.monitor.slotted⟩
  | select name client draw => exact h.select _ name client draw
  | report _ counted => exact h.reported _ _ _ _ counted
  | readBreaker done => exact ⟨h.store, h.bank.status done, h.balancer, h.monitor⟩
  | resetBreaker done => exact ⟨h.store, h.bank.reset done, h.balancer, h.monitor⟩
  | configure health balancer => exact attached_configured h health balancer
  | start => exact h.setMonitor h.monitor.run
  | stop => exact h.setMonitor h.monitor.halt
  | listenHealth | listenServices => exact ⟨h.store, h.bank, h.balancer, h.monitor⟩
  | refused | startAgain | stopAgain | setTarget | wait => exact h

theorem attached_change (change : Change c next) (h : c.mesh.Attached) : next.mesh.Attached := by
  cases change with
  | call made => exact attached_call made h
  | beat b => exact attached_beat b h

theorem attached_fresh (config : Config) : (fresh config).mesh.Attached :=
  .ofConfig config.healthCheck config.loadBalancer

theorem attached_changes (chain : Changes c next) (h : c.mesh.Attached) : next.mesh.Attached :=
  changes_preserve (fun _ _ => attached_change) chain h

theorem attached_after (config : Config) (events : List Event) :
    ((fresh config).after events).mesh.Attached :=
  attached_changes (after_changes _ events) (attached_fresh config)

/-- What every change preserves while attached state is in step. -/
theorem changes_preserve_attached {holds : Coordinator → Prop}
    (step : ∀ c next, Change c next → c.mesh.Attached → holds c → holds next)
    (chain : Changes c next) (attached : c.mesh.Attached) (start : holds c) : holds next := by
  have both : ∀ c next, Change c next → c.mesh.Attached ∧ holds c →
      next.mesh.Attached ∧ holds next := by
    intro c next change h
    exact ⟨attached_change change h.1, step c next change h.1 h.2⟩
  exact (changes_preserve both chain ⟨attached, start⟩).2

/-- A registered instance can be removed. -/
theorem unregister_of_contains (h : c.mesh.Attached) {id : String}
    (there : c.mesh.store.contains id = true) :
    ∃ r, c.unregister id = (.ok r, c.setMesh (c.removed id r)) := by
  obtain ⟨l, represents⟩ := h.store
  obtain ⟨r, found⟩ := Option.isSome_iff_exists.mp there
  obtain ⟨got, rfl⟩ := h.find?_eq_some found
  have done : (c.mesh.store.unregister r.id).1 = .ok r := by
    rw [(represents.unregister r.id).1, Roster.unregister, ← represents.get_eq, got]
  have written := (represents.written (represents.mem_iff.mp found)).2
  rcases c.unregister_eq r.id with ⟨e, refused⟩ | ⟨r', -, removed⟩
  · unfold unregister at refused
    cases taken : c.mesh.store.unregister r.id with
    | mk result store =>
      rw [taken] at done
      cases done
      simp [Failure.requireText_of_written _ written, taken] at refused
  · exact ⟨r', removed⟩

/-! ## What can be seen of it -/

/-- Nothing has happened to an instance since its registration. -/
structure New (c : Coordinator) (id : String) : Prop where
  closed : ∃ x, c.mesh.bank.find? id = some x ∧ x.state = .closed ∧ x.failures = 0
  idle : ∃ x, c.mesh.balancer.loads[id]? = some x ∧ x.inFlight = 0 ∧ x.total = 0
  unchecked : (c.mesh.monitor.slot id).history.checks = []
  unwatched : c.mesh.monitor.isWatched id = false

/-- Attached state is there for registered instances and for nothing else. -/
structure InStep (c : Coordinator) : Prop where
  /-- the ids with a breaker are the registered ones -/
  breakers : ∀ id, (c.mesh.bank.find? id).isSome = c.mesh.store.contains id
  /-- the ids with load counters are the registered ones -/
  loads : ∀ id, c.mesh.balancer.tracks id = c.mesh.store.contains id
  /-- a watched id is registered and has a slot -/
  watched : ∀ id, c.mesh.monitor.isWatched id = true →
    c.mesh.store.contains id = true ∧ (c.mesh.monitor.slots[id]?).isSome = true
  /-- an id with a slot is registered -/
  slotted : ∀ id : String, (c.mesh.monitor.slots[id]?).isSome = true →
    c.mesh.store.contains id = true
  /-- the statuses are those of the watched ids -/
  statuses : ∀ id, id ∈ (c.mesh.monitor.statuses c.mesh.store).map HealthSnapshot.id ↔
    c.mesh.monitor.isWatched id = true
  /-- the statuses ascend by id, so none is listed twice -/
  ascending : ((c.mesh.monitor.statuses c.mesh.store).map HealthSnapshot.id).Pairwise (· < ·)
  /-- every breaker has the settings of the configuration in force -/
  settings : ∀ id x, c.mesh.bank.find? id = some x →
    x.settings.threshold = c.mesh.balancer.config.breakerThreshold ∧
    x.settings.timeout = c.mesh.balancer.config.breakerTimeout
  /-- an id that was removed can be registered anew -/
  replaceable : ∀ id old r, (c.unregister id).1 = .ok old → r.id = id → r.validate = .ok () →
    ((c.unregister id).2.register r).1 = .ok ()
  /-- whatever happened to an id before, a registration begins anew -/
  renewed : ∀ r, (c.register r).1 = .ok () → (c.register r).2.New r.id

private theorem statuses_ids (h : c.mesh.Attached) :
    (c.mesh.monitor.statuses c.mesh.store).map HealthSnapshot.id = c.mesh.monitor.watches.keys := by
  have listed : ∀ id ∈ c.mesh.monitor.watches.keys,
      Option.map HealthSnapshot.id (if c.mesh.monitor.slots.contains id then
        (c.mesh.store.get id).toOption.map Record.snapshot else none) = some id := by
    intro id hid
    obtain ⟨w, hw⟩ := Table.mem_keys_iff.mp hid
    have slot := h.monitor.watched id (Option.isSome_of_eq_some hw)
    obtain ⟨r, found⟩ := Option.isSome_iff_exists.mp (h.monitor.slotted id slot)
    obtain ⟨got, same⟩ := h.find?_eq_some found
    rw [Std.ExtTreeMap.contains_eq_isSome_getElem?, slot, got, ← same]
    rfl
  rw [Monitor.statuses, List.map_filterMap]
  calc c.mesh.monitor.watches.keys.filterMap (fun id =>
        Option.map HealthSnapshot.id (if c.mesh.monitor.slots.contains id then
          (c.mesh.store.get id).toOption.map Record.snapshot else none))
      = c.mesh.monitor.watches.keys.filterMap some := List.filterMap_congr listed
    _ = c.mesh.monitor.watches.keys := List.filterMap_some

theorem new_of_register (h : c.mesh.Attached) {r : Record} (done : (c.register r).1 = .ok ()) :
    (c.register r).2.New r.id := by
  rcases c.register_eq r with ⟨e, refused⟩ | ⟨valid, new, registered⟩
  · rw [refused] at done
    cases done
  · rw [registered]
    constructor
    · refine ⟨{ settings := c.mesh.balancer.config.breakerSettings }, ?_, rfl, rfl⟩
      change (c.mesh.bank.track r.id _).find? r.id = _
      rw [Bank.track_of_absent (h.bank.find?_eq_none new)]
      exact Table.getElem?_insert_self _ _ _
    · refine ⟨{}, ?_, rfl, rfl⟩
      change (c.mesh.balancer.track r.id).loads[r.id]? = _
      rw [Balancer.track_of_absent (h.balancer.loads_eq_none new)]
      exact Table.getElem?_insert_self _ _ _
    · change ((c.mesh.monitor.slots[r.id]?).getD {}).history.checks = []
      rw [h.monitor.slots_eq_none new]
      rfl
    · exact h.monitor.isWatched_eq_false new

theorem register_after_unregister {id : String} {old r : Record}
    (removed : (c.unregister id).1 = .ok old) (same : r.id = id) (valid : r.validate = .ok ()) :
    ((c.unregister id).2.register r).1 = .ok () := by
  rcases c.unregister_eq id with ⟨e, refused⟩ | ⟨_, done, gone⟩
  · rw [refused] at removed
    cases removed
  · have free : (c.unregister id).2.mesh.store.contains r.id = false := by
      rw [gone]
      change (c.mesh.store.unregister id).2.contains r.id = false
      rw [Store.contains_unregister done, removing, same, bne_self_eq_false, Bool.false_and]
    rw [register_of_free _ valid free]

/-- Attached state follows the registry, whatever happens to a node and in whatever order:
operations, the passing of time, and the steps of loops and of spawned checks. -/
theorem inStep_after (config : Config) (events : List Event) :
    ((fresh config).after events).InStep := by
  have h := attached_after config events
  have ids := statuses_ids h
  constructor
  · exact h.bank.tracked
  · exact h.balancer
  · intro id watched
    have slot := h.monitor.watched id watched
    exact ⟨h.monitor.slotted id slot, slot⟩
  · exact h.monitor.slotted
  · intro id
    rw [ids, Table.mem_keys_iff, Monitor.isWatched, Option.isSome_iff_exists]
  · rw [ids]
    exact Table.keys_ascend _
  · intro id x found
    rw [h.bank.settings id x found]
    exact ⟨rfl, rfl⟩
  · exact fun _ _ _ removed same valid => register_after_unregister removed same valid
  · exact fun _ => new_of_register h

end Coordinator

end ServiceMesh
