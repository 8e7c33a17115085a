import ServiceMesh.Coordinator.Operation
import ServiceMesh.Proofs.Coordinator.Follows

/-!
# What operations change

Checking, registering, removing and configuring touch several parts of a node. Each of
them is refused before anything has changed, or takes effect in every part that it
concerns; the steps in between that could still fail do not.
-/

namespace ServiceMesh

/-! ## Checks -/

namespace Mesh

variable (m : Mesh) (r : Record) (id : String) (previous current : Status) (outcome : Outcome)
  (time : Option Duration) (config : HealthConfig)

/-- What the tracker of an instance makes of an outcome. -/
def verdict : Status × Tracker := (m.monitor.slot r.id).tracker.observe r.status outcome config

/-- The slot of an instance after a check. -/
def checkedSlot : Slot :=
  { tracker := (m.verdict r outcome config).2
    history := (m.monitor.slot r.id).history.push
      { outcome, status := (m.verdict r outcome config).1, time } }

/-- The parts of a node after a probe that was answered, or not. -/
def noted : Mesh :=
  match time with
  | none => m
  | some t =>
    { m with
      store := m.store.modify id fun r => { r with lastResponse := some (.measured t) }
      monitor := m.monitor.countCheck (.answered outcome) }

/-- The parts of a node after an instance was given a status. -/
def turned : Mesh :=
  if current = previous then m
  else
    { m with
      store := m.store.modify id fun r => { r with status := current }
      monitor := { m.monitor with gauge := m.monitor.gauge.insert id current.selectable }
      notifier := m.notifier.statusChanged { id, previous, current } }

/-- The parts of a node with another slot for an instance. -/
def slotted (slot : Slot) : Mesh :=
  { m with monitor := { m.monitor with slots := m.monitor.slots.insert id slot } }

/-- The parts of a node without the slot of an id. -/
def vacated : Mesh := { m with monitor := { m.monitor with slots := m.monitor.slots.erase id } }

/-- The parts of a node after a check of a registered instance. -/
def checked : Mesh :=
  ((m.slotted r.id (m.checkedSlot r outcome time config)).noted r.id outcome time).turned r.id
    r.status (m.verdict r outcome config).1

/-! What a check leaves alone. -/

@[simp] theorem balancer_noted : (m.noted id outcome time).balancer = m.balancer := by
  cases time <;> rfl

@[simp] theorem watches_noted : (m.noted id outcome time).monitor.watches = m.monitor.watches := by
  cases time <;> rfl

@[simp] theorem begun_noted : (m.noted id outcome time).monitor.begun = m.monitor.begun := by
  cases time <;> rfl

@[simp] theorem slots_noted : (m.noted id outcome time).monitor.slots = m.monitor.slots := by
  cases time <;> rfl

@[simp] theorem contains_noted : (m.noted id outcome time).store.contains = m.store.contains := by
  cases time with
  | none => rfl
  | some t => exact m.store.contains_modify id _

@[simp] theorem balancer_turned :
    (m.turned id previous current).balancer = m.balancer := by
  unfold turned
  split <;> rfl

@[simp] theorem watches_turned :
    (m.turned id previous current).monitor.watches = m.monitor.watches := by
  unfold turned
  split <;> rfl

@[simp] theorem begun_turned : (m.turned id previous current).monitor.begun = m.monitor.begun := by
  unfold turned
  split <;> rfl

@[simp] theorem slots_turned : (m.turned id previous current).monitor.slots = m.monitor.slots := by
  unfold turned
  split <;> rfl

@[simp] theorem balancer_checked : (m.checked r outcome time config).balancer = m.balancer := by
  simp [checked, slotted]

@[simp] theorem watches_checked :
    (m.checked r outcome time config).monitor.watches = m.monitor.watches := by
  simp [checked, slotted]

@[simp] theorem begun_checked :
    (m.checked r outcome time config).monitor.begun = m.monitor.begun := by
  simp [checked, slotted]

@[simp] theorem slot_checked :
    (m.checked r outcome time config).monitor.slot r.id = m.checkedSlot r outcome time config := by
  simp [checked, slotted, Monitor.slot]

private theorem find?_noted_ne {other : String} (differ : id ≠ other) :
    (m.noted id outcome time).store.find? other = m.store.find? other := by
  cases time with
  | none => rfl
  | some t => exact Table.getElem?_update_ne _ differ _

private theorem find?_turned_ne {other : String} (differ : id ≠ other) :
    (m.turned id previous current).store.find? other = m.store.find? other := by
  unfold turned
  split
  · rfl
  · exact Table.getElem?_update_ne _ differ _

/-- A check leaves the records of the other instances alone. -/
theorem find?_checked_ne {other : String} (differ : r.id ≠ other) :
    (m.checked r outcome time config).store.find? other = m.store.find? other := by
  rw [checked, find?_turned_ne _ _ _ _ differ, find?_noted_ne _ _ _ _ differ, slotted]

/-- A check leaves the slots of the other instances alone. -/
theorem slot_checked_ne {other : String} (differ : r.id ≠ other) :
    (m.checked r outcome time config).monitor.slot other = m.monitor.slot other := by
  rw [Monitor.slot, checked, slots_turned, slots_noted, slotted,
    Table.getElem?_insert_ne _ differ, Monitor.slot]

/-! What a check does to its instance. -/

theorem notifier_noted : (m.noted id outcome time).notifier = m.notifier := by
  cases time <;> rfl

theorem notifier_checked : (m.checked r outcome time config).notifier =
    if (m.verdict r outcome config).1 = r.status then m.notifier
    else m.notifier.statusChanged
      { id := r.id, previous := r.status, current := (m.verdict r outcome config).1 } := by
  unfold checked turned
  split
  · rw [notifier_noted, slotted]
  · rw [notifier_noted, slotted]

private theorem find?_noted {r : Record} (found : m.store.find? id = some r) :
    (m.noted id outcome time).store.find? id =
      some { r with lastResponse := (time.map .measured).or r.lastResponse } := by
  cases time with
  | none => exact found
  | some t =>
    rw [noted, Store.find?_modify, found, Option.map_some, if_pos rfl]
    rfl

private theorem find?_turned {r : Record} (found : m.store.find? id = some r)
    (known : r.status = previous) :
    (m.turned id previous current).store.find? id = some { r with status := current } := by
  unfold turned
  split
  case isTrue same =>
    rw [found, same, ← known]
  case isFalse => rw [Store.find?_modify, found, Option.map_some, if_pos rfl]

/-- The record of an instance after a check has the status that was decided, and the
response time if the probe was answered. -/
theorem find?_checked {r : Record} (found : m.store.find? r.id = some r) :
    (m.checked r outcome time config).store.find? r.id =
      some { r with
        status := (m.verdict r outcome config).1
        lastResponse := (time.map .measured).or r.lastResponse } := by
  have noted := find?_noted (m.slotted r.id (m.checkedSlot r outcome time config)) r.id outcome
    time found
  exact find?_turned _ r.id r.status _ noted rfl

/-- A part of the records that stays as it is while they are registered. -/
structure Lasting (part : Record → α) : Prop where
  status : ∀ r status, part { r with status } = part r
  response : ∀ r lastResponse, part { r with lastResponse } = part r
  metadata : ∀ r metadata, part { r with metadata } = part r

theorem Lasting.checked {part : Record → α} (lasting : Lasting part) (other : String) :
    ((m.checked r outcome time config).store.find? other).map part =
      (m.store.find? other).map part := by
  have noted : ∀ m : Mesh, ((m.noted r.id outcome time).store.find? other).map part =
      (m.store.find? other).map part := by
    intro m
    cases time with
    | none => rfl
    | some t => exact m.store.map_find?_modify r.id other fun r => lasting.response r _
  have turned : ∀ (m : Mesh) current,
      ((m.turned r.id r.status current).store.find? other).map part =
        (m.store.find? other).map part := by
    intro m current
    unfold Mesh.turned
    split
    · rfl
    · exact m.store.map_find?_modify r.id other fun r => lasting.status r _
  rw [Mesh.checked, turned, noted]
  rfl

/-! A check of a registered instance fails nowhere. -/

theorem noteAnswer_of_contains (there : m.store.contains id = true) :
    m.noteAnswer id outcome time = (.ok (), m.noted id outcome time) := by
  cases time with
  | none => rfl
  | some t =>
    unfold noteAnswer Store.setResponse
    simp only [there, if_true]
    rfl

theorem changeStatus_of_contains (there : m.store.contains id = true)
    (differ : current ≠ previous) :
    m.changeStatus id previous current = (.ok (), m.turned id previous current) := by
  obtain ⟨r, found⟩ := Option.isSome_iff_exists.mp there
  unfold changeStatus Store.setStatus turned
  simp only [found, if_neg differ]

theorem applyTo_of_contains (there : m.store.contains r.id = true) :
    m.applyTo r outcome time config =
      (.ok (m.verdict r outcome config).1, m.checked r outcome time config) := by
  cases seen : m.verdict r outcome config with
  | mk next tracker =>
    have slot : m.checkedSlot r outcome time config =
        { tracker
          history := (m.monitor.slot r.id).history.push { outcome, status := next, time } } := by
      rw [checkedSlot, seen]
    have answered := noteAnswer_of_contains (m.slotted r.id (m.checkedSlot r outcome time config))
      r.id outcome time there
    have still : ((m.slotted r.id (m.checkedSlot r outcome time config)).noted r.id outcome
        time).store.contains r.id = true := by
      rwa [contains_noted]
    have given := changeStatus_of_contains _ r.id r.status next still
    have whole : m.checked r outcome time config =
        ((m.slotted r.id (m.checkedSlot r outcome time config)).noted r.id outcome time).turned r.id
          r.status next := by
      rw [checked, seen]
    rw [whole]
    unfold applyTo
    unfold verdict at seen
    rw [slotted, slot] at answered given ⊢
    by_cases same : next = r.status
    · simp only [seen, answered, if_pos same, turned]
    · simp only [seen, answered, if_neg same, given same]

end Mesh

/-- The parts of a node after a report on an instance that was taken in. -/
def Mesh.reported (m : Mesh) (r : Record) (id : String) (time : Duration) (success : Bool)
    (bank : Bank) : Mesh :=
  { m with
    store := m.store.modify id fun r => { r with lastResponse := some (.reported time) }
    bank
    balancer := m.balancer.reported r.serviceName id time success }

namespace Coordinator

/-! ## Membership -/

/-- The parts of a node after a registration. -/
def added (c : Coordinator) (r : Record) : Mesh :=
  announce { c.mesh with
    store := (c.mesh.store.register { r with status := c.initialStatus }).2
    bank := c.mesh.bank.track r.id c.mesh.balancer.config.breakerSettings
    balancer := c.mesh.balancer.track r.id }
    (.registered { r with status := c.initialStatus })

theorem register_of_free (c : Coordinator) {r : Record} (valid : r.validate = .ok ())
    (free : c.mesh.store.contains r.id = false) :
    c.register r = (.ok (), c.setMesh (c.added r)) := by
  have done : (c.mesh.store.register { r with status := c.initialStatus }).1 = .ok () :=
    Store.register_ok valid free
  unfold register added
  simp only [valid, free]
  cases registered : c.mesh.store.register { r with status := c.initialStatus } with
  | mk result store =>
    rw [registered] at done
    cases done
    rfl

/-- A registration is refused before anything has changed, or its id is added everywhere
but to the monitor. -/
theorem register_eq (c : Coordinator) (r : Record) :
    (∃ e, c.register r = (.error e, c)) ∨
    (r.validate = .ok () ∧ c.mesh.store.contains r.id = false ∧
      c.register r = (.ok (), c.setMesh (c.added r))) := by
  cases valid : r.validate with
  | error e => exact .inl ⟨e, by simp only [register, valid]⟩
  | ok _ =>
    cases free : c.mesh.store.contains r.id with
    | true => exact .inl ⟨.duplicateId r.id, by simp only [register, valid, free, if_true]⟩
    | false => exact .inr ⟨rfl, rfl, c.register_of_free valid free⟩

/-- The parts of a node after a removal. -/
def removed (c : Coordinator) (id : String) (r : Record) : Mesh :=
  announce { c.mesh with
    store := (c.mesh.store.unregister id).2
    monitor := c.mesh.monitor.forget id
    bank := c.mesh.bank.forget id
    balancer := c.mesh.balancer.forget id } (.unregistered r)

/-- A removal is refused before anything has changed, or its id is removed everywhere. -/
theorem unregister_eq (c : Coordinator) (id : String) :
    (∃ e, c.unregister id = (.error e, c)) ∨
    ∃ r, (c.mesh.store.unregister id).1 = .ok r ∧
      c.unregister id = (.ok r, c.setMesh (c.removed id r)) := by
  unfold unregister
  cases Failure.requireText id "service_id" with
  | error e => exact .inl ⟨e, rfl⟩
  | ok _ =>
    cases taken : c.mesh.store.unregister id with
    | mk result store =>
      cases result with
      | error e =>
        have same := Store.unregister_of_error (congrArg Prod.fst taken)
        rw [taken] at same
        cases same
        exact .inl ⟨e, by simp only [taken]; rfl⟩
      | ok r => exact .inr ⟨r, rfl, by simp only [taken, removed]⟩

/-! ## Reports -/

/-- A report is refused before anything has changed, or taken in everywhere. -/
theorem report_eq (c : Coordinator) (id : String) (time : Duration) (success : Bool) :
    (∃ e, c.report id time success = (.error e, c)) ∨
    ∃ r state bank, c.mesh.store.get id = .ok r ∧
      c.mesh.bank.report id success time c.timeline.moment = .ok (state, bank) ∧
      c.report id time success = (.ok (), c.setMesh (c.mesh.reported r id time success bank)) := by
  rw [report, Mesh.report]
  rcases c.mesh.balancer.report_eq c.mesh.store c.mesh.bank c.timeline.moment id time success with
    ⟨e, refused⟩ | ⟨r, state, bank, got, counted, taken⟩
  · exact .inl ⟨e, by rw [refused]; rfl⟩
  · exact .inr ⟨r, state, bank, got, counted, by rw [taken]; rfl⟩

/-! ## Configuration -/

/-- The parts of a node after a configuration that was accepted. -/
def configured (m : Mesh) (health : Option HealthConfig) (balancer : Option BalancerConfig) :
    Mesh :=
  let m := match health with
    | none => m
    | some defaults => { m with monitor := { m.monitor with defaults } }
  match balancer with
  | none => m
  | some config =>
    { m with
      bank := m.bank.reconfigure config.breakerSettings
      balancer := { m.balancer with config, revision := m.balancer.revision + 1 } }

theorem setHealth_of_check (m : Mesh) {health : Option HealthConfig}
    (accepted : ∀ config, health = some config → config.check = .ok ()) :
    setHealth m health = (.ok (), configured m health none) := by
  cases health with
  | none => rfl
  | some config =>
    rw [setHealth, Monitor.setDefaults, accepted config rfl]
    rfl

theorem setBalancer_of_check (m : Mesh) {balancer : Option BalancerConfig}
    (accepted : ∀ config, balancer = some config → config.check = .ok ()) :
    setBalancer m balancer = (.ok (), configured m none balancer) := by
  cases balancer with
  | none => rfl
  | some config =>
    rw [setBalancer, Balancer.setConfig, accepted config rfl]
    rfl

theorem check_of_checkSections {health : Option HealthConfig} {balancer : Option BalancerConfig}
    (accepted : checkSections health balancer = .ok ()) :
    (∀ config, health = some config → config.check = .ok ()) ∧
      ∀ config, balancer = some config → config.check = .ok () := by
  cases health with
  | none =>
    cases balancer with
    | none => exact ⟨nofun, nofun⟩
    | some config => exact ⟨nofun, by rintro _ ⟨⟩; exact accepted⟩
  | some config =>
    obtain ⟨_, first, rest⟩ := Failure.bind_eq_ok_iff.mp accepted
    cases balancer with
    | none => exact ⟨by rintro _ ⟨⟩; exact first, nofun⟩
    | some config => exact ⟨by rintro _ ⟨⟩; exact first, by rintro _ ⟨⟩; exact rest⟩

/-- A configuration is refused before anything has changed, or taken on everywhere. -/
theorem configure_eq (c : Coordinator) (health : Option HealthConfig)
    (balancer : Option BalancerConfig) :
    (∃ e, c.configure health balancer = (.error e, c)) ∨
      c.configure health balancer = (.ok (), c.setMesh (configured c.mesh health balancer)) := by
  unfold configure
  cases sections : checkSections health balancer with
  | error e => exact .inl ⟨e, rfl⟩
  | ok _ =>
    obtain ⟨healthy, balanced⟩ := check_of_checkSections sections
    refine .inr ?_
    simp only [setHealth_of_check _ healthy, setBalancer_of_check _ balanced]
    rfl

end Coordinator

end ServiceMesh
