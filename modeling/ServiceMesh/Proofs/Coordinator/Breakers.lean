import ServiceMesh.Proofs.Coordinator.Lifetime
import ServiceMesh.Proofs.Coordinator.Refusal

/-!
# What becomes of a breaker

Only a few things that happen to a node do something to the breaker of an id: it is there from
the registration of the id to its removal, a report on the id is recorded by it, and it can be
reset. Everything else looks at it at most. Those that count leave a mark, which is made from
an operation and its answer.
-/

namespace ServiceMesh

/-! ## Breakers -/

namespace Breaker

variable (b : Breaker) (time : Duration) (now : Moment)

theorem hasWaited_iff {opened : Moment} (at_ : b.openedAt = some opened) (later : opened ≤ now) :
    b.hasWaited now = true ↔ opened + b.settings.timeout.nanoseconds ≤ now := by
  unfold hasWaited
  rw [at_]
  rw [decide_eq_true_iff]
  exact Nat.le_sub_iff_add_le' later

theorem hasWaited_of_lt {opened : Moment} (at_ : b.openedAt = some opened) (later : opened ≤ now)
    (early : now < opened + b.settings.timeout.nanoseconds) : b.hasWaited now = false := by
  rw [Bool.eq_false_iff, ne_eq, b.hasWaited_iff now at_ later]
  exact Nat.not_le.mpr early

/-- Before its timeout no look changes a breaker. -/
theorem refresh_of_waiting (waiting : b.hasWaited now = false) : b.refresh now = b :=
  if_neg (by simp [waiting])

/-- A look at a breaker does not close it. -/
theorem closed_of_refresh (closed : (b.refresh now).state = .closed) :
    b.state = .closed ∧ b.refresh now = b := by
  rcases b.refresh_cases now with ⟨-, -, half⟩ | same
  · rw [half] at closed
    cases closed
  · rw [same] at closed
    exact ⟨closed, same⟩

/-- A breaker that is closed after a report has heard of a success, or of one more failure
that does not reach the threshold. -/
theorem closed_of_record {success : Bool} (closed : (b.record success time now).state = .closed) :
    (success = true ∧ (b.record success time now).failures = 0) ∨
    (success = false ∧ b.state = .closed ∧
      (b.record success time now).failures = b.failures + 1 ∧
      b.failures + 1 < b.settings.threshold) := by
  cases state : (b.refresh now).state with
  | closed =>
    obtain ⟨before, same⟩ := b.closed_of_refresh now state
    cases success with
    | true =>
      have cleared : b.record true time now =
          { b with lastResponse := some time, failures := 0 } := by
        simp only [record, same, settle, before]
      rw [cleared]
      exact .inl ⟨rfl, rfl⟩
    | false =>
      by_cases reached : b.settings.threshold ≤ b.failures + 1
      · simp [record, same, settle, before, reached, trip] at closed
      · have counted : b.record false time now =
            { b with lastResponse := some time, failures := b.failures + 1 } := by
          simp only [record, same, settle, before, if_neg reached]
        rw [counted]
        exact .inr ⟨rfl, before, rfl, UInt32.not_le.mp reached⟩
  | «open» => cases success <;> simp [record, settle, state] at closed
  | halfOpen =>
    cases success with
    | true => simp [record, settle, state]
    | false => simp [record, settle, state, trip] at closed

/-- The failure that reaches the threshold opens a closed breaker. -/
theorem record_of_reached (closed : b.state = .closed)
    (reached : b.settings.threshold ≤ b.failures + 1) :
    (b.record false time now).state = .open ∧
      (b.record false time now).openedAt = some now := by
  have same : b.refresh now = b := refresh_of_ne_open (by simp [closed]) now
  simp only [record, same, settle, closed]
  rw [if_pos reached]
  exact ⟨rfl, rfl⟩

/-- Before its timeout an open breaker stays open since the same moment, whatever it hears. -/
theorem record_of_waiting (isOpen : b.state = .open) (waiting : b.hasWaited now = false)
    (success : Bool) :
    (b.record success time now).state = .open ∧
      (b.record success time now).openedAt = b.openedAt := by
  cases success <;> simp [record, b.refresh_of_waiting now waiting, settle, isOpen]

end Breaker

namespace Bank

variable {b next : Bank} {id other : String} {now : Moment}

theorem find?_put_self (b : Bank) (id : String) (before after : Breaker) :
    (b.put id before after).find? id = some after :=
  Table.getElem?_insert_self _ _ _

theorem find?_put_ne (b : Bank) (differ : id ≠ other) (before after : Breaker) :
    (b.put id before after).find? other = b.find? other :=
  Table.getElem?_insert_ne _ differ _

private theorem find?_track_ne (b : Bank) (differ : id ≠ other) (settings : BreakerSettings) :
    (b.track id settings).find? other = b.find? other := by
  unfold track
  split
  · rfl
  · exact Table.getElem?_insert_ne _ differ _

end Bank

/-! ## Marks -/

/-- What has happened to an id that counts for its breaker. -/
inductive Mark where
  | registered
  | succeeded
  | failed
  | reset
  /-- its breaker was not closed before and is closed now -/
  | closed
  deriving DecidableEq

/-- The mark that an operation leaves on an id, if it is answered so. -/
def Operation.mark? (id : String) : Operation → Answer → Option Mark
  | .register r, .done => if r.id = id then some .registered else none
  | .report other _ success, .done =>
    if other = id then some (if success then .succeeded else .failed) else none
  | .resetBreaker other, .done => if other = id then some .reset else none
  | _, _ => none

/-- Whether a happening may give breakers other settings. -/
def Happening.reconfigures : Happening → Bool
  | .act (.call (.configure _ (some _))) => true
  | _ => false

namespace Coordinator

variable {c next : Coordinator} {id : String}

/-- The mark that a happening leaves on an id. -/
def mark? (c : Coordinator) (id : String) : Happening → Option Mark
  | .act (.call op) => op.mark? id (c.perform op).1
  | _ => none

/-- The mark that a happening leaves on an id, and what becomes of the breaker of the id. -/
inductive Fate (c : Coordinator) (id : String) (h : Happening) :
    Option Mark → Option Breaker → Prop
  | kept : Fate c id h none (c.mesh.bank.find? id)
  | glanced {x : Breaker} (found : c.mesh.bank.find? id = some x) :
      Fate c id h none (some (x.refresh c.timeline.moment))
  | recorded {x : Breaker} {time : Duration} {success : Bool}
      (reports : h = .act (.call (.report id time success)))
      (found : c.mesh.bank.find? id = some x) :
      Fate c id h (some (if success then .succeeded else .failed))
        (some (x.record success time c.timeline.moment))
  | reset {x : Breaker} (resets : h = .act (.call (.resetBreaker id)))
      (found : c.mesh.bank.find? id = some x) : Fate c id h (some .reset) (some x.reset)
  | dropped (removes : h = .act (.call (.unregister id))) : Fate c id h none none
  | tracked (absent : c.mesh.bank.find? id = none) :
      Fate c id h (some .registered)
        (some { settings := c.mesh.balancer.config.breakerSettings })

theorem Fate.of_eq {h : Happening} {x : Option Breaker} (same : x = c.mesh.bank.find? id) :
    c.Fate id h none x :=
  same ▸ .kept

theorem mark?_refused (op : Operation) (e : Failure) : op.mark? id (.refused e) = none := by
  cases op <;> rfl

/-- A selection looks at the breakers of members. -/
theorem fate_select (name : String) (client : Option String) (draw : UInt64) (h : Happening) :
    c.Fate id h none ((c.select name client draw).2.mesh.bank.find? id) := by
  have bank : (c.select name client draw).2.mesh.bank =
      (c.mesh.balancer.select c.mesh.store c.mesh.bank c.timeline.moment name client
        draw).2.2 := rfl
  rw [bank]
  rcases (c.mesh.balancer.select_leaves c.mesh.store c.mesh.bank c.timeline.moment name client
    draw).2 with same | ⟨members, looked⟩
  · rw [same]
    exact .kept
  · rw [looked, Balancer.find?_fit]
    split
    · rw [Bank.view]
      cases found : c.mesh.bank.find? id with
      | none => exact .of_eq found.symm
      | some x => exact .glanced found
    · exact .kept

private theorem fate_register (attached : c.mesh.Attached) {r : Record}
    (free : c.mesh.store.contains r.id = false) :
    c.Fate id (.act (.call (.register r))) ((Operation.register r).mark? id .done)
      ((c.mesh.bank.track r.id c.mesh.balancer.config.breakerSettings).find? id) := by
  rw [Operation.mark?]
  split
  case isTrue own =>
    subst own
    have absent := attached.bank.find?_eq_none free
    rw [Bank.track_of_absent absent, Bank.find?, Table.getElem?_insert_self]
    exact .tracked absent
  case isFalse differ => exact .of_eq (Bank.find?_track_ne _ differ _)

private theorem fate_report {other : String} {time : Duration} {success : Bool}
    {state : BreakerState} {bank : Bank}
    (counted : c.mesh.bank.report other success time c.timeline.moment = .ok (state, bank)) :
    c.Fate id (.act (.call (.report other time success)))
      ((Operation.report other time success).mark? id .done) (bank.find? id) := by
  obtain ⟨before, got, rest⟩ := Failure.bind_eq_ok_iff.mp counted
  cases rest
  rw [Operation.mark?]
  split
  case isTrue own =>
    subst own
    rw [Bank.find?_put_self]
    exact .recorded rfl (Bank.find?_of_get got)
  case isFalse differ => exact .of_eq (Bank.find?_put_ne _ differ _ _)

private theorem fate_reset {other : String} {bank : Bank}
    (done : c.mesh.bank.reset other = .ok bank) :
    c.Fate id (.act (.call (.resetBreaker other))) ((Operation.resetBreaker other).mark? id .done)
      (bank.find? id) := by
  obtain ⟨before, got, rest⟩ := Failure.bind_eq_ok_iff.mp done
  cases rest
  rw [Operation.mark?]
  split
  case isTrue own =>
    subst own
    rw [Bank.find?, Table.getElem?_insert_self]
    exact .reset rfl (Bank.find?_of_get got)
  case isFalse differ => exact .of_eq (Table.getElem?_insert_ne _ differ _)

private theorem fate_read {other : String} {status : BreakerStatus} {bank : Bank}
    (done : c.mesh.bank.status other c.timeline.moment = .ok (status, bank)) (h : Happening) :
    c.Fate id h none (bank.find? id) := by
  obtain ⟨before, got, rest⟩ := Failure.bind_eq_ok_iff.mp done
  cases rest
  by_cases own : other = id
  · subst own
    rw [Bank.find?_put_self]
    exact .glanced (Bank.find?_of_get got)
  · exact .of_eq (Bank.find?_put_ne _ own _ _)

theorem fate_call {op : Operation} {answer : Answer} (made : Call c op answer next)
    (attached : c.mesh.Attached) (unchanged : (Happening.act (.call op)).reconfigures = false) :
    c.Fate id (.act (.call op)) (op.mark? id answer) (next.mesh.bank.find? id) := by
  cases made with
  | refused op e =>
    rw [mark?_refused]
    exact .kept
  | register r valid free => exact fate_register attached free
  | @unregister other r done =>
    change c.Fate id _ none ((c.mesh.bank.forget other).find? id)
    by_cases own : other = id
    · subst own
      rw [Bank.find?, Bank.forget, Table.getElem?_erase_self]
      exact .dropped rfl
    · exact .of_eq (Table.getElem?_erase_ne _ own)
  | select name client draw => exact fate_select name client draw _
  | report got counted => exact fate_report counted
  | readBreaker done => exact fate_read done _
  | resetBreaker done => exact fate_reset done
  | configure health balancer =>
    cases balancer with
    | none =>
      cases health with
      | none => exact .kept
      | some => exact .kept
    | some => cases unchanged
  | _ => exact .kept

/-! ## What loops and checks leave alone -/

/-- A check leaves the breakers alone. -/
theorem bank_checked (m : Mesh) (r : Record) (outcome : Outcome) (time : Option Duration)
    (config : HealthConfig) : (m.checked r outcome time config).bank = m.bank := by
  rw [Mesh.checked, Mesh.turned]
  cases time <;> split <;> rfl

theorem bank_beat {t : Timeline} (b : Beat c.timeline t) (attached : c.mesh.Attached) :
    (t.mesh.bank, t.mesh.balancer.config) = (c.mesh.bank, c.mesh.balancer.config) := by
  cases b with
  | aside same => rw [same]; rfl
  | setPhase | abandon | count => rfl
  | apply id outcome time config =>
    change ((c.mesh.applyCheck id outcome time config false).2.bank,
      (c.mesh.applyCheck id outcome time config false).2.balancer.config) = _
    rcases attached.applyCheck_eq id outcome time config with
      ⟨-, e, -, refused⟩ | ⟨r, -, -, applied⟩
    · rw [refused]
      rfl
    · rw [applied, bank_checked, Mesh.balancer_checked]

/-- An act that is no call leaves breakers and their settings alone. -/
theorem bank_act (attached : c.mesh.Attached) {a : Act} (timed : ∀ op, a ≠ .call op) :
    (c.act a).mesh.bank = c.mesh.bank ∧
      (c.act a).mesh.balancer.config = c.mesh.balancer.config :=
  Prod.mk.inj (act_leaves (fun m => (m.bank, m.balancer.config)) bank_beat attached timed)

/-! ## What becomes of a breaker -/

theorem mark?_of_waits {op : Operation} (waits : op.waits = true) (answer : Answer) :
    op.mark? id answer = none := by
  cases op with
  | check | join | advance => rfl
  | _ => cases waits

variable (id) in
/-- The fate of a breaker when something happens. -/
theorem fate (attached : c.mesh.Attached) {h : Happening} (unchanged : h.reconfigures = false) :
    c.Fate id h (c.mark? id h) ((c.happen h).mesh.bank.find? id) := by
  cases h with
  | elapse => exact .kept
  | act a =>
    cases a with
    | call op =>
      rw [happen, mark?]
      cases waits : op.waits with
      | true =>
        rw [act, waits, mark?_of_waits waits]
        exact .kept
      | false =>
        rw [act_call c waits]
        exact fate_call (c.perform_call waits) attached unchanged
    | _ => exact .of_eq (congrArg (Bank.find? · id) (bank_act attached (by simp)).1)

theorem config_call {op : Operation} {answer : Answer} (made : Call c op answer next)
    (unchanged : (Happening.act (.call op)).reconfigures = false) :
    next.mesh.balancer.config = c.mesh.balancer.config := by
  cases made with
  | register r => exact c.mesh.balancer.config_track r.id
  | select name client draw => exact c.mesh.balancer.config_select _ _ _ name client draw
  | configure health balancer =>
    cases balancer with
    | none =>
      cases health with
      | none => rfl
      | some => rfl
    | some => cases unchanged
  | _ => rfl

/-- Without a new configuration the settings stay in force. -/
theorem config_happen (attached : c.mesh.Attached) {h : Happening}
    (unchanged : h.reconfigures = false) :
    (c.happen h).mesh.balancer.config = c.mesh.balancer.config := by
  rcases happen_cases (fun m => (m.bank, m.balancer.config)) bank_beat attached h with
    ⟨op, rfl, made⟩ | ⟨-, same⟩
  · exact config_call made unchanged
  · exact (Prod.mk.inj same).2

theorem config_lived (attached : c.mesh.Attached) {life : List Happening}
    (unchanged : ∀ h ∈ life, h.reconfigures = false) :
    (c.lived life).mesh.balancer.config = c.mesh.balancer.config := by
  induction life generalizing c with
  | nil => rfl
  | cons h rest ih =>
    obtain ⟨first, others⟩ := List.forall_mem_cons.mp unchanged
    rw [lived_cons, ih (attached_happen attached h) others, config_happen attached first]

end Coordinator

end ServiceMesh
