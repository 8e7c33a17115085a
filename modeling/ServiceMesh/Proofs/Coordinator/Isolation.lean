import ServiceMesh.Proofs.Coordinator.Breakers

/-!
# Isolation of failing instances

The failures in a row that count are those since the latest mark of another kind. A closed
breaker has counted just these, so the one that reaches the threshold opens it. From then on
the breaker is open since that moment until the timeout is over, whatever it is told and
whoever looks at it, and after the timeout no look and no choice finds it open before the next
report.
-/

namespace ServiceMesh

/-! ## Failures in a row -/

/-- The number of failures since the latest mark of another kind. -/
def streak (marks : List Mark) : Nat := (marks.reverse.takeWhile (· = .failed)).length

private theorem streak_snoc_failed (marks : List Mark) :
    streak (marks ++ [.failed]) = streak marks + 1 := by
  simp [streak]

private theorem streak_snoc_of_ne {m : Mark} (other : m ≠ .failed) (marks : List Mark) :
    streak (marks ++ [m]) = 0 := by
  simp [streak, other]

namespace Coordinator

variable {c : Coordinator} {id : String} {log : List Mark}

/-- Whether a happening closes the breaker of an id. -/
def closes (c : Coordinator) (id : String) (h : Happening) : Bool :=
  (c.mesh.bank.find? id).any (·.state ≠ .closed) &&
    ((c.happen h).mesh.bank.find? id).any (·.state = .closed)

/-- The marks that a happening leaves on an id. -/
def marksOf (c : Coordinator) (id : String) (h : Happening) : List Mark :=
  (c.mark? id h).toList ++ if c.closes id h then [.closed] else []

/-- The marks that a lifetime leaves on an id. -/
def marks (c : Coordinator) (id : String) : List Happening → List Mark
  | [] => []
  | h :: rest => c.marksOf id h ++ (c.happen h).marks id rest

/-- A closed breaker has counted the failures at the end of some marks, and they are too few
to open it. -/
def Counted (c : Coordinator) (id : String) (log : List Mark) : Prop :=
  ∀ x, c.mesh.bank.find? id = some x → x.state = .closed →
    x.failures.toNat = streak log ∧ (x.failures = 0 ∨ x.failures < x.settings.threshold)

/-- After a mark that is no failure none is counted. -/
theorem streak_restart {m : Mark} (other : m ≠ .failed) (log : List Mark) (closes : Bool) :
    streak (log ++ ((some m).toList ++ if closes then [.closed] else [])) = 0 := by
  cases closes with
  | false => simpa using streak_snoc_of_ne other log
  | true =>
    rw [if_pos rfl, ← List.append_assoc]
    exact streak_snoc_of_ne (m := .closed) nofun _

theorem counted_happen (attached : c.mesh.Attached) {h : Happening}
    (unchanged : h.reconfigures = false) (counted : c.Counted id log) :
    (c.happen h).Counted id (log ++ c.marksOf id h) := by
  have fate := fate id attached unchanged
  rw [Counted, marksOf, closes]
  generalize c.mark? id h = mark at fate ⊢
  generalize (c.happen h).mesh.bank.find? id = after at fate ⊢
  intro x hx closed
  cases fate with
  | kept => simpa [hx, closed] using counted x hx closed
  | @glanced y found =>
    cases hx
    obtain ⟨before, same⟩ := y.closed_of_refresh _ closed
    rw [same] at closed ⊢
    simpa [found, before] using counted y found before
  | @recorded y time success reports found =>
    cases hx
    rcases y.closed_of_record time _ closed with ⟨rfl, zero⟩ | ⟨rfl, before, one, below⟩
    · rw [zero, if_pos rfl, streak_restart (m := .succeeded) nofun]
      exact ⟨rfl, .inl rfl⟩
    · obtain ⟨count, few⟩ := counted y found before
      rw [one, Breaker.settings_record]
      refine ⟨?_, .inr below⟩
      have small : y.failures.toNat + 1 < 2 ^ 32 := by
        rcases few with zero | few
        · rw [zero]
          decide
        · have above := UInt32.lt_iff_toNat_lt.mp few
          have limit := y.settings.threshold.toNat_lt
          omega
      have added : (y.failures + 1).toNat = y.failures.toNat + 1 := by
        rw [UInt32.toNat_add, UInt32.toNat_one, Nat.mod_eq_of_lt small]
      simp [found, before, added, count, streak_snoc_failed]
  | reset resets found =>
    cases hx
    rw [streak_restart (m := .reset) nofun]
    exact ⟨rfl, .inl rfl⟩
  | dropped => cases hx
  | tracked absent =>
    cases hx
    rw [streak_restart (m := .registered) nofun]
    exact ⟨rfl, .inl rfl⟩

theorem counted_lived (attached : c.mesh.Attached) {life : List Happening}
    (unchanged : ∀ h ∈ life, h.reconfigures = false) (counted : c.Counted id log) :
    (c.lived life).Counted id (log ++ c.marks id life) := by
  induction life generalizing c log with
  | nil => simpa [Coordinator.marks] using counted
  | cons h rest ih =>
    obtain ⟨first, others⟩ := List.forall_mem_cons.mp unchanged
    rw [lived_cons, Coordinator.marks, ← List.append_assoc]
    exact ih (attached_happen attached h) others (counted_happen attached first counted)

/-! ## Isolation -/

/-- The breaker of an id has been open since a moment. Once it has waited for the timeout it
may be half open instead. -/
structure Isolated (c : Coordinator) (id : String) (opened : Moment) (timeout : Nat) : Prop where
  later : opened ≤ c.timeline.moment
  breaker : ∃ x, c.mesh.bank.find? id = some x ∧ x.openedAt = some opened ∧
    x.settings.timeout.nanoseconds = timeout ∧
    (x.state = .open ∨ x.state = .halfOpen ∧ opened + timeout ≤ c.timeline.moment)

end Coordinator

/-- Whether a happening removes an id or resets its breaker. -/
def Happening.frees (id : String) : Happening → Bool
  | .act (.call (.unregister other)) | .act (.call (.resetBreaker other)) => other == id
  | _ => false

/-- Whether a happening is a report on an id. -/
def Happening.reportsOn (id : String) : Happening → Bool
  | .act (.call (.report other _ _)) => other == id
  | _ => false

namespace Coordinator

variable {c : Coordinator} {id : String} {log : List Mark} {opened limit : Moment} {timeout : Nat}

/-- All reports on an id come before a moment. -/
def Unheard (c : Coordinator) (id : String) (limit : Moment) : List Happening → Prop
  | [] => True
  | h :: rest =>
    (h.reportsOn id = true → c.timeline.moment < limit) ∧ (c.happen h).Unheard id limit rest

/-- What ends before a moment has only reports before it. -/
theorem unheard_of_moment {life : List Happening} (ended : (c.lived life).timeline.moment < limit) :
    c.Unheard id limit life := by
  induction life generalizing c with
  | nil => trivial
  | cons h rest ih =>
    refine ⟨fun _ => ?_, ih ended⟩
    exact Nat.lt_of_le_of_lt (c.moment_lived (h :: rest)) ended

theorem isolated_happen (attached : c.mesh.Attached) {h : Happening}
    (unchanged : h.reconfigures = false) (kept : h.frees id = false)
    (unheard : h.reportsOn id = true → c.timeline.moment < opened + timeout)
    (isolated : c.Isolated id opened timeout) : (c.happen h).Isolated id opened timeout := by
  obtain ⟨later, x, found, at_, wait, state⟩ := isolated
  have time := c.moment_happen h
  refine ⟨Nat.le_trans later time, ?_⟩
  have fate := fate id attached unchanged
  generalize c.mark? id h = mark at fate
  generalize (c.happen h).mesh.bank.find? id = after at fate ⊢
  cases fate with
  | kept => exact ⟨x, found, at_, wait, state.imp_right (.imp_right (Nat.le_trans · time))⟩
  | glanced found' =>
    cases found.symm.trans found'
    refine ⟨_, rfl, (x.openedAt_refresh _).trans at_, by rw [x.settings_refresh, wait], ?_⟩
    rcases x.refresh_cases c.timeline.moment with ⟨-, waited, half⟩ | same
    · have due := (x.hasWaited_iff _ at_ later).mp waited
      rw [wait] at due
      exact .inr ⟨by rw [half], Nat.le_trans due time⟩
    · rw [same]
      exact state.imp_right (.imp_right (Nat.le_trans · time))
  | recorded reports found' =>
    cases found.symm.trans found'
    have early : c.timeline.moment < opened + timeout :=
      unheard (by rw [reports]; exact beq_self_eq_true id)
    have isOpen : x.state = .open := state.resolve_right fun half => Nat.not_le.mpr early half.2
    have waiting := x.hasWaited_of_lt _ at_ later (wait ▸ early)
    obtain ⟨still, since⟩ := x.record_of_waiting _ _ isOpen waiting _
    exact ⟨_, rfl, since.trans at_, by rw [Breaker.settings_record, wait], .inl still⟩
  | reset resets =>
    rw [resets] at kept
    simp [Happening.frees] at kept
  | dropped removes =>
    rw [removes] at kept
    simp [Happening.frees] at kept
  | tracked absent => cases found.symm.trans absent

theorem isolated_lived (attached : c.mesh.Attached) {life : List Happening}
    (unchanged : ∀ h ∈ life, h.reconfigures = false) (kept : ∀ h ∈ life, h.frees id = false)
    (unheard : c.Unheard id (opened + timeout) life) (isolated : c.Isolated id opened timeout) :
    (c.lived life).Isolated id opened timeout := by
  induction life generalizing c with
  | nil => exact isolated
  | cons h rest ih =>
    obtain ⟨first, others⟩ := List.forall_mem_cons.mp unchanged
    obtain ⟨keeps, rest_keeps⟩ := List.forall_mem_cons.mp kept
    exact ih (attached_happen attached h) others rest_keeps unheard.2
      (isolated_happen attached first keeps unheard.1 isolated)

/-! ## The report that isolates -/

theorem contains_of_tracked (attached : c.mesh.Attached) {x : Breaker}
    (found : c.mesh.bank.find? id = some x) : c.mesh.store.contains id = true := by
  rw [← attached.bank.tracked, found]
  rfl

/-- A report on an id with a breaker is taken in. -/
theorem report_of_tracked (attached : c.mesh.Attached) {x : Breaker}
    (found : c.mesh.bank.find? id = some x) (time : Duration) (success : Bool) :
    (c.report id time success).1 = .ok () := by
  have there := contains_of_tracked attached found
  obtain ⟨r, registered⟩ := Option.isSome_iff_exists.mp there
  obtain ⟨got, -⟩ := attached.find?_eq_some registered
  obtain ⟨_, written, -⟩ := Failure.bind_eq_ok_iff.mp got
  have known : c.mesh.bank.get id = .ok x := by
    rw [Bank.get, written, found]
    rfl
  have counted : c.mesh.bank.report id success time c.timeline.moment =
      .ok ((x.record success time c.timeline.moment).state,
        c.mesh.bank.put id x (x.record success time c.timeline.moment)) := by
    rw [Bank.report, known]
    rfl
  have noted : c.mesh.store.setResponse id (.reported time) =
      .ok (c.mesh.store.modify id fun r => { r with lastResponse := some (.reported time) }) := by
    rw [Store.setResponse, if_pos there]
  rw [report, Mesh.report, Balancer.report]
  simp only [got, counted, noted]

/-- The failure that reaches the threshold isolates an instance. -/
theorem isolated_report (attached : c.mesh.Attached) {x : Breaker}
    (found : c.mesh.bank.find? id = some x) (closed : x.state = .closed)
    (counted : c.Counted id log)
    (reached : streak log + 1 = c.mesh.balancer.config.breakerThreshold.toNat) (time : Duration) :
    (c.report id time false).2.Isolated id c.timeline.moment
      c.mesh.balancer.config.breakerTimeout.nanoseconds := by
  have fate := fate (h := .act (.call (.report id time false))) id attached rfl
  have marked : c.mark? id (.act (.call (.report id time false))) = some .failed := by
    have done : (c.perform (.report id time false)).1 = .done := by
      change answerOf _ (c.report id time false).1 = _
      rw [report_of_tracked attached found]
      rfl
    rw [mark?, done, Operation.mark?, if_pos rfl]
    rfl
  have moment : c.timeline.moment ≤ (c.report id time false).2.timeline.moment :=
    c.moment_happen (.act (.call (.report id time false)))
  change c.Fate id _ _ ((c.report id time false).2.mesh.bank.find? id) at fate
  refine ⟨moment, ?_⟩
  generalize c.mark? id (.act (.call (.report id time false))) = mark at fate marked
  generalize (c.report id time false).2.mesh.bank.find? id = after at fate ⊢
  have settings := attached.bank.settings id x found
  cases fate with
  | recorded reports found' =>
    cases reports
    cases found.symm.trans found'
    have reaches : x.settings.threshold ≤ x.failures + 1 := by
      have count := (counted x found closed).1
      have limit := c.mesh.balancer.config.breakerThreshold.toNat_lt
      rw [settings, UInt32.le_iff_toNat_le, UInt32.toNat_add, UInt32.toNat_one, count,
        Nat.mod_eq_of_lt (by omega)]
      exact reached.ge
    obtain ⟨isOpen, at_⟩ := x.record_of_reached time c.timeline.moment closed reaches
    exact ⟨_, rfl, at_, by rw [Breaker.settings_record, settings]; rfl, .inl isOpen⟩
  | kept | glanced | reset | dropped | tracked => cases marked

/-! ## Selections -/

/-- The members of a name that a selection chooses from, as it finds them. -/
def pool (c : Coordinator) (name : String) : List Record :=
  (Balancer.fit c.mesh.balancer.config.breakerEnabled c.timeline.moment
    (c.mesh.store.members name) c.mesh.bank).1

theorem pool_eq (c : Coordinator) (name : String) : c.pool name = c.candidates name :=
  Balancer.fit_eq _ _ _ _

/-- Before the timeout is over an isolated instance is not chosen. -/
theorem Isolated.unchosen (isolated : c.Isolated id opened timeout)
    (enabled : c.mesh.balancer.config.breakerEnabled = true)
    (early : c.timeline.moment < opened + timeout) {name : String} {r : Record}
    (candidate : r ∈ c.candidates name) : r.id ≠ id := by
  rintro rfl
  obtain ⟨later, x, found, at_, wait, state⟩ := isolated
  have isOpen : x.state = .open := state.resolve_right fun half => Nat.not_le.mpr early half.2
  have waiting := x.hasWaited_of_lt _ at_ later (wait ▸ early)
  have seen : c.mesh.bank.view c.timeline.moment r.id = some x := by
    rw [Bank.view, found, Option.map_some, x.refresh_of_waiting _ waiting]
  have fit := of_decide_eq_true (List.mem_filter.mp candidate).2
  exact fit.2 enabled x seen isOpen

/-- After the timeout an isolated instance may be chosen as its status says. -/
theorem Isolated.mem_candidates_iff (isolated : c.Isolated id opened timeout)
    (attached : c.mesh.Attached) (due : opened + timeout ≤ c.timeline.moment) :
    ∃ r, c.mesh.store.find? id = some r ∧ ∀ name,
      (∃ s ∈ c.candidates name, s.id = id) ↔
        r.serviceName = name ∧ (r.status = .healthy ∨ r.status = .degraded) := by
  obtain ⟨later, x, found, at_, wait, state⟩ := isolated
  obtain ⟨r, registered⟩ := Option.isSome_iff_exists.mp (contains_of_tracked attached found)
  obtain ⟨-, rfl⟩ := attached.find?_eq_some registered
  have seen : ∀ y, c.mesh.bank.view c.timeline.moment r.id = some y → y.state ≠ .open := by
    intro y hy
    rw [Bank.view, found, Option.map_some] at hy
    cases hy
    rcases state with isOpen | ⟨half, -⟩
    · have waited : x.hasWaited c.timeline.moment = true := by
        rw [x.hasWaited_iff _ at_ later, wait]
        exact due
      have turned : x.refresh c.timeline.moment = { x with state := .halfOpen } :=
        if_pos ⟨isOpen, waited⟩
      rw [turned]
      simp
    · rw [Breaker.refresh_of_ne_open (by simp [half])]
      simp [half]
  refine ⟨r, registered, fun name => ?_⟩
  constructor
  · rintro ⟨s, candidate, same⟩
    obtain ⟨member, fit⟩ := List.mem_filter.mp candidate
    obtain ⟨found', named⟩ := (mem_members_iff attached).mp member
    rw [same, registered] at found'
    cases found'
    exact ⟨named, (of_decide_eq_true fit).1⟩
  · rintro ⟨named, selectable⟩
    refine ⟨r, List.mem_filter.mpr ⟨?_, decide_eq_true ⟨selectable, fun _ => seen⟩⟩, rfl⟩
    exact (mem_members_iff attached).mpr ⟨registered, named⟩

theorem counted_register (attached : c.mesh.Attached) {r : Record}
    (registered : (c.register r).1 = .ok ()) : (c.register r).2.Counted r.id [] := by
  intro x found closed
  obtain ⟨y, found', -, unfailed⟩ := (new_of_register attached registered).closed
  cases found.symm.trans found'
  rw [unfailed]
  exact ⟨rfl, .inl rfl⟩

/-- Failing instances are isolated, whatever happens to a node. Let an instance be registered,
and let the load balancer have no new configuration since. A failing report on it that finds
its breaker closed, and that is the failure which reaches the threshold since the latest mark
of another kind, isolates it: unless it is removed or its breaker is reset, no selection gives
it out before the timeout is over. From then on, with no report on it since, selections choose
from it just if its status is healthy or degraded. -/
theorem failing_instances_isolated (config : Config) (before since later : List Happening)
    (r : Record) (time : Duration) :
    let c := (fresh config).lived before
    let d := (c.register r).2.lived since
    let reported := (d.report r.id time false).2
    let e := reported.lived later
    let due := d.timeline.moment + d.mesh.balancer.config.breakerTimeout.nanoseconds
    (c.register r).1 = .ok () →
    (∀ h ∈ since ++ later, h.reconfigures = false) →
    d.mesh.balancer.config.breakerEnabled = true →
    (∃ x, d.mesh.bank.find? r.id = some x ∧ x.state = .closed) →
    streak ((c.register r).2.marks r.id since) + 1 =
      d.mesh.balancer.config.breakerThreshold.toNat →
    (∀ h ∈ later, h.frees r.id = false) →
    (e.timeline.moment < due →
      ∀ name client draw s, (e.select name client draw).1 = .ok s → s.id ≠ r.id) ∧
    (reported.Unheard r.id due later → due ≤ e.timeline.moment →
      ∃ s, e.mesh.store.find? r.id = some s ∧ ∀ name,
        (∃ o ∈ e.pool name, o.id = r.id) ↔
          s.serviceName = name ∧ (s.status = .healthy ∨ s.status = .degraded)) := by
  intro c d reported e due registered unchanged enabled closed reached kept
  obtain ⟨x, found, closed⟩ := closed
  have unchanged_since : ∀ h ∈ since, h.reconfigures = false :=
    fun h hh => unchanged h (List.mem_append_left _ hh)
  have unchanged_later : ∀ h ∈ later, h.reconfigures = false :=
    fun h hh => unchanged h (List.mem_append_right _ hh)
  have attached_c : c.mesh.Attached := attached_lived config before
  have attached_registered : (c.register r).2.mesh.Attached :=
    attached_happen attached_c (.act (.call (.register r)))
  have attached_d : d.mesh.Attached := attached_of_lived attached_registered since
  have attached_reported : reported.mesh.Attached :=
    attached_happen attached_d (.act (.call (.report r.id time false)))
  have counted : d.Counted r.id ([] ++ (c.register r).2.marks r.id since) :=
    counted_lived attached_registered unchanged_since (counted_register attached_c registered)
  have isolated := isolated_report attached_d found closed counted reached time
  have isolates (unheard : reported.Unheard r.id due later) :=
    isolated_lived attached_reported unchanged_later kept unheard isolated
  constructor
  · intro early name client draw s chosen
    have coherent : e.mesh.balancer.Coherent := by
      have life := coherent_lived config
        (before ++ .act (.call (.register r)) ::
          (since ++ .act (.call (.report r.id time false)) :: later))
      rwa [lived_append, lived_cons, lived_append, lived_cons] at life
    have same : e.mesh.balancer.config = d.mesh.balancer.config :=
      (config_lived attached_reported unchanged_later).trans
        (config_happen (h := .act (.call (.report r.id time false))) attached_d rfl)
    have candidate := Selects.candidate (chosen ▸ selects_of_coherent coherent name client draw)
    exact (isolates (unheard_of_moment early)).unchosen (same ▸ enabled) early candidate
  · intro unheard waited
    have attached_e : e.mesh.Attached := attached_of_lived attached_reported later
    simp only [pool_eq]
    exact (isolates unheard).mem_candidates_iff attached_e waited

/-- A configuration with breakers that open at the second failure and wait for a millisecond. -/
def touchy : Config := { loadBalancer := { breakerThreshold := 2, breakerTimeoutMs := 1 } }

/-- An instance that has failed twice is not given out until a nanosecond before the timeout,
even if it is told of a success and looked at, and is among those to choose from at the
timeout. -/
theorem failing_instances_isolated_of_two :
    let r : Record := { serviceName := "svc", id := "a", endpoint := "127.0.0.1", port := 8080 }
    let failure : Happening := .act (.call (.report "a" (.ofMillis 5) false))
    let new := ((fresh touchy).register r).2
    let reported := ((new.lived [failure]).report "a" (.ofMillis 5) false).2
    let early := reported.lived
      [.act (.call (.report "a" (.ofMillis 5) true)), .elapse 999_999,
        .act (.call (.readBreaker "a"))]
    let later := reported.lived [.elapse 1_000_000]
    (∀ name client draw s, (early.select name client draw).1 = .ok s → s.id ≠ "a") ∧
      ∃ o ∈ later.pool "svc", o.id = "a" := by
  intro r failure new reported early later
  have registered : ((fresh touchy).register r).1 = .ok () := by decide +kernel
  have enabled : (new.lived [failure]).mesh.balancer.config.breakerEnabled = true := by
    decide +kernel
  have closed : ((new.lived [failure]).mesh.bank.find? "a").any (·.state = .closed) = true := by
    decide +kernel
  obtain ⟨x, found, state⟩ := (Option.any_eq_true _ _).mp closed
  have reached : streak (new.marks "a" [failure]) + 1 =
      (new.lived [failure]).mesh.balancer.config.breakerThreshold.toNat := by decide +kernel
  have isolated := fun life unchanged => failing_instances_isolated touchy [] [failure] life r
    (.ofMillis 5) registered unchanged enabled ⟨x, found, of_decide_eq_true state⟩ reached
  constructor
  · exact (isolated _ (by simp [failure, Happening.reconfigures]) (by decide)).1 (by decide +kernel)
  · obtain ⟨s, there, chosen⟩ := (isolated [.elapse 1_000_000]
      (by simp [failure, Happening.reconfigures]) (by decide)).2 ⟨nofun, trivial⟩
      (by decide +kernel)
    have fit : (later.mesh.store.find? "a").any
        (fun s => s.serviceName = "svc" ∧ s.status = .healthy) = true := by decide +kernel
    obtain ⟨s', there', named⟩ := (Option.any_eq_true _ _).mp fit
    cases there.symm.trans there'
    exact (chosen "svc").mpr ((of_decide_eq_true named).imp_right .inl)

end Coordinator

end ServiceMesh
