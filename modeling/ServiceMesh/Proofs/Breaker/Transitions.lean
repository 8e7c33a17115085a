import ServiceMesh.Proofs.Breaker.Trips
import ServiceMesh.Proofs.Metrics

/-!
# Transitions that are counted

A breaker goes along the transitions of a small machine, and a report may make it go along two of
them: an open breaker that has waited long enough turns half open first and is closed or opened
anew then. The bank counts the change from before the report to after it. What it does not count
is told here exactly, by the reports that find their breaker open after its timeout.
-/

namespace ServiceMesh

/-! ## The machine -/

/-- The transitions of a breaker. -/
inductive BreakerState.Leads : BreakerState → BreakerState → Prop
  | opens : Leads .closed .open
  | waits : Leads .open .halfOpen
  | closes : Leads .halfOpen .closed
  | reopens : Leads .halfOpen .open

theorem BreakerState.Leads.ne {s t : BreakerState} (leads : s.Leads t) : s ≠ t := by
  cases leads <;> exact nofun

namespace Breaker

variable {b x y : Breaker} {u : TimedUse} {now later : Moment}

/-- The states that a breaker enters during a use: one by waiting, and one by what it hears. -/
def entered (b : Breaker) (u : TimedUse) : List BreakerState :=
  (b.change (b.refresh u.at_)).toList ++ ((b.refresh u.at_).change (b.used u)).toList

/-- An open breaker that has waited long enough. -/
def isOverdue (b : Breaker) (now : Moment) : Bool := b.state == .open && b.hasWaited now

/-- The states that a breaker enters during a use and that are not told from what it was before
and is afterwards. -/
def overlooked (b : Breaker) (u : TimedUse) : List BreakerState :=
  if b.isOverdue u.at_ then
    match u.use with
    | .record true _ => [.halfOpen]
    | .record false _ => [.halfOpen, .open]
    | .look | .reset => []
  else []

theorem refresh_of_overdue (overdue : b.isOverdue now = true) :
    b.refresh now = { b with state := .halfOpen } := by
  obtain ⟨isOpen, waited⟩ := Bool.and_eq_true_iff.mp overdue
  exact if_pos ⟨eq_of_beq isOpen, waited⟩

theorem refresh_of_not_overdue (prompt : b.isOverdue now = false) : b.refresh now = b := by
  refine if_neg fun both => ?_
  rw [isOverdue, both.1, both.2] at prompt
  cases prompt

theorem change_self (b : Breaker) : b.change b = none := if_pos rfl

/-- By waiting a breaker enters no state but one. -/
theorem change_refresh_cases (b : Breaker) (now : Moment) :
    b.change (b.refresh now) = none ∨ b.change (b.refresh now) = some .halfOpen := by
  cases overdue : b.isOverdue now with
  | true =>
    have isOpen : b.state = .open := eq_of_beq (Bool.and_eq_true_iff.mp overdue).1
    rw [refresh_of_overdue overdue, change, isOpen]
    exact .inr rfl
  | false =>
    rw [refresh_of_not_overdue overdue, change_self]
    exact .inl rfl

/-- What is entered is what is seen to have changed and what is overlooked. -/
theorem count_entered (untouched : u.use ≠ .reset) (s : BreakerState) :
    (b.entered u).count s = (b.change (b.used u)).toList.count s + (b.overlooked u).count s := by
  unfold entered overlooked
  -- Only an overdue breaker takes a transition before it hears of anything.
  cases overdue : b.isOverdue u.at_ with
  | false =>
    rw [refresh_of_not_overdue overdue, change_self]
    rfl
  | true =>
    obtain ⟨now, use⟩ := u
    have isOpen : b.state = .open := eq_of_beq (Bool.and_eq_true_iff.mp overdue).1
    have half := refresh_of_overdue overdue
    have seen : (b.refresh now).state = .halfOpen := by rw [half]
    cases use with
    | reset => exact absurd rfl untouched
    | look =>
      have same : b.used ⟨now, .look⟩ = b.refresh now := rfl
      rw [same, change_self, Option.toList_none, List.append_nil]
      rfl
    | record success time =>
      show List.count s ((b.change (b.refresh now)).toList ++
        ((b.refresh now).change (b.record success time now)).toList) =
          (b.change (b.record success time now)).toList.count s + _
      cases success with
      | true =>
        rw [record_success_of_halfOpen seen, half]
        simp only [change, isOpen]
        cases s <;> rfl
      | false =>
        rw [record_failure_of_halfOpen seen, half]
        simp only [change, isOpen]
        cases s <;> rfl

/-- What a breaker enters besides the state of waiting, it enters by what it hears. -/
theorem filter_entered (b : Breaker) (u : TimedUse) :
    (b.entered u).filter (· != .halfOpen) =
      ((b.refresh u.at_).change (b.used u)).toList.filter (· != .halfOpen) := by
  rw [entered, List.filter_append]
  obtain still | half := b.change_refresh_cases u.at_
  · rw [still]
    rfl
  · rw [half]
    rfl

/-- A look makes a breaker enter nothing else. -/
theorem filter_entered_of_look (b : Breaker) (looks : u.use = .look) :
    (b.entered u).filter (· != .halfOpen) = [] := by
  have same : b.used u = b.refresh u.at_ := by rw [used, looks]
  rw [filter_entered, same, change_self]
  rfl

/-- Two breakers that look alike enter the same by what they hear. -/
theorem SameFrom.filter_entered_eq (same : SameFrom u.at_ x y) (tells : u.use.tells = true) :
    (x.entered u).filter (· != .halfOpen) = (y.entered u).filter (· != .halfOpen) := by
  rw [filter_entered, filter_entered, same u.at_ (Nat.le_refl _), same.used_eq tells]

private theorem closed_notMem_overlooked (b : Breaker) (u : TimedUse) :
    .closed ∉ b.overlooked u := by
  obtain ⟨now, use⟩ := u
  unfold overlooked
  split
  · cases use with
    | record success time => cases success <;> simp
    | look | reset => exact List.not_mem_nil
  · exact List.not_mem_nil

/-- Only a report on an overdue breaker is overlooked in part. -/
theorem overlooked_eq_nil (prompt : u.use.tells = true → b.isOverdue u.at_ = false) :
    b.overlooked u = [] := by
  obtain ⟨now, use⟩ := u
  cases use with
  | look => exact ite_self _
  | record | reset => rw [overlooked, prompt rfl]; rfl

/-- What a breaker hears of leaves its state alone or leads to another one. A breaker that is opened
keeps the moment. -/
theorem used_leads (b : Breaker) (untouched : u.use ≠ .reset) :
    (b.refresh u.at_).state = (b.used u).state ∨
      ((b.refresh u.at_).state.Leads (b.used u).state ∧
        ((b.used u).state = .open → (b.used u).openedAt = some u.at_)) := by
  obtain ⟨now, use⟩ := u
  cases use with
  | reset => exact absurd rfl untouched
  | look => exact .inl rfl
  | record success time =>
    show (b.refresh now).state = (b.record success time now).state ∨
      ((b.refresh now).state.Leads (b.record success time now).state ∧
        ((b.record success time now).state = .open →
          (b.record success time now).openedAt = some now))
    obtain closed | ⟨isOpen, waiting⟩ | half := b.stance_cases now
    · have same : b.refresh now = b := refresh_of_ne_open (by simp [closed]) now
      rw [same, closed]
      cases success with
      | true => exact .inl (by rw [record_success_of_closed closed]; exact closed.symm)
      | false =>
        rw [record_failure_of_closed closed]
        split
        · exact .inr ⟨.opens, fun _ => rfl⟩
        · exact .inl closed.symm
    · rw [b.refresh_of_waiting now waiting, record_of_open isOpen waiting]
      exact .inl rfl
    · rw [half]
      cases success with
      | true =>
        rw [record_success_of_halfOpen half]
        exact .inr ⟨.closes, nofun⟩
      | false =>
        rw [record_failure_of_halfOpen half]
        exact .inr ⟨.reopens, fun _ => rfl⟩

/-- What a breaker enters during a use is a way along the transitions, from the state before to the
one afterwards. A breaker that is opened is open since then. -/
theorem entered_leads (b : Breaker) (untouched : u.use ≠ .reset) :
    (b.state :: b.entered u).IsChain BreakerState.Leads ∧
      (b.entered u).getLastD b.state = (b.used u).state ∧
      (.open ∈ b.entered u → (b.used u).openedAt = some u.at_) := by
  have hears := b.used_leads untouched
  unfold entered
  cases overdue : b.isOverdue u.at_ with
  | true =>
    have isOpen : b.state = .open := eq_of_beq (Bool.and_eq_true_iff.mp overdue).1
    have half : (b.refresh u.at_).state = .halfOpen := by rw [refresh_of_overdue overdue]
    rw [half] at hears
    simp only [change, isOpen, half]
    obtain same | ⟨leads, since⟩ := hears
    · rw [← same]
      exact ⟨.cons_cons .waits (.singleton _), rfl, by simp⟩
    · rw [if_neg leads.ne]
      exact ⟨.cons_cons .waits (.cons_cons leads (.singleton _)), rfl,
        by simpa [eq_comm] using since⟩
  | false =>
    rw [refresh_of_not_overdue overdue] at hears ⊢
    rw [change_self, change]
    obtain same | ⟨leads, since⟩ := hears
    · rw [if_pos same]
      exact ⟨.singleton _, same, by simp⟩
    · rw [if_neg leads.ne]
      exact ⟨.cons_cons leads (.singleton _), rfl, by simpa [eq_comm] using since⟩

end Breaker

/-! ## Uses of a bank -/

/-- What is done to a bank while nothing is reset: a report on an instance, the question of a
selection whether it is isolated, or a reading of its status. -/
inductive BankUse where
  | report (id : String) (success : Bool) (time : Duration)
  | ask (id : String)
  | read (id : String)
  deriving DecidableEq

namespace BankUse

/-- The instance that it is about. -/
def id : BankUse → String
  | report id .. | ask id | read id => id

/-- What it is for the breaker of that instance. -/
def onBreaker : BankUse → BreakerUse
  | report _ success time => .record success time
  | ask _ | read _ => .look

private theorem onBreaker_ne_reset (use : BankUse) : use.onBreaker ≠ .reset := by
  cases use <;> exact nofun

end BankUse

/-- A use of a bank at a moment. -/
structure TimedBankUse where
  at_ : Moment
  use : BankUse
  deriving DecidableEq

namespace TimedBankUse

/-- The use of the breaker that it comes to. -/
def onBreaker (u : TimedBankUse) : TimedUse := ⟨u.at_, u.use.onBreaker⟩

/-- Whether it is a report. -/
def reports (u : TimedBankUse) : Bool := u.use.onBreaker.tells

/-- A failure of an instance is reported. -/
def failure (id : String) (now : Moment) : TimedBankUse := ⟨now, .report id false (.ofMillis 1)⟩

end TimedBankUse

namespace Bank

variable {b x y : Bank} {u : TimedBankUse} {now later : Moment}

/-- The bank after a use. -/
def used (b : Bank) (u : TimedBankUse) : Bank :=
  match u.use with
  | .report id success time =>
    match b.report id success time u.at_ with
    | .ok (_, next) => next
    | .error _ => b
  | .ask id => (b.isOpen id u.at_).2
  | .read id =>
    match b.status id u.at_ with
    | .ok (_, next) => next
    | .error _ => b

/-- The bank after uses that follow one another. -/
def usedBy (b : Bank) (uses : List TimedBankUse) : Bank := uses.foldl used b

/-- The breaker that a use comes to, if there is one. A blank id has none but for a selection. -/
def met? (b : Bank) (u : TimedBankUse) : Option Breaker :=
  match u.use with
  | .report id .. | .read id => (b.get id).toOption
  | .ask id => b.find? id

/-- The states that breakers enter during a use. -/
def entered (b : Bank) (u : TimedBankUse) : List BreakerState :=
  (b.met? u).elim [] (·.entered u.onBreaker)

/-- The states that breakers enter during uses, in their order. -/
def enteredBy (b : Bank) : List TimedBankUse → List BreakerState
  | [] => []
  | u :: rest => b.entered u ++ (b.used u).enteredBy rest

/-- The states that breakers enter during a use and that the bank overlooks. -/
def overlooked (b : Bank) (u : TimedBankUse) : List BreakerState :=
  (b.met? u).elim [] (·.overlooked u.onBreaker)

def overlookedBy (b : Bank) : List TimedBankUse → List BreakerState
  | [] => []
  | u :: rest => b.overlooked u ++ (b.used u).overlookedBy rest

/-- Whether no report comes to a breaker that is open and has waited long enough. -/
def prompt (b : Bank) : List TimedBankUse → Bool
  | [] => true
  | u :: rest => !(u.reports && (b.met? u).any (·.isOverdue u.at_)) && (b.used u).prompt rest

/-- How often the bank counted a state. -/
def counted (b : Bank) (s : BreakerState) : Nat := Tally.sumOf (· == s) b.transitions

/-- A use puts the breaker back that it comes to, and does nothing if there is none. -/
theorem used_eq (b : Bank) (u : TimedBankUse) :
    b.used u = (b.met? u).elim b fun x => b.put u.use.id x (x.used u.onBreaker) := by
  obtain ⟨now, use⟩ := u
  cases use with
  | report id success time =>
    simp only [used, report, met?]
    cases b.get id <;> rfl
  | read id =>
    simp only [used, status, met?]
    cases b.get id <;> rfl
  | ask id =>
    simp only [used, isOpen, refresh, met?]
    cases b.find? id <;> rfl

private theorem toOption_get (b : Bank) (id : String) :
    (b.get id).toOption = if Text.isBlank id then none else b.find? id := by
  unfold get
  cases blank : Text.isBlank id with
  | true =>
    rw [Failure.requireText_of_blank _ blank]
    rfl
  | false =>
    rw [Failure.requireText_of_written _ blank]
    cases b.find? id <;> rfl

private theorem find?_of_met {p : Breaker} (met : b.met? u = some p) :
    b.find? u.use.id = some p := by
  obtain ⟨now, use⟩ := u
  cases use with
  | ask => exact met
  | report id | read id =>
    simp only [met?, toOption_get] at met
    split at met
    · cases met
    · exact met

/-! ## What is counted -/

private theorem counted_put (b : Bank) (id : String) (before after : Breaker) (s : BreakerState) :
    (b.put id before after).counted s = b.counted s + (before.change after).toList.count s := by
  unfold counted put
  cases before.change after with
  | none => rfl
  | some entered =>
    show Tally.sumOf _ (Tally.add entered b.transitions) = _ + [entered].count s
    rw [Tally.sumOf_add, List.count_singleton]

/-- One use counts what is entered during it, except for what is overlooked. -/
theorem counted_used (b : Bank) (u : TimedBankUse) (s : BreakerState) :
    (b.used u).counted s + (b.overlooked u).count s = b.counted s + (b.entered u).count s := by
  rw [used_eq, overlooked, entered]
  cases b.met? u with
  | none => rfl
  | some p =>
    have entered := p.count_entered (u := u.onBreaker) u.use.onBreaker_ne_reset s
    simp only [Option.elim_some, counted_put, entered]
    omega

theorem counted_usedBy (b : Bank) (uses : List TimedBankUse) (s : BreakerState) :
    (b.usedBy uses).counted s + (b.overlookedBy uses).count s =
      b.counted s + (b.enteredBy uses).count s := by
  induction uses generalizing b with
  | nil => rfl
  | cons u rest ih =>
    have first := b.counted_used u s
    have others := ih (b.used u)
    show ((b.used u).usedBy rest).counted s + (b.overlooked u ++ _).count s =
      b.counted s + (b.entered u ++ _).count s
    rw [List.count_append, List.count_append]
    omega

private theorem closed_notMem_overlookedBy (b : Bank) (uses : List TimedBankUse) :
    .closed ∉ b.overlookedBy uses := by
  induction uses generalizing b with
  | nil => exact List.not_mem_nil
  | cons u rest ih =>
    refine fun listed => (List.mem_append.mp listed).elim ?_ (ih (b.used u))
    unfold overlooked
    cases b.met? u with
    | none => exact List.not_mem_nil
    | some p => exact p.closed_notMem_overlooked u.onBreaker

/-- Nothing is overlooked while no report comes to an overdue breaker. -/
theorem overlookedBy_eq_nil {uses : List TimedBankUse} (prompt : b.prompt uses = true) :
    b.overlookedBy uses = [] := by
  induction uses generalizing b with
  | nil => rfl
  | cons u rest ih =>
    obtain ⟨first, others⟩ := Bool.and_eq_true_iff.mp prompt
    refine List.append_eq_nil_iff.mpr ⟨?_, ih others⟩
    unfold overlooked
    cases met : b.met? u with
    | none => rfl
    | some p =>
      refine Breaker.overlooked_eq_nil fun tells => ?_
      have reports : u.reports = true := tells
      rw [reports, met, Bool.true_and, Option.any_some, Bool.not_eq_true'] at first
      exact first

/-! ## Banks that look alike -/

/-- Two banks are the same to whoever looks at them from a moment on. -/
def AlikeFrom (now : Moment) (x y : Bank) : Prop :=
  ∀ later, now ≤ later → x.view later = y.view later

namespace AlikeFrom

theorem refl (now : Moment) (b : Bank) : AlikeFrom now b b := fun _ _ => rfl

theorem mono (alike : AlikeFrom now x y) (before : now ≤ later) : AlikeFrom later x y :=
  fun moment after => alike moment (Nat.le_trans before after)

private theorem find?_cases (alike : AlikeFrom now x y) (id : String) :
    (x.find? id = none ∧ y.find? id = none) ∨
      ∃ p q, x.find? id = some p ∧ y.find? id = some q ∧ Breaker.SameFrom now p q := by
  have seen : ∀ later, now ≤ later →
      (x.find? id).map (·.refresh later) = (y.find? id).map (·.refresh later) :=
    fun later after => congrFun (alike later after) id
  cases left : x.find? id with
  | none =>
    cases right : y.find? id with
    | none => exact .inl ⟨rfl, rfl⟩
    | some q =>
      rw [left, right] at seen
      exact nomatch seen now (Nat.le_refl _)
  | some p =>
    cases right : y.find? id with
    | none =>
      rw [left, right] at seen
      exact nomatch seen now (Nat.le_refl _)
    | some q =>
      rw [left, right] at seen
      exact .inr ⟨p, q, rfl, rfl, fun later after => Option.some.inj (seen later after)⟩

private theorem met_cases (alike : AlikeFrom now x y) (u : TimedBankUse) :
    (x.met? u = none ∧ y.met? u = none) ∨
      ∃ p q, x.met? u = some p ∧ y.met? u = some q ∧ Breaker.SameFrom now p q := by
  have found := alike.find?_cases u.use.id
  obtain ⟨at_, use⟩ := u
  cases use with
  | ask => exact found
  | report id | read id =>
    simp only [met?, toOption_get]
    split
    · exact .inl ⟨rfl, rfl⟩
    · exact found

theorem put (alike : AlikeFrom now x y) (id : String) (p q after : Breaker) :
    AlikeFrom now (x.put id p after) (y.put id q after) := by
  intro later passed
  funext other
  by_cases same : id = other
  · subst same
    rw [view, view, find?_put_self, find?_put_self]
  · rw [view, view, find?_put_ne _ same, find?_put_ne _ same]
    exact congrFun (alike later passed) other

/-- A report makes no difference between them, and makes them enter the same. -/
theorem report (alike : AlikeFrom u.at_ x y) (reports : u.reports = true) :
    AlikeFrom u.at_ (x.used u) (y.used u) ∧
      (x.entered u).filter (· != .halfOpen) = (y.entered u).filter (· != .halfOpen) := by
  rw [used_eq, used_eq, entered, entered]
  obtain ⟨left, right⟩ | ⟨p, q, left, right, same⟩ := alike.met_cases u
  · rw [left, right]
    exact ⟨alike, rfl⟩
  · have next : p.used u.onBreaker = q.used u.onBreaker := same.used_eq reports
    rw [left, right]
    simp only [Option.elim_some, next]
    exact ⟨alike.put u.use.id p q _, same.filter_entered_eq reports⟩

/-- A look at one of them makes no difference, and nothing opens or closes at it. -/
theorem look (alike : AlikeFrom u.at_ x y) (looks : u.use.onBreaker = .look) :
    AlikeFrom u.at_ (x.used u) y ∧ (x.entered u).filter (· != .halfOpen) = [] := by
  rw [used_eq, entered]
  cases met : x.met? u with
  | none => exact ⟨alike, rfl⟩
  | some p =>
    refine ⟨fun later passed => ?_, p.filter_entered_of_look looks⟩
    rw [← alike later passed]
    have next : p.used u.onBreaker = p.refresh u.at_ := by
      rw [Breaker.used, TimedBankUse.onBreaker, looks]
    funext other
    show ((x.put u.use.id p (p.used u.onBreaker)).find? other).map _ = _
    by_cases same : u.use.id = other
    · subst same
      rw [find?_put_self, view, find?_of_met met, next]
      exact congrArg some (p.refresh_of_refresh passed)
    · rw [find?_put_ne _ same, view]

end AlikeFrom

/-- Without its looks a run opens and closes the same breakers. -/
theorem filter_enteredBy_without_looks {uses : List TimedBankUse}
    (ordered : uses.Pairwise fun u v => u.at_ ≤ v.at_) (started : ∀ u ∈ uses, now ≤ u.at_)
    (alike : AlikeFrom now x y) :
    (x.enteredBy uses).filter (· != .halfOpen) =
      (y.enteredBy (uses.filter TimedBankUse.reports)).filter (· != .halfOpen) := by
  -- The runs part at the looks, so the induction is over all banks that look alike.
  induction uses generalizing now x y with
  | nil => rfl
  | cons u rest ih =>
    obtain ⟨after, ordered⟩ := List.pairwise_cons.mp ordered
    have here : AlikeFrom u.at_ x y := alike.mono (started u List.mem_cons_self)
    rw [enteredBy, List.filter_append]
    cases reports : u.reports with
    | true =>
      obtain ⟨next, same⟩ := here.report reports
      rw [List.filter_cons_of_pos reports, enteredBy, List.filter_append, same,
        ih ordered after next]
    | false =>
      have looks : u.use.onBreaker = .look := by
        obtain ⟨at_, use⟩ := u
        cases use with
        | report => cases reports
        | ask | read => rfl
      obtain ⟨next, quiet⟩ := here.look looks
      rw [List.filter_cons_of_neg (by simp [reports]), quiet, List.nil_append]
      exact ih ordered after next

/-- One breaker, which opens at the first failure and waits for a millisecond. -/
def touchy : Bank := ({} : Bank).track "a" { threshold := 1, timeout := Duration.ofMillis 1 }

end Bank

namespace Mesh

/-- What the metric shows of the transitions to a state. -/
def transitionsShown (m : Mesh) (s : BreakerState) : Nat :=
  (m.numbers "mesh_circuit_breaker_transitions_total" (· == [("state", s.label)])).sum

theorem transitionsShown_eq (m : Mesh) (s : BreakerState) :
    m.transitionsShown s = m.bank.counted s :=
  congrArg List.sum (m.numbers_transitions s)

/-- The parts of a node after its bank was used. -/
def banked (m : Mesh) (uses : List TimedBankUse) : Mesh := { m with bank := m.bank.usedBy uses }

/-- Every transition is counted but those of a report that comes to an overdue breaker. Along a use
a breaker takes transitions of the machine only, and one that is opened keeps the moment. What the
metric shows of a state grows by the transitions to it, except for those that are overlooked: a
breaker that is open and has waited long enough turns half open unnoticed at a report, and if the
report is a failure it is opened unnoticed too. So closings are counted exactly, and everything is
as long as no report comes to an overdue breaker. Looks between the reports change neither the
openings nor the closings that take place, nor what is shown of the closings. -/
theorem transitions_counted (m : Mesh) (uses : List TimedBankUse) :
    (∀ (p : Breaker) (u : TimedBankUse),
      (p.state :: p.entered u.onBreaker).IsChain BreakerState.Leads ∧
      (p.entered u.onBreaker).getLastD p.state = (p.used u.onBreaker).state ∧
      (.open ∈ p.entered u.onBreaker → (p.used u.onBreaker).openedAt = some u.at_)) ∧
    (∀ s, (m.banked uses).transitionsShown s + (m.bank.overlookedBy uses).count s =
      m.transitionsShown s + (m.bank.enteredBy uses).count s) ∧
    (m.banked uses).transitionsShown .closed =
      m.transitionsShown .closed + (m.bank.enteredBy uses).count .closed ∧
    (m.bank.prompt uses = true → ∀ s, (m.banked uses).transitionsShown s =
      m.transitionsShown s + (m.bank.enteredBy uses).count s) ∧
    ∀ other : List TimedBankUse, uses.Pairwise (fun u v => u.at_ ≤ v.at_) →
      other.Pairwise (fun u v => u.at_ ≤ v.at_) →
      uses.filter TimedBankUse.reports = other.filter TimedBankUse.reports →
      (m.bank.enteredBy uses).filter (· != .halfOpen) =
        (m.bank.enteredBy other).filter (· != .halfOpen) ∧
      (m.banked uses).transitionsShown .closed = (m.banked other).transitionsShown .closed := by
  have law : ∀ uses s, (m.banked uses).transitionsShown s + (m.bank.overlookedBy uses).count s =
      m.transitionsShown s + (m.bank.enteredBy uses).count s := by
    intro uses s
    rw [transitionsShown_eq, transitionsShown_eq]
    exact m.bank.counted_usedBy uses s
  have closings : ∀ uses, (m.banked uses).transitionsShown .closed =
      m.transitionsShown .closed + (m.bank.enteredBy uses).count .closed := by
    intro uses
    have unseen := List.count_eq_zero.mpr (m.bank.closed_notMem_overlookedBy uses)
    have all := law uses .closed
    omega
  refine ⟨fun p u => p.entered_leads u.use.onBreaker_ne_reset, law uses, closings uses, ?_, ?_⟩
  · intro prompt s
    have all := law uses s
    rwa [Bank.overlookedBy_eq_nil prompt] at all
  · intro other ordered otherOrdered common
    have started : ∀ uses : List TimedBankUse, ∀ u ∈ uses, 0 ≤ u.at_ := fun _ u _ => Nat.zero_le _
    have alike : Bank.AlikeFrom 0 m.bank m.bank := .refl 0 m.bank
    have same : (m.bank.enteredBy uses).filter (· != .halfOpen) =
        (m.bank.enteredBy other).filter (· != .halfOpen) := by
      rw [Bank.filter_enteredBy_without_looks ordered (started uses) alike, common,
        ← Bank.filter_enteredBy_without_looks otherOrdered (started other) alike]
    refine ⟨same, ?_⟩
    rw [closings, closings, ← List.count_filter (p := (· != BreakerState.halfOpen)) rfl, same,
      List.count_filter rfl]

/-- It fails at once and again after two milliseconds, and in between its status is read after
one and a half: now every transition is counted. -/
theorem transitions_counted_of_looked_at :
    let m : Mesh := { bank := .touchy }
    let uses : List TimedBankUse :=
      [.failure "a" 0, ⟨1500000, .read "a"⟩, .failure "a" 2000000]
    let other : List TimedBankUse := [.failure "a" 0, .failure "a" 2000000]
    m.bank.enteredBy uses = [.open, .halfOpen, .open] ∧ m.bank.prompt uses = true ∧
    (m.banked uses).transitionsShown .open = 0 + 2 ∧
    (m.bank.enteredBy uses).filter (· != .halfOpen) =
      (m.bank.enteredBy other).filter (· != .halfOpen) := by
  intro m uses other
  have prompt : m.bank.prompt uses = true := by decide +kernel
  obtain ⟨-, -, -, exactly, looks⟩ := transitions_counted m uses
  exact ⟨by decide +kernel, prompt, (exactly prompt .open).trans (by decide +kernel),
    (looks other (by decide) (by decide) (by decide)).1⟩

/-- Without the reading the second failure makes two transitions and none of them is counted. -/
theorem overdue_report_overlooked :
    let m : Mesh := { bank := .touchy }
    let uses : List TimedBankUse := [.failure "a" 0, .failure "a" 2000000]
    let looked : List TimedBankUse :=
      [.failure "a" 0, ⟨1500000, .read "a"⟩, .failure "a" 2000000]
    m.bank.enteredBy uses = [.open, .halfOpen, .open] ∧
    (m.banked uses).transitionsShown .open = 1 ∧
    (m.banked uses).transitionsShown .halfOpen = 0 ∧
    (m.banked looked).transitionsShown .open = 2 := by
  decide +kernel

end Mesh

end ServiceMesh
