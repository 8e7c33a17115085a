import ServiceMesh.Proofs.Coordinator.Breakers

/-!
# Looks at a breaker

An open breaker that has waited long enough turns half open at the next look, and nothing but a
look makes it turn. So two breakers that hear of the same reports and resets may differ for a
while, if one of them is looked at more often. The difference is never more than a look: seen at
any moment from now on the two are the same, and the next report makes them equal again.
-/

namespace ServiceMesh

/-- What is done to a breaker. A look is a reading of its status or a selection that asks whether
it is open. -/
inductive BreakerUse where
  | record (success : Bool) (time : Duration)
  | reset
  | look
  deriving DecidableEq

/-- Whether a use is more than a look. -/
def BreakerUse.tells : BreakerUse → Bool
  | record .. | reset => true
  | look => false

/-- A use of a breaker at a moment. -/
structure TimedUse where
  at_ : Moment
  use : BreakerUse
  deriving DecidableEq

namespace Breaker

variable {b x y : Breaker} {now later : Moment}

/-- The breaker after a use. -/
def used (b : Breaker) (u : TimedUse) : Breaker :=
  match u.use with
  | .record success time => b.record success time u.at_
  | .reset => b.reset
  | .look => b.refresh u.at_

/-- The breaker after uses that follow one another. -/
def usedBy (b : Breaker) (uses : List TimedUse) : Breaker := uses.foldl used b

/-- What the breaker is after each use that is more than a look. -/
def stations (b : Breaker) : List TimedUse → List Breaker
  | [] => []
  | u :: rest =>
    if u.use.tells then b.used u :: (b.used u).stations rest else (b.used u).stations rest

/-! ## Time goes on -/

private theorem hasWaited_mono (b : Breaker) (before : now ≤ later)
    (waited : b.hasWaited now = true) : b.hasWaited later = true := by
  cases since : b.openedAt with
  | none => simp only [hasWaited, since]
  | some opened =>
    simp only [hasWaited, since, decide_eq_true_iff] at waited ⊢
    exact Nat.le_trans waited (Nat.sub_le_sub_right before opened)

/-- An earlier look is not seen by a later one. -/
theorem refresh_of_refresh (b : Breaker) (before : now ≤ later) :
    (b.refresh now).refresh later = b.refresh later := by
  by_cases turns : b.state = .open ∧ b.hasWaited now = true
  · have half : b.refresh now = { b with state := .halfOpen } := if_pos turns
    have due : b.refresh later = { b with state := .halfOpen } :=
      if_pos ⟨turns.1, b.hasWaited_mono before turns.2⟩
    rw [half, due]
    exact refresh_of_ne_open (by simp) later
  · have same : b.refresh now = b := if_neg turns
    rw [same]

/-! ## Breakers that look alike -/

/-- Two breakers are the same to whoever looks at them from a moment on. -/
def SameFrom (now : Moment) (x y : Breaker) : Prop :=
  ∀ later, now ≤ later → x.refresh later = y.refresh later

namespace SameFrom

theorem refl (now : Moment) (b : Breaker) : SameFrom now b b := fun _ _ => rfl

theorem mono (same : SameFrom now x y) (before : now ≤ later) : SameFrom later x y :=
  fun moment after => same moment (Nat.le_trans before after)

/-- A look at one of them makes no difference. -/
theorem look (same : SameFrom now x y) : SameFrom now (x.refresh now) y := by
  intro moment after
  rw [x.refresh_of_refresh after]
  exact same moment after

/-- A report begins with a look, so it finds no difference. -/
theorem record_eq (same : SameFrom now x y) (success : Bool) (time : Duration) :
    x.record success time now = y.record success time now := by
  unfold record
  rw [same now (Nat.le_refl _)]

/-- A reset keeps what a look leaves alone. -/
theorem reset_eq (same : SameFrom now x y) : x.reset = y.reset := by
  have kept : ∀ b : Breaker, (b.refresh now).reset = b.reset := by
    intro b
    unfold refresh
    split <;> rfl
  rw [← kept x, ← kept y, same now (Nat.le_refl _)]

/-- A use that is more than a look makes them equal. -/
theorem used_eq {u : TimedUse} (same : SameFrom u.at_ x y) (tells : u.use.tells = true) :
    x.used u = y.used u := by
  obtain ⟨moment, use⟩ := u
  cases use with
  | record success time => exact same.record_eq success time
  | reset => exact same.reset_eq
  | look => cases tells

private theorem used_look {u : TimedUse} (same : SameFrom u.at_ x y) (looks : u.use.tells = false) :
    SameFrom u.at_ (x.used u) y := by
  obtain ⟨moment, use⟩ := u
  cases use with
  | record | reset => cases looks
  | look => exact same.look

end SameFrom

/-! ## Uses without their looks -/

/-- Without its looks a breaker is the same after every report and every reset. -/
theorem stations_without_looks {uses : List TimedUse}
    (ordered : uses.Pairwise fun u v => u.at_ ≤ v.at_) (started : ∀ u ∈ uses, now ≤ u.at_)
    (same : SameFrom now x y) :
    x.stations uses = y.stations (uses.filter fun u => u.use.tells) := by
  induction uses generalizing now x y with
  | nil => rfl
  | cons u rest ih =>
    obtain ⟨after, ordered⟩ := List.pairwise_cons.mp ordered
    have here : SameFrom u.at_ x y := same.mono (started u List.mem_cons_self)
    cases tells : u.use.tells with
    | true =>
      rw [List.filter_cons_of_pos (p := fun u : TimedUse => u.use.tells) tells]
      simp only [stations, tells, if_true, here.used_eq tells]
      rw [ih ordered after (SameFrom.refl u.at_ (y.used u))]
    | false =>
      rw [List.filter_cons_of_neg (p := fun u : TimedUse => u.use.tells) (by simp [tells])]
      simp only [stations, tells, Bool.false_eq_true, if_false]
      exact ih ordered after (here.used_look tells)

/-- Without its looks a breaker is the same to whoever looks at it in the end. -/
theorem sameFrom_without_looks {uses : List TimedUse}
    (ordered : uses.Pairwise fun u v => u.at_ ≤ v.at_) (started : ∀ u ∈ uses, now ≤ u.at_)
    (ended : ∀ u ∈ uses, u.at_ ≤ later) (before : now ≤ later) (same : SameFrom now x y) :
    SameFrom later (x.usedBy uses) (y.usedBy (uses.filter fun u => u.use.tells)) := by
  induction uses generalizing now x y with
  | nil => exact same.mono before
  | cons u rest ih =>
    obtain ⟨after, ordered⟩ := List.pairwise_cons.mp ordered
    obtain ⟨reached, rest_ended⟩ := List.forall_mem_cons.mp ended
    have here : SameFrom u.at_ x y := same.mono (started u List.mem_cons_self)
    cases tells : u.use.tells with
    | true =>
      rw [List.filter_cons_of_pos (p := fun u : TimedUse => u.use.tells) tells]
      show SameFrom later ((x.used u).usedBy rest) ((y.used u).usedBy _)
      rw [here.used_eq tells]
      exact ih ordered after rest_ended reached (SameFrom.refl u.at_ (y.used u))
    | false =>
      rw [List.filter_cons_of_neg (p := fun u : TimedUse => u.use.tells) (by simp [tells])]
      exact ih ordered after rest_ended reached (here.used_look tells)

/-- The operations of a bank that use the breaker of an id. -/
theorem used_in_bank (now : Moment) {bank : Bank} {id : String} (known : bank.find? id = some b) :
    (bank.isOpen id now).2.find? id = some (b.used ⟨now, .look⟩) ∧
    (∀ status next, bank.status id now = .ok (status, next) →
      next.find? id = some (b.used ⟨now, .look⟩)) ∧
    (∀ success time state next, bank.report id success time now = .ok (state, next) →
      next.find? id = some (b.used ⟨now, .record success time⟩)) ∧
    ∀ next, bank.reset id = .ok next → next.find? id = some (b.used ⟨now, .reset⟩) := by
  have own : ∀ {c : Breaker}, bank.get id = .ok c → c = b := by
    intro c got
    exact Option.some.inj ((Bank.find?_of_get got).symm.trans known)
  refine ⟨?_, ?_, ?_, ?_⟩
  · rw [Bank.isOpen_eq, Bank.find?_refresh_self, Bank.view, known]
    rfl
  · intro status next done
    obtain ⟨c, got, rest⟩ := Failure.bind_eq_ok_iff.mp done
    cases rest
    cases own got
    exact Bank.find?_put_self _ _ _ _
  · intro success time state next done
    obtain ⟨c, got, rest⟩ := Failure.bind_eq_ok_iff.mp done
    cases rest
    cases own got
    exact Bank.find?_put_self _ _ _ _
  · intro next done
    obtain ⟨c, got, rest⟩ := Failure.bind_eq_ok_iff.mp done
    cases rest
    cases own got
    exact Table.getElem?_insert_self _ _ _

/-- Looking at a breaker does not change what becomes of it. Let a breaker have two histories
with the same reports and resets at the same moments, in which it was looked at whenever anybody
liked. It is the same in both after each report and each reset, and it is the same in the end to
whoever looks at it then. Readings of a status and selections that ask whether a breaker is open
are such looks. -/
theorem looks_change_nothing (b : Breaker) (first second : List TimedUse)
    (first_ordered : first.Pairwise fun u v => u.at_ ≤ v.at_)
    (second_ordered : second.Pairwise fun u v => u.at_ ≤ v.at_)
    (common : first.filter (fun u => u.use.tells) = second.filter fun u => u.use.tells) :
    b.stations first = b.stations second ∧
    (∀ final, (∀ u ∈ first ++ second, u.at_ ≤ final) →
      (b.usedBy first).refresh final = (b.usedBy second).refresh final) ∧
    ∀ (bank : Bank) (id : String) (now : Moment) (x : Breaker), bank.find? id = some x →
      (bank.isOpen id now).2.find? id = some (x.used ⟨now, .look⟩) ∧
      ∀ status next, bank.status id now = .ok (status, next) →
        next.find? id = some (x.used ⟨now, .look⟩) := by
  have started : ∀ uses : List TimedUse, ∀ u ∈ uses, 0 ≤ u.at_ := fun _ u _ => Nat.zero_le u.at_
  have origin : SameFrom 0 b b := SameFrom.refl 0 b
  refine ⟨?_, ?_, ?_⟩
  · rw [stations_without_looks first_ordered (started first) origin, common,
      stations_without_looks second_ordered (started second) origin]
  · intro final ended
    obtain ⟨first_ended, second_ended⟩ := List.forall_mem_append.mp ended
    have left := sameFrom_without_looks first_ordered (started first) first_ended
      (Nat.zero_le final) origin
    have right := sameFrom_without_looks second_ordered (started second) second_ended
      (Nat.zero_le final) origin
    rw [common] at left
    exact (left final (Nat.le_refl final)).trans (right final (Nat.le_refl final)).symm
  · intro bank id now x known
    obtain ⟨asked, read, -⟩ := used_in_bank now known
    exact ⟨asked, read⟩

/-- A breaker that opens at the first failure and waits for a millisecond, looked at in one history
only: there it is half open for a while and here it is not. The failure after that opens it anew in
both. -/
theorem looked_at_once :
    let b : Breaker := { settings := { threshold := 1, timeout := Duration.ofMillis 1 } }
    let failed : BreakerUse := .record false (Duration.ofMillis 2)
    let first : List TimedUse := [⟨0, failed⟩, ⟨2000000, .look⟩, ⟨3000000, failed⟩]
    let second : List TimedUse := [⟨0, failed⟩, ⟨3000000, failed⟩]
    (b.usedBy (first.take 2)).state ≠ (b.usedBy (second.take 1)).state ∧
      b.stations first = b.stations second :=
  ⟨by decide, (looks_change_nothing _ _ _ (by decide) (by decide) (by decide)).1⟩

end Breaker

end ServiceMesh
