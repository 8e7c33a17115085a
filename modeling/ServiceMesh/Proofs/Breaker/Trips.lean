import ServiceMesh.Proofs.Breaker.Looks
import ServiceMesh.Proofs.Since

/-!
# What a breaker is by what it has heard

A breaker keeps a state, a counter and a moment, and an operation on it may change all three, after
it has looked whether the breaker has waited long enough. What they hold can be told by the log of
its uses. A closed breaker has counted the failures in a row, and they are too few to open it. One
that is not closed keeps the moment of its latest trip, and has counted, beyond those that opened
it first, every failure since.
-/

namespace ServiceMesh

namespace BreakerUse

/-- Whether a use reports an outcome. -/
def reports : BreakerUse → Bool
  | record .. => true
  | reset | look => false

/-- Whether a use reports a failure. -/
def fails : BreakerUse → Bool
  | record success _ => !success
  | reset | look => false

/-- Whether a use ends failures in a row: a report of a success, or a reset. -/
def clears : BreakerUse → Bool
  | record success _ => success
  | reset => true
  | look => false

private theorem reports_of_fails {use : BreakerUse} (fails : use.fails = true) :
    use.reports = true := by
  cases use with
  | record => rfl
  | reset | look => cases fails

end BreakerUse

/-! ## Encounters -/

/-- A use of a breaker with the breaker that it met. -/
structure Encounter where
  before : Breaker
  use : TimedUse

namespace Encounter

/-- The breaker as it is seen at the moment of the use. -/
def seen (e : Encounter) : Breaker := e.before.refresh e.use.at_

/-- The breaker after the use. -/
def after (e : Encounter) : Breaker := e.before.used e.use

def fails (e : Encounter) : Bool := e.use.use.fails

/-- The breaker is opened: it is not seen open, and it is open afterwards. -/
def trips (e : Encounter) : Bool := e.seen.state != .open && e.after.state == .open

/-- A closed breaker is opened. -/
def leavesClosed (e : Encounter) : Bool := e.before.state == .closed && e.after.state != .closed

/-- The breaker is closed, and was not before. -/
def closes (e : Encounter) : Bool := e.before.state != .closed && e.after.state == .closed

/-- Failures in a row begin anew: at a success, a close or a reset. -/
def restarts (e : Encounter) : Bool := e.use.use.clears || e.closes

/-- The failures in a row at the end of a log. -/
def streak (log : List Encounter) : Nat := countSince restarts fails log

/-- The failures since a breaker that was closed has been opened. -/
def failuresAway (log : List Encounter) : Nat := countSince leavesClosed fails log

/-- The moment of the latest trip in a log. -/
def latestTrip? (log : List Encounter) : Option Moment :=
  (log.reverse.find? trips).map fun e => e.use.at_

private theorem streak_snoc_of_restarts {e : Encounter} (restarts : e.restarts = true)
    (log : List Encounter) : streak (log ++ [e]) = 0 :=
  countSince_snoc_of_mark restarts log

theorem streak_snoc {e : Encounter} (goesOn : e.restarts = false) (log : List Encounter) :
    streak (log ++ [e]) = streak log + if e.fails = true then 1 else 0 :=
  countSince_snoc goesOn log

private theorem failuresAway_snoc_of_leaves {e : Encounter} (leaves : e.leavesClosed = true)
    (log : List Encounter) : failuresAway (log ++ [e]) = 0 :=
  countSince_snoc_of_mark leaves log

theorem failuresAway_snoc {e : Encounter} (stays : e.leavesClosed = false)
    (log : List Encounter) :
    failuresAway (log ++ [e]) = failuresAway log + if e.fails = true then 1 else 0 :=
  countSince_snoc stays log

theorem latestTrip?_snoc (log : List Encounter) (e : Encounter) :
    latestTrip? (log ++ [e]) = if e.trips = true then some e.use.at_ else latestTrip? log := by
  rw [latestTrip?, List.reverse_append, List.reverse_singleton, List.singleton_append,
    List.find?_cons]
  cases e.trips <;> rfl

end Encounter

namespace Breaker

open Encounter

variable {b : Breaker} {time : Duration} {now : Moment} {log : List Encounter}

/-- A breaker to which nothing has happened. -/
def fresh (settings : BreakerSettings) : Breaker := { settings }

/-- The uses of a breaker one after the other, each with the breaker that it meets. -/
def encounters (b : Breaker) : List TimedUse → List Encounter
  | [] => []
  | u :: rest => ⟨b, u⟩ :: (b.used u).encounters rest

theorem encounters_snoc (b : Breaker) (uses : List TimedUse) (u : TimedUse) :
    b.encounters (uses ++ [u]) = b.encounters uses ++ [⟨b.usedBy uses, u⟩] := by
  induction uses generalizing b with
  | nil => rfl
  | cons first rest ih => exact congrArg (_ :: ·) (ih (b.used first))

theorem usedBy_snoc (b : Breaker) (uses : List TimedUse) (u : TimedUse) :
    b.usedBy (uses ++ [u]) = (b.usedBy uses).used u := by
  rw [usedBy, List.foldl_append]
  rfl

private theorem countP_encounters (b : Breaker) (uses : List TimedUse) :
    (b.encounters uses).countP fails = uses.countP fun u => u.use.fails := by
  induction uses generalizing b with
  | nil => rfl
  | cons first rest ih =>
    rw [encounters, List.countP_cons, List.countP_cons, ih]
    rfl

/-! ## What reports do -/

/-- A breaker is closed, or open before its timeout, or seen half open. -/
theorem stance_cases (b : Breaker) (now : Moment) :
    b.state = .closed ∨ (b.state = .open ∧ b.hasWaited now = false) ∨
      (b.refresh now).state = .halfOpen := by
  cases state : b.state with
  | closed => exact .inl rfl
  | «open» =>
    cases waited : b.hasWaited now with
    | false => exact .inr (.inl ⟨rfl, rfl⟩)
    | true => exact .inr (.inr (by simp [refresh, state, waited]))
  | halfOpen => exact .inr (.inr (by simp [refresh, state]))

theorem record_success_of_closed (closed : b.state = .closed) (time : Duration) (now : Moment) :
    b.record true time now = { b with failures := 0, lastResponse := some time } := by
  have same : b.refresh now = b := refresh_of_ne_open (by simp [closed]) now
  simp only [record, same, settle, closed]

/-- A failure is counted, and opens the breaker if it reaches the threshold. -/
theorem record_failure_of_closed (closed : b.state = .closed) (time : Duration) (now : Moment) :
    b.record false time now =
      if b.settings.threshold ≤ b.failures + 1 then
        { b with state := .open, failures := b.failures + 1, openedAt := some now
                 lastResponse := some time }
      else { b with failures := b.failures + 1, lastResponse := some time } := by
  have same : b.refresh now = b := refresh_of_ne_open (by simp [closed]) now
  simp only [record, same, settle, closed, trip]

/-- Before the timeout of an open breaker its failures are counted, and nothing else. -/
theorem record_of_open (isOpen : b.state = .open) (waiting : b.hasWaited now = false)
    (success : Bool) (time : Duration) :
    b.record success time now =
      { b with failures := if success then b.failures else b.failures + 1
               lastResponse := some time } := by
  cases success <;> simp [record, b.refresh_of_waiting now waiting, settle, isOpen]

/-- A success closes a breaker that is seen half open. -/
theorem record_success_of_halfOpen (half : (b.refresh now).state = .halfOpen) (time : Duration) :
    b.record true time now =
      { b with state := .closed, failures := 0, openedAt := none, lastResponse := some time } := by
  simp [record, settle, half]

/-- A failure opens a breaker anew that is seen half open. -/
theorem record_failure_of_halfOpen (half : (b.refresh now).state = .halfOpen) (time : Duration) :
    b.record false time now =
      { b with state := .open, failures := b.failures + 1, openedAt := some now
               lastResponse := some time } := by
  simp [record, settle, half, trip]

theorem state_ne_closed_of_halfOpen (half : (b.refresh now).state = .halfOpen) :
    b.state ≠ .closed := by
  intro closed
  rw [refresh_of_ne_open (by simp [closed]), closed] at half
  cases half

/-! ## What a breaker holds -/

/-- A breaker holds what the log of its uses tells. A closed one has counted the failures in a row,
which are too few to open it. One that is not closed keeps the moment of its latest trip, and has
counted every failure since it was opened beyond those that opened it. -/
structure Holds (settings : BreakerSettings) (log : List Encounter) (b : Breaker) : Prop where
  same : b.settings = settings
  /-- the counter has not come round -/
  few : b.failures.toNat ≤ log.countP fails
  closed : b.state = .closed → b.openedAt = none ∧ b.failures.toNat = streak log ∧
    streak log < settings.threshold.toNat
  away : b.state ≠ .closed → ∃ at_, latestTrip? log = some at_ ∧ b.openedAt = some at_ ∧
    b.failures.toNat = settings.threshold.toNat + failuresAway log

namespace Holds

variable {settings : BreakerSettings} {u : TimedUse}

theorem fresh (positive : 1 ≤ settings.threshold) : Holds settings [] (.fresh settings) where
  same := rfl
  few := Nat.le_refl 0
  closed _ := ⟨rfl, rfl, UInt32.le_iff_toNat_le.mp positive⟩
  away open_ := absurd rfl open_

/-- With room for one more the counter counts a failure. -/
theorem toNat_failures_add_one (h : Holds settings log b) (fails : u.use.fails = true)
    (room : (log ++ [(⟨b, u⟩ : Encounter)]).countP Encounter.fails < 2 ^ 32) :
    (b.failures + 1).toNat = b.failures.toNat + 1 := by
  have counted : (log ++ [(⟨b, u⟩ : Encounter)]).countP Encounter.fails =
      log.countP Encounter.fails + 1 := by
    simp [List.countP_append, Encounter.fails, fails]
  have few := h.few
  rw [UInt32.toNat_add, UInt32.toNat_one, Nat.mod_eq_of_lt (by omega)]

/-- A use that closes a breaker, or finds it closed and clears it. -/
theorem cleared (h : Holds settings log b) (positive : 1 ≤ settings.threshold)
    (restarts : u.use.clears = true) (same : (b.used u).settings = b.settings)
    (closed : (b.used u).state = .closed) (since : (b.used u).openedAt = none)
    (unfailed : (b.used u).failures = 0) : Holds settings (log ++ [⟨b, u⟩]) (b.used u) where
  same := same.trans h.same
  few := by simp [unfailed]
  closed _ := by
    have marks : Encounter.restarts ⟨b, u⟩ = true := by simp [Encounter.restarts, restarts]
    rw [streak_snoc_of_restarts marks, unfailed]
    exact ⟨since, rfl, UInt32.le_iff_toNat_le.mp positive⟩
  away open_ := absurd closed open_

/-- A use that neither opens a breaker nor closes it, and counts it if it is a failure. -/
theorem kept (h : Holds settings log b) (same : (b.used u).settings = b.settings)
    (stays : (b.used u).state = .closed ↔ b.state = .closed)
    (quiet : Encounter.trips ⟨b, u⟩ = false) (since : (b.used u).openedAt = b.openedAt)
    (count : (b.used u).failures.toNat = b.failures.toNat + if u.use.fails = true then 1 else 0)
    (below : b.state = .closed → u.use.clears = false ∧
      (u.use.fails = true → (b.used u).failures < settings.threshold)) :
    Holds settings (log ++ [⟨b, u⟩]) (b.used u) where
  same := same.trans h.same
  few := by
    have few := h.few
    rw [count, List.countP_append, List.countP_singleton]
    exact Nat.add_le_add_right few _
  closed closed := by
    have before := stays.mp closed
    obtain ⟨unopened, counted, short⟩ := h.closed before
    obtain ⟨goesOn, below⟩ := below before
    have unmarked : Encounter.restarts ⟨b, u⟩ = false := by
      simp [Encounter.restarts, Encounter.closes, goesOn, before]
    have now : (b.used u).failures.toNat = streak (log ++ [⟨b, u⟩]) := by
      rw [count, counted, streak_snoc unmarked]
      rfl
    refine ⟨since.trans unopened, now, ?_⟩
    cases fails : u.use.fails with
    | true => exact now ▸ UInt32.lt_iff_toNat_lt.mp (below fails)
    | false =>
      rw [← now, count, counted, fails]
      exact short
  away open_ := by
    have before : b.state ≠ .closed := mt stays.mpr open_
    obtain ⟨at_, tripped, opened, counted⟩ := h.away before
    have unmarked : Encounter.leavesClosed ⟨b, u⟩ = false := by
      simp [Encounter.leavesClosed, before]
    refine ⟨at_, ?_, since.trans opened, ?_⟩
    · rw [latestTrip?_snoc, quiet]
      exact tripped
    · rw [count, counted, failuresAway_snoc unmarked, ← Nat.add_assoc]
      rfl

/-- A failure that opens a breaker, for the first time or anew. -/
theorem tripped (h : Holds settings log b) (fails : u.use.fails = true)
    (room : (log ++ [(⟨b, u⟩ : Encounter)]).countP Encounter.fails < 2 ^ 32)
    (same : (b.used u).settings = b.settings) (unseen : (b.refresh u.at_).state ≠ .open)
    (isOpen : (b.used u).state = .open) (since : (b.used u).openedAt = some u.at_)
    (count : (b.used u).failures = b.failures + 1)
    (reached : b.state = .closed → (b.used u).failures.toNat = settings.threshold.toNat) :
    Holds settings (log ++ [⟨b, u⟩]) (b.used u) where
  same := same.trans h.same
  few := by
    have few := h.few
    rw [count, h.toNat_failures_add_one fails room, List.countP_append, List.countP_singleton]
    simpa [Encounter.fails, fails] using few
  closed closed := nomatch isOpen.symm.trans closed
  away _ := by
    have trips : Encounter.trips ⟨b, u⟩ = true := by
      simp [Encounter.trips, Encounter.seen, Encounter.after, unseen, isOpen]
    refine ⟨u.at_, by rw [latestTrip?_snoc, trips]; rfl, since, ?_⟩
    by_cases before : b.state = .closed
    · have leaves : Encounter.leavesClosed ⟨b, u⟩ = true := by
        simp [Encounter.leavesClosed, Encounter.after, before, isOpen]
      rw [reached before, failuresAway_snoc_of_leaves leaves, Nat.add_zero]
    · have stays : Encounter.leavesClosed ⟨b, u⟩ = false := by
        simp [Encounter.leavesClosed, before]
      obtain ⟨_, -, -, counted⟩ := h.away before
      rw [count, h.toNat_failures_add_one fails room, counted, failuresAway_snoc stays,
        Encounter.fails, if_pos fails, Nat.add_assoc]

/-- A look notices at most that the breaker has waited long enough. -/
theorem look (h : Holds settings log b) (now : Moment) :
    Holds settings (log ++ [⟨b, ⟨now, .look⟩⟩]) (b.used ⟨now, .look⟩) := by
  refine h.kept (b.settings_refresh now) ?_ ?_ (b.openedAt_refresh now) ?_ fun _ => ⟨rfl, nofun⟩
  · refine ⟨fun closed => (b.closed_of_refresh now closed).1, fun closed => ?_⟩
    show (b.refresh now).state = .closed
    rwa [refresh_of_ne_open (by simp [closed])]
  · simp [Encounter.trips, Encounter.seen, Encounter.after, used]
  · show (b.refresh now).failures.toNat = _
    rw [b.failures_refresh now]
    rfl

theorem reset (h : Holds settings log b) (positive : 1 ≤ settings.threshold) (now : Moment) :
    Holds settings (log ++ [⟨b, ⟨now, .reset⟩⟩]) (b.used ⟨now, .reset⟩) :=
  h.cleared positive rfl rfl rfl rfl rfl

theorem succeeded (h : Holds settings log b) (positive : 1 ≤ settings.threshold)
    (time : Duration) (now : Moment) :
    Holds settings (log ++ [⟨b, ⟨now, .record true time⟩⟩])
      (b.used ⟨now, .record true time⟩) := by
  have recorded : b.used ⟨now, .record true time⟩ = b.record true time now := rfl
  rcases b.stance_cases now with closed | ⟨isOpen, waiting⟩ | half
  · have next := b.record_success_of_closed closed time now
    rw [← recorded] at next
    obtain ⟨unopened, -, -⟩ := h.closed closed
    exact h.cleared positive rfl (by rw [next]) (by rw [next]; exact closed)
      (by rw [next]; exact unopened) (by rw [next])
  · have next := b.record_of_open isOpen waiting true time
    rw [← recorded] at next
    refine h.kept (by rw [next]) (by rw [next]) ?_ (by rw [next]) (by rw [next]; rfl) ?_
    · simp [Encounter.trips, Encounter.seen, b.refresh_of_waiting now waiting, isOpen]
    · intro closed
      cases isOpen.symm.trans closed
  · have next := b.record_success_of_halfOpen half time
    rw [← recorded] at next
    exact h.cleared positive rfl (by rw [next]) (by rw [next]) (by rw [next]) (by rw [next])

theorem failed (h : Holds settings log b) (time : Duration) (now : Moment)
    (room : (log ++ [(⟨b, ⟨now, .record false time⟩⟩ : Encounter)]).countP Encounter.fails <
      2 ^ 32) :
    Holds settings (log ++ [⟨b, ⟨now, .record false time⟩⟩])
      (b.used ⟨now, .record false time⟩) := by
  have recorded : b.used ⟨now, .record false time⟩ = b.record false time now := rfl
  have counts := h.toNat_failures_add_one (u := ⟨now, .record false time⟩) rfl room
  rcases b.stance_cases now with closed | ⟨isOpen, waiting⟩ | half
  · have seen : (b.refresh now).state ≠ .open := by
      rw [refresh_of_ne_open (by simp [closed]), closed]
      exact nofun
    obtain ⟨-, counted, short⟩ := h.closed closed
    have next := b.record_failure_of_closed closed time now
    rw [← recorded] at next
    by_cases reached : b.settings.threshold ≤ b.failures + 1
    · rw [if_pos reached] at next
      refine h.tripped rfl room (by rw [next]) seen (by rw [next]) (by rw [next]) (by rw [next]) ?_
      intro _
      rw [h.same, UInt32.le_iff_toNat_le] at reached
      rw [next]
      show (b.failures + 1).toNat = _
      omega
    · rw [if_neg reached] at next
      refine h.kept (by rw [next]) (by rw [next]) ?_ (by rw [next]) (by rw [next]; exact counts) ?_
      · simp [Encounter.trips, Encounter.after, next, closed]
      · intro _
        refine ⟨rfl, fun _ => ?_⟩
        rw [next, ← h.same]
        exact UInt32.not_le.mp reached
  · have next := b.record_of_open isOpen waiting false time
    rw [← recorded] at next
    refine h.kept (by rw [next]) (by rw [next]) ?_ (by rw [next]) (by rw [next]; exact counts) ?_
    · simp [Encounter.trips, Encounter.seen, b.refresh_of_waiting now waiting, isOpen]
    · intro closed
      cases isOpen.symm.trans closed
  · have next := b.record_failure_of_halfOpen half time
    rw [← recorded] at next
    refine h.tripped rfl room (by rw [next]) (by rw [half]; exact nofun) (by rw [next])
      (by rw [next]) (by rw [next]) ?_
    exact fun closed => absurd closed (state_ne_closed_of_halfOpen half)

/-- Every use leaves a breaker that holds what its log tells. -/
theorem used (h : Holds settings log b) (positive : 1 ≤ settings.threshold)
    (room : (log ++ [(⟨b, u⟩ : Encounter)]).countP Encounter.fails < 2 ^ 32) :
    Holds settings (log ++ [⟨b, u⟩]) (b.used u) := by
  obtain ⟨now, use⟩ := u
  cases use with
  | reset => exact h.reset positive now
  | look => exact h.look now
  | record success time =>
    cases success with
    | true => exact h.succeeded positive time now
    | false => exact h.failed time now room

/-- The counter has room for what is no more than the reports. -/
theorem usedBy (positive : 1 ≤ settings.threshold) {uses : List TimedUse}
    (few : uses.countP (fun u => u.use.fails) < 2 ^ 32) :
    Holds settings ((Breaker.fresh settings).encounters uses)
      ((Breaker.fresh settings).usedBy uses) := by
  induction uses using List.reverseRecOn with
  | nil => exact .fresh positive
  | append_singleton uses u ih =>
    have room : ((Breaker.fresh settings).encounters (uses ++ [u])).countP Encounter.fails <
        2 ^ 32 := by
      rwa [countP_encounters]
    rw [encounters_snoc] at room ⊢
    rw [usedBy_snoc]
    refine (ih (Nat.lt_of_le_of_lt ?_ few)).used positive room
    exact (List.sublist_append_left uses [u]).countP_le

end Holds

/-! ## The machine -/

/-- A failure opens a closed breaker just if it is the one that brings the failures in a row to the
threshold, and nothing else opens it. -/
theorem Holds.opens_iff {settings : BreakerSettings} {u : TimedUse} (h : Holds settings log b)
    (room : (log ++ [(⟨b, u⟩ : Encounter)]).countP Encounter.fails < 2 ^ 32)
    (closed : b.state = .closed) :
    ((b.used u).state = .open ↔ u.use.fails = true ∧ streak log + 1 = settings.threshold.toNat) ∧
      ((b.used u).state = .open ∨ (b.used u).state = .closed) := by
  obtain ⟨-, counted, short⟩ := h.closed closed
  obtain ⟨now, use⟩ := u
  cases use with
  | reset => exact ⟨⟨nofun, nofun⟩, .inr rfl⟩
  | look =>
    have same : b.used ⟨now, .look⟩ = b := refresh_of_ne_open (by simp [closed]) now
    rw [same, closed]
    exact ⟨⟨nofun, nofun⟩, .inr rfl⟩
  | record success time =>
    cases success with
    | true =>
      have cleared : (b.used ⟨now, .record true time⟩).state = .closed := by
        show (b.record true time now).state = .closed
        rw [record_success_of_closed closed time now]
        exact closed
      rw [cleared]
      exact ⟨⟨nofun, nofun⟩, .inr rfl⟩
    | false =>
      have counts := h.toNat_failures_add_one (u := ⟨now, .record false time⟩) rfl room
      have reaches : b.settings.threshold ≤ b.failures + 1 ↔
          streak log + 1 = settings.threshold.toNat := by
        rw [h.same, UInt32.le_iff_toNat_le, counts]
        omega
      show ((b.record false time now).state = .open ↔ _) ∧
        ((b.record false time now).state = .open ∨ (b.record false time now).state = .closed)
      rw [record_failure_of_closed closed time now]
      by_cases reached : b.settings.threshold ≤ b.failures + 1
      · rw [if_pos reached]
        exact ⟨⟨fun _ => ⟨rfl, reaches.mp reached⟩, fun _ => rfl⟩, .inl rfl⟩
      · rw [if_neg reached, closed]
        exact ⟨⟨nofun, fun brought => absurd (reaches.mpr brought.2) reached⟩, .inr rfl⟩

/-- Before its timeout nothing but a reset changes the state of an open breaker. -/
theorem used_of_waiting {u : TimedUse} {opened : Moment} (isOpen : b.state = .open)
    (since : b.openedAt = some opened) (early : u.at_ - opened < b.settings.timeout.nanoseconds)
    (untouched : u.use ≠ .reset) :
    (b.used u).state = .open ∧ (b.used u).openedAt = some opened := by
  have waiting : b.hasWaited u.at_ = false := by
    simp only [hasWaited, since, decide_eq_false_iff_not]
    exact Nat.not_le.mpr early
  obtain ⟨now, use⟩ := u
  cases use with
  | reset => exact absurd rfl untouched
  | look =>
    have same : b.used ⟨now, .look⟩ = b := b.refresh_of_waiting now waiting
    rw [same]
    exact ⟨isOpen, since⟩
  | record success time =>
    have next : b.used ⟨now, .record success time⟩ =
        { b with failures := if success then b.failures else b.failures + 1
                 lastResponse := some time } := record_of_open isOpen waiting success time
    rw [next]
    exact ⟨isOpen, since⟩

/-- Whatever uses an open breaker after its timeout finds it half open. -/
theorem used_of_waited {u : TimedUse} {opened : Moment} (isOpen : b.state = .open)
    (since : b.openedAt = some opened) (due : b.settings.timeout.nanoseconds ≤ u.at_ - opened) :
    (b.refresh u.at_).state = .halfOpen ∧ b.used u = (b.refresh u.at_).used u := by
  have waited : b.hasWaited u.at_ = true := by
    simp only [hasWaited, since, decide_eq_true_iff]
    exact due
  have half : b.refresh u.at_ = { b with state := .halfOpen } := if_pos ⟨isOpen, waited⟩
  have settled : (b.refresh u.at_).refresh u.at_ = b.refresh u.at_ := b.refresh_refresh u.at_
  refine ⟨by rw [half], ?_⟩
  obtain ⟨now, use⟩ := u
  cases use with
  | reset =>
    show b.reset = (b.refresh now).reset
    rw [half]
    rfl
  | look => exact settled.symm
  | record success time =>
    show b.record success time now = (b.refresh now).record success time now
    rw [record, record, settled]

/-- A breaker is the machine that it is said to be. Let it begin closed and be used fewer than
`2 ^ 32` times for reports, and any number of times for looks and resets, at any moments. While it
is closed it has counted the failures since the latest success, close or reset, and these are fewer
than the threshold; a failure opens it just when it makes up the threshold. While it is open it
keeps the moment of its latest trip, and before its timeout nothing but a reset changes that;
after the timeout whatever uses it finds it half open. Then a success closes it and a failure opens
it anew. As long as it is not closed it has counted the failures that opened it and every one
since. A reset closes it at any time. -/
theorem state_follows_history (settings : BreakerSettings) (positive : 1 ≤ settings.threshold)
    (uses : List TimedUse) (few : uses.countP (fun u => u.use.reports) < 2 ^ 32) :
    let b := (fresh settings).usedBy uses
    let log := (fresh settings).encounters uses
    let threshold := settings.threshold.toNat
    let timeout := settings.timeout.nanoseconds
    (b.state = .closed →
      b.openedAt = none ∧ b.failures.toNat = streak log ∧ streak log < threshold) ∧
    (b.state = .open → ∃ opened, latestTrip? log = some opened ∧ b.openedAt = some opened ∧
      threshold ≤ b.failures.toNat) ∧
    (b.state ≠ .closed → b.failures.toNat = threshold + failuresAway log) ∧
    ∀ u : TimedUse, (uses ++ [u]).countP (fun u => u.use.reports) < 2 ^ 32 →
      let seen := b.refresh u.at_
      let next := b.used u
      (b.state = .closed →
        (next.state = .open ↔ u.use.fails = true ∧ streak log + 1 = threshold) ∧
        (next.state = .open ∨ next.state = .closed)) ∧
      (∀ opened, b.state = .open → b.openedAt = some opened →
        (u.at_ - opened < timeout → u.use ≠ .reset →
          next.state = .open ∧ next.openedAt = some opened) ∧
        (timeout ≤ u.at_ - opened → seen.state = .halfOpen ∧ next = seen.used u)) ∧
      (seen.state = .halfOpen →
        (u.use = .look → next = seen) ∧
        (∀ time, u.use = .record true time → next.state = .closed ∧ next.failures = 0) ∧
        ∀ time, u.use = .record false time →
          next.state = .open ∧ next.openedAt = some u.at_ ∧
            next.failures.toNat = b.failures.toNat + 1) ∧
      (u.use = .reset → next.state = .closed ∧ next.failures = 0) := by
  intro b log threshold timeout
  have failures_few : ∀ uses : List TimedUse, uses.countP (fun u => u.use.reports) < 2 ^ 32 →
      uses.countP (fun u => u.use.fails) < 2 ^ 32 := by
    intro uses few
    refine Nat.lt_of_le_of_lt ?_ few
    exact List.countP_mono_left fun u _ fails => BreakerUse.reports_of_fails fails
  have holds : Holds settings log b := .usedBy positive (failures_few uses few)
  refine ⟨holds.closed, ?_, ?_, ?_⟩
  · intro isOpen
    obtain ⟨opened, tripped, since, counted⟩ := holds.away (by rw [isOpen]; exact nofun)
    exact ⟨opened, tripped, since, counted ▸ Nat.le_add_right _ _⟩
  · intro away
    obtain ⟨_, -, -, counted⟩ := holds.away away
    exact counted
  · intro u more seen next
    have room : (log ++ [(⟨b, u⟩ : Encounter)]).countP Encounter.fails < 2 ^ 32 := by
      rw [← encounters_snoc, countP_encounters]
      exact failures_few _ more
    refine ⟨holds.opens_iff room, ?_, ?_, ?_⟩
    · intro opened isOpen since
      have wait : b.settings.timeout.nanoseconds = timeout := by rw [holds.same]
      exact ⟨fun early => used_of_waiting isOpen since (wait ▸ early),
        fun due => used_of_waited isOpen since (wait ▸ due)⟩
    · intro half
      obtain ⟨now, use⟩ := u
      refine ⟨?_, ?_, ?_⟩
      · rintro rfl
        rfl
      · rintro time rfl
        have closed : next = _ := b.record_success_of_halfOpen half time
        rw [closed]
        exact ⟨rfl, rfl⟩
      · rintro time rfl
        have anew : next = _ := b.record_failure_of_halfOpen half time
        rw [anew]
        exact ⟨rfl, rfl, holds.toNat_failures_add_one (u := ⟨now, .record false time⟩) rfl room⟩
    · obtain ⟨now, use⟩ := u
      rintro rfl
      exact ⟨rfl, rfl⟩

/-- A breaker that opens at the second failure and waits for a millisecond. One more failure is
counted while it waits, a success is not heard, and the failure after a look at the timeout opens
it anew. -/
theorem state_follows_history_touchy :
    let settings : BreakerSettings := { threshold := 2, timeout := Duration.ofMillis 1 }
    let failed : BreakerUse := .record false (Duration.ofMillis 5)
    let uses : List TimedUse := [⟨0, failed⟩, ⟨5, failed⟩,
      ⟨10, .record true (Duration.ofMillis 5)⟩, ⟨1_000_004, failed⟩, ⟨1_000_005, .look⟩]
    let b := (fresh settings).usedBy uses
    let next := b.used ⟨1_000_006, failed⟩
    1 ≤ settings.threshold ∧ b.state = .halfOpen ∧ b.failures.toNat = 2 + 1 ∧
      next.state = .open ∧ next.openedAt = some 1_000_006 ∧ next.failures.toNat = 4 := by
  intro settings failed uses b next
  have half : b.state = .halfOpen := by decide +kernel
  obtain ⟨-, -, away, machine⟩ := state_follows_history settings (by decide) uses (by decide)
  have counted : b.failures.toNat = 2 + 1 :=
    (away (by rw [half]; exact nofun)).trans (by decide +kernel)
  obtain ⟨-, -, decides, -⟩ := machine ⟨1_000_006, failed⟩ (by decide)
  obtain ⟨isOpen, since, one⟩ := (decides (by decide +kernel)).2.2 (Duration.ofMillis 5) rfl
  exact ⟨by decide, half, counted, isOpen, since, one.trans (congrArg (· + 1) counted)⟩

end Breaker

end ServiceMesh
