import ServiceMesh.Proofs.Breaker.Trips

/-!
# The counter of failures over any number of reports

The counter has 32 bits and nothing stops it: an open breaker counts every failure that it hears
of. So it holds the failures since it was set back last, modulo `2 ^ 32`. A closed breaker always
has room for one more, since it opens before the counter is full; one that is not closed has not,
and its counter may come round to zero.
-/

namespace ServiceMesh

/-- What is done to a breaker: a use, or a change of its settings. -/
inductive Handling where
  | use (u : TimedUse)
  | configure (settings : BreakerSettings)
  deriving DecidableEq

/-- Whether a failure is reported. -/
def Handling.fails : Handling → Bool
  | use u => u.use.fails
  | configure _ => false

namespace Breaker

variable {b : Breaker} {h : Handling}

/-- The breaker after something was done to it. -/
def handled (b : Breaker) : Handling → Breaker
  | .use u => b.used u
  | .configure settings => { b with settings }

/-- The breaker after things that follow one another. -/
def handledBy (b : Breaker) (hs : List Handling) : Breaker := hs.foldl handled b

/-- Whether the counter is set back: by a reset, or by a success unless the breaker is seen open. -/
def setsBack (b : Breaker) : Handling → Bool
  | .use ⟨_, .reset⟩ => true
  | .use ⟨now, .record true _⟩ => (b.refresh now).state != .open
  | _ => false

/-- A count without a bound, after something was done to a breaker. -/
def tallied (b : Breaker) (n : Nat) (h : Handling) : Nat :=
  if b.setsBack h then 0 else if h.fails then n + 1 else n

/-- The failures since the counter was set back last, beyond some that were there before if it
never was. -/
def pending (b : Breaker) : Nat → List Handling → Nat
  | n, [] => n
  | n, h :: rest => (b.handled h).pending (b.tallied n h) rest

/-! ## One step -/

theorem failures_handled (b : Breaker) (h : Handling) :
    (b.handled h).failures =
      if b.setsBack h then 0 else if h.fails then b.failures + 1 else b.failures := by
  cases h with
  | configure => rfl
  | use u =>
    obtain ⟨now, use⟩ := u
    cases use with
    | reset => rfl
    | look => exact b.failures_refresh now
    | record success time =>
      show (b.record success time now).failures = _
      obtain closed | ⟨isOpen, waiting⟩ | half := b.stance_cases now
      · have seen : (b.refresh now).state = .closed := by
          rw [refresh_of_ne_open (by simp [closed]), closed]
        cases success with
        | true =>
          rw [record_success_of_closed closed, setsBack, seen]
          rfl
        | false =>
          rw [record_failure_of_closed closed]
          split <;> rfl
      · have seen : (b.refresh now).state = .open := by
          rw [b.refresh_of_waiting now waiting, isOpen]
        rw [record_of_open isOpen waiting]
        cases success with
        | true =>
          rw [setsBack, seen]
          rfl
        | false => rfl
      · cases success with
        | true =>
          rw [record_success_of_halfOpen half, setsBack, half]
          rfl
        | false =>
          rw [record_failure_of_halfOpen half]
          rfl

/-- A breaker whose counter is set back is closed. -/
theorem closed_of_setsBack (back : b.setsBack h = true) : (b.handled h).state = .closed := by
  cases h with
  | configure => cases back
  | use u =>
    obtain ⟨now, use⟩ := u
    cases use with
    | reset => rfl
    | look => cases back
    | record success time =>
      cases success with
      | false => cases back
      | true =>
        have seen : (b.refresh now).state ≠ .open := bne_iff_ne.mp back
        show (b.record true time now).state = .closed
        obtain closed | ⟨isOpen, waiting⟩ | half := b.stance_cases now
        · rw [record_success_of_closed closed]
          exact closed
        · rw [b.refresh_of_waiting now waiting] at seen
          exact absurd isOpen seen
        · rw [record_success_of_halfOpen half]

/-- The counter counts modulo `2 ^ 32`. -/
theorem toNat_failures_handled {n : Nat} (counts : b.failures.toNat = n % 2 ^ 32) (h : Handling) :
    (b.handled h).failures.toNat = b.tallied n h % 2 ^ 32 := by
  rw [failures_handled, tallied]
  split
  · rfl
  · split
    · rw [UInt32.toNat_add, counts]
      show (n % 2 ^ 32 + 1) % 2 ^ 32 = (n + 1) % 2 ^ 32
      omega
    · exact counts

/-- The counter of a closed breaker is not full. -/
def HasRoom (b : Breaker) : Prop := b.state = .closed → b.failures.toNat + 1 < 2 ^ 32

/-- A failure that is one too many for the counter opens the breaker first. -/
theorem hasRoom_handled (room : b.HasRoom) (h : Handling) : (b.handled h).HasRoom := by
  intro closed
  cases h with
  | configure => exact room closed
  | use u =>
    obtain ⟨now, use⟩ := u
    cases use with
    | reset => exact Nat.one_lt_two_pow (by decide)
    | look =>
      obtain ⟨before, same⟩ := b.closed_of_refresh now closed
      show (b.refresh now).failures.toNat + 1 < 2 ^ 32
      rw [same]
      exact room before
    | record success time =>
      show (b.record success time now).failures.toNat + 1 < 2 ^ 32
      obtain ⟨-, cleared⟩ | ⟨-, -, counted, below⟩ := b.closed_of_record time now closed
      · rw [cleared]
        decide
      · rw [counted]
        have bound := b.settings.threshold.toNat_lt
        rw [UInt32.lt_iff_toNat_lt] at below
        omega

/-! ## Any number of steps -/

private theorem toNat_failures_handledBy {n : Nat} (counts : b.failures.toNat = n % 2 ^ 32)
    (hs : List Handling) : (b.handledBy hs).failures.toNat = b.pending n hs % 2 ^ 32 := by
  induction hs generalizing b n with
  | nil => exact counts
  | cons h rest ih => exact ih (toNat_failures_handled counts h)

private theorem hasRoom_handledBy (room : b.HasRoom) (hs : List Handling) :
    (b.handledBy hs).HasRoom := by
  induction hs generalizing b with
  | nil => exact room
  | cons h rest ih => exact ih (hasRoom_handled room h)

/-- The counter holds the failures since it was set back last, modulo `2 ^ 32`, whatever is done to
a breaker and whatever settings it is given. It is set back by a reset, by a success while the
breaker is closed, and by the success that closes one. Until there are `2 ^ 32` failures since then
nothing else makes it smaller. That is so for a closed breaker in any case. -/
theorem failures_modulo (settings : BreakerSettings) (hs : List Handling) :
    let b := (fresh settings).handledBy hs
    let pending := (fresh settings).pending 0 hs
    b.failures.toNat = pending % 2 ^ 32 ∧
    ∀ h : Handling,
      (b.setsBack h = true → (b.handled h).state = .closed ∧ (b.handled h).failures = 0) ∧
      (b.setsBack h = false → b.state = .closed ∨ pending + 1 < 2 ^ 32 →
        (b.handled h).failures.toNat = b.failures.toNat + if h.fails then 1 else 0) := by
  intro b pending
  have counts : b.failures.toNat = pending % 2 ^ 32 := toNat_failures_handledBy rfl hs
  have room : b.HasRoom := hasRoom_handledBy (fun _ => Nat.one_lt_two_pow (by decide)) hs
  refine ⟨counts, fun h => ⟨fun back => ⟨closed_of_setsBack back, ?_⟩, fun stays small => ?_⟩⟩
  · rw [failures_handled, if_pos back]
  · have fits : b.failures.toNat + 1 < 2 ^ 32 := by
      obtain closed | few := small
      · exact room closed
      · omega
    rw [failures_handled, stays]
    cases h.fails with
    | false => rfl
    | true =>
      show (b.failures + 1).toNat = b.failures.toNat + 1
      rw [UInt32.toNat_add]
      exact Nat.mod_eq_of_lt fits

/-- A report of a failure at the beginning of time. -/
def failedAtOnce : Handling := .use ⟨0, .record false (Duration.ofMillis 1)⟩

/-- A breaker that opens at the first failure and stays open for a minute. -/
def patient : BreakerSettings := { threshold := 1, timeout := Duration.ofMillis 60000 }

theorem handled_failedAtOnce (isOpen : b.state = .open) (waiting : b.hasWaited 0 = false) :
    b.handled failedAtOnce =
      { b with failures := b.failures + 1, lastResponse := some (Duration.ofMillis 1) } :=
  record_of_open isOpen waiting false (Duration.ofMillis 1)

/-- Until its timeout it hears of any number of failures and counts them all. -/
theorem handledBy_failures {n : Nat} (positive : 0 < n) :
    (fresh patient).handledBy (List.replicate n failedAtOnce) =
      { settings := patient, state := .open, failures := UInt32.ofNat n
        openedAt := some 0, lastResponse := some (Duration.ofMillis 1) } := by
  -- The number stays a variable here: a run of `2 ^ 32` steps is never evaluated.
  induction n, positive using Nat.le_induction with
  | base => decide
  | succ n _ ih =>
    rw [List.replicate_succ', handledBy, List.foldl_append]
    show ((fresh patient).handledBy (List.replicate n failedAtOnce)).handled failedAtOnce = _
    rw [ih, handled_failedAtOnce rfl rfl]
    simp [UInt32.ofNat_add]

/-- The counter comes round: one more failure takes the open breaker from the largest number to
zero. -/
theorem failures_come_round :
    let b := (fresh patient).handledBy (List.replicate (2 ^ 32 - 1) failedAtOnce)
    b.state = .open ∧ b.failures.toNat = 2 ^ 32 - 1 ∧
      (b.handled failedAtOnce).state = .open ∧ (b.handled failedAtOnce).failures = 0 := by
  rw [handledBy_failures (by decide)]
  decide

end Breaker

end ServiceMesh
