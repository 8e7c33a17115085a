import ServiceMesh.Duration

/-!
# Circuit breakers

A breaker isolates an instance that keeps failing. It is closed while the instance
works, opens when failed reports in a row reach the threshold, and lets one report decide
once it has been open for the timeout: success closes it and failure opens it anew.

That an open breaker has waited long enough is noticed lazily, by whatever looks at the
breaker next. Reports on an open breaker are counted and change nothing else.
-/

namespace ServiceMesh

/-- A point on the clock of the breakers, in nanoseconds. -/
abbrev Moment := Nat

inductive BreakerState where
  | closed
  | open
  | halfOpen
  deriving DecidableEq, Repr, Inhabited

/-- The label of a state in the metrics. -/
def BreakerState.label : BreakerState → String
  | closed => "closed"
  | .open => "open"
  | halfOpen => "half_open"

/-- When a breaker opens and how long it stays so. -/
structure BreakerSettings where
  threshold : UInt32
  timeout : Duration
  deriving DecidableEq

/-- The breaker of one instance. The count of failures has 32 bits. -/
structure Breaker where
  settings : BreakerSettings
  state : BreakerState := .closed
  failures : UInt32 := 0
  openedAt : Option Moment := none
  lastResponse : Option Duration := none
  deriving DecidableEq

/-- What a breaker shows of itself. -/
structure BreakerStatus where
  state : BreakerState
  isOpen : Bool
  failures : UInt32
  lastResponse : Option Duration
  deriving DecidableEq

namespace Breaker

/-- Whether an open breaker has waited for its timeout. A clock that ran backwards counts
as no time at all. -/
def hasWaited (b : Breaker) (now : Moment) : Bool :=
  match b.openedAt with
  | none => true
  | some at_ => b.settings.timeout.nanoseconds ≤ now - at_

/-- Notice that an open breaker has waited long enough. -/
def refresh (b : Breaker) (now : Moment) : Breaker :=
  if b.state = .open ∧ b.hasWaited now then { b with state := .halfOpen } else b

/-- Open the breaker. -/
def trip (b : Breaker) (now : Moment) : Breaker := { b with state := .open, openedAt := some now }

/-- Apply one report to a breaker that has been refreshed. -/
def settle (b : Breaker) (success : Bool) (now : Moment) : Breaker :=
  match b.state, success with
  | .closed, true => { b with failures := 0 }
  | .closed, false =>
    let b := { b with failures := b.failures + 1 }
    if b.settings.threshold ≤ b.failures then b.trip now else b
  | .open, true => b
  | .open, false => { b with failures := b.failures + 1 }
  | .halfOpen, true => { b with state := .closed, failures := 0, openedAt := none }
  | .halfOpen, false => { b with failures := b.failures + 1 }.trip now

/-- Apply one report. -/
def record (b : Breaker) (success : Bool) (time : Duration) (now : Moment) : Breaker :=
  { b.refresh now with lastResponse := some time }.settle success now

/-- Close the breaker by hand. -/
def reset (b : Breaker) : Breaker := { b with state := .closed, failures := 0, openedAt := none }

def isOpen (b : Breaker) : Bool := b.state == .open

def status (b : Breaker) : BreakerStatus :=
  { state := b.state, isOpen := b.isOpen, failures := b.failures, lastResponse := b.lastResponse }

/-- The state that an operation led to, if it is another one than before. What happened
in between is not seen. -/
def change (before after : Breaker) : Option BreakerState :=
  if before.state = after.state then none else some after.state

@[simp] theorem settings_refresh (b : Breaker) (now : Moment) :
    (b.refresh now).settings = b.settings := by
  unfold refresh
  split <;> rfl

@[simp] theorem failures_refresh (b : Breaker) (now : Moment) :
    (b.refresh now).failures = b.failures := by
  unfold refresh
  split <;> rfl

@[simp] theorem openedAt_refresh (b : Breaker) (now : Moment) :
    (b.refresh now).openedAt = b.openedAt := by
  unfold refresh
  split <;> rfl

theorem refresh_of_ne_open {b : Breaker} (h : b.state ≠ .open) (now : Moment) :
    b.refresh now = b := by
  simp [refresh, h]

end Breaker

end ServiceMesh
