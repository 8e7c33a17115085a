import ServiceMesh.Breaker.Basic
import ServiceMesh.Failure
import ServiceMesh.Table
import ServiceMesh.Tally

/-!
# The bank of breakers

The bank keeps one breaker for each tracked id and counts the changes of state that its
operations notice. Looking at a breaker may be what notices a change.
-/

namespace ServiceMesh

/-- The breakers of all tracked instances. -/
structure Bank where
  breakers : Table Breaker := ∅
  /-- noticed changes by the state they led to -/
  transitions : Tally BreakerState := []

namespace Bank

/-- A bank without breakers. -/
def empty : Bank := {}

instance : Inhabited Bank := ⟨empty⟩

def find? (b : Bank) (id : String) : Option Breaker := b.breakers[id]?

/-- Begin with a closed breaker, unless the id has one. -/
def track (b : Bank) (id : String) (settings : BreakerSettings) : Bank :=
  match b.find? id with
  | some _ => b
  | none => { b with breakers := b.breakers.insert id { settings } }

/-- Drop the breaker of an id. -/
def forget (b : Bank) (id : String) : Bank := { b with breakers := b.breakers.erase id }

/-- Give every breaker new settings. -/
def reconfigure (b : Bank) (settings : BreakerSettings) : Bank :=
  { b with breakers := b.breakers.map fun _ breaker => { breaker with settings } }

/-- Put a breaker back after an operation on it and count the change of state. -/
def put (b : Bank) (id : String) (before after : Breaker) : Bank :=
  { breakers := b.breakers.insert id after
    transitions := match before.change after with
      | none => b.transitions
      | some state => b.transitions.add state }

/-- Refresh the breaker of an id, if it has one. -/
def refresh (b : Bank) (id : String) (now : Moment) : Bank :=
  match b.find? id with
  | none => b
  | some breaker => b.put id breaker (breaker.refresh now)

/-- The breaker of a written id. -/
def get (b : Bank) (id : String) : Except Failure Breaker := do
  Failure.requireText id "service_id"
  match b.find? id with
  | none => .error (.unknownId id)
  | some breaker => .ok breaker

/-- What is given for an id is what is found under it. -/
theorem find?_of_get {b : Bank} {id : String} {breaker : Breaker} (got : b.get id = .ok breaker) :
    b.find? id = some breaker := by
  obtain ⟨-, -, looked⟩ := Failure.bind_eq_ok_iff.mp got
  split at looked
  case h_1 => cases looked
  case h_2 found =>
    cases looked
    exact found

/-- Apply one report. The answer holds the new state. -/
def report (b : Bank) (id : String) (success : Bool) (time : Duration) (now : Moment) :
    Except Failure (BreakerState × Bank) := do
  let before ← b.get id
  let after := before.record success time now
  return (after.state, b.put id before after)

/-- Whether an instance is isolated. An id without a breaker is not. -/
def isOpen (b : Bank) (id : String) (now : Moment) : Bool × Bank :=
  let b := b.refresh id now
  (((b.find? id).map Breaker.isOpen).getD false, b)

/-- The refreshed status of a breaker. -/
def status (b : Bank) (id : String) (now : Moment) : Except Failure (BreakerStatus × Bank) := do
  let before ← b.get id
  let after := before.refresh now
  return (after.status, b.put id before after)

/-- Close the breaker of an id by hand. This is not counted as a change. -/
def reset (b : Bank) (id : String) : Except Failure Bank := do
  let breaker ← b.get id
  return { b with breakers := b.breakers.insert id breaker.reset }

/-- The number of open breakers, none of them refreshed. -/
def openCount (b : Bank) : Nat := (b.breakers.values.filter Breaker.isOpen).length

end Bank

end ServiceMesh
