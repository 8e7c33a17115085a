/-!
# Health status and probe outcomes

An instance is offered for selection while it is healthy or degraded. A probe either
reaches an instance, perhaps in an impaired state, or does not.
-/

namespace ServiceMesh

/-- What is known about the health of an instance. -/
inductive Status where
  | unknown
  | healthy
  | unhealthy
  | degraded
  deriving DecidableEq, Repr, Inhabited

namespace Status

/-- Whether an instance in this status may receive requests. -/
def selectable : Status → Bool
  | healthy | degraded => true
  | unknown | unhealthy => false

theorem selectable_iff {s : Status} : s.selectable = true ↔ s = .healthy ∨ s = .degraded := by
  cases s <;> decide

/-- The name of a status. -/
def name : Status → String
  | unknown => "unknown"
  | healthy => "healthy"
  | unhealthy => "unhealthy"
  | degraded => "degraded"

def all : List Status := [unknown, healthy, unhealthy, degraded]

/-- The status with a name. -/
def ofName? (s : String) : Option Status := all.find? (·.name == s)

theorem ofName?_name (s : Status) : ofName? s.name = some s := by
  cases s <;> decide

end Status

/-- The answer of one probe. -/
inductive Outcome where
  | up
  | degraded
  | down
  deriving DecidableEq, Repr, Inhabited

namespace Outcome

/-- Whether the instance was reached. -/
def isSuccess : Outcome → Bool
  | up | degraded => true
  | down => false

/-- The status of an instance that is not held unhealthy and was reached. -/
def landing : Outcome → Status
  | degraded => .degraded
  | up | down => .healthy

def name : Outcome → String
  | up => "up"
  | degraded => "degraded"
  | down => "down"

def all : List Outcome := [up, degraded, down]

/-- The outcome with a name. -/
def ofName? (s : String) : Option Outcome := all.find? (·.name == s)

theorem ofName?_name (o : Outcome) : ofName? o.name = some o := by
  cases o <;> decide

end Outcome

end ServiceMesh
