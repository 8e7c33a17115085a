import ServiceMesh.Duration

/-!
# The load of an instance

The counters of one instance: how many selections are still unreported, how often it was
selected, its smoothed response time and whether its latest reports succeeded.
-/

namespace ServiceMesh

/-- Weigh a new sample against the average so far. -/
def smooth (alpha sample previous : Float) : Float := alpha * sample + (1.0 - alpha) * previous

/-- The load counters of one instance. Its counts are words of 64 bits. -/
structure Load where
  /-- selections without a report -/
  pending : UInt64 := 0
  /-- all selections -/
  selections : UInt64 := 0
  /-- smoothed response time, absent before the first report -/
  averageMs : Option Float := none
  /-- the latest reports, oldest first -/
  recent : List Bool := []
  deriving DecidableEq, Inhabited

namespace Load

/-- The number of selections without a report. -/
def inFlight (l : Load) : Nat := l.pending.toNat

/-- The number of selections. -/
def total (l : Load) : Nat := l.selections.toNat

/-- The instance was selected. A count that is full begins anew. -/
def start (l : Load) : Load :=
  { l with pending := l.pending + 1, selections := l.selections + 1 }

/-- The latest outcomes that a window keeps; a window is never empty. -/
def keepLast (window : Nat) (outcomes : List Bool) : List Bool :=
  outcomes.drop (outcomes.length - max window 1)

/-- A report came in. One without a selection leaves the count of open ones at zero. -/
def finish (l : Load) (success : Bool) (time : Duration) (alpha : Float) (window : Nat) : Load :=
  let sample := time.toMilliseconds
  { pending := if l.pending = 0 then 0 else l.pending - 1
    selections := l.selections
    averageMs := some <| match l.averageMs with
      | none => sample
      | some previous => smooth alpha sample previous
    recent := keepLast window (l.recent ++ [success]) }

/-- The share of successes among the latest reports; without reports it is one. -/
def successRate (l : Load) : Float :=
  if l.recent.isEmpty then 1.0
  else Float.ofNat (l.recent.count true) / Float.ofNat l.recent.length

@[simp] theorem recent_start (l : Load) : l.start.recent = l.recent := rfl

@[simp] theorem total_finish (l : Load) (success : Bool) (time : Duration) (alpha : Float)
    (window : Nat) : (l.finish success time alpha window).total = l.total := rfl

theorem inFlight_finish (l : Load) (success : Bool) (time : Duration) (alpha : Float)
    (window : Nat) : (l.finish success time alpha window).inFlight = l.inFlight - 1 := by
  show (if l.pending = 0 then 0 else l.pending - 1).toNat = l.pending.toNat - 1
  split
  case isTrue empty =>
    rw [empty]
    rfl
  case isFalse waiting =>
    apply UInt64.toNat_sub_of_le
    exact UInt64.le_iff_toNat_le.mpr (Nat.pos_of_ne_zero fun h => waiting (UInt64.toNat_inj.mp h))

end Load

end ServiceMesh
