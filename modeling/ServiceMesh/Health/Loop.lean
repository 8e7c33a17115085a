import ServiceMesh.Config.Basic

/-!
# Probe loops

A loop probes one instance again and again. Its first probe is due at once and each
later one an interval after the one before was due. A probe that is taken more than five
milliseconds late moves the schedule: the next one is due an interval after it was
taken. So a slow probe is never followed by a burst.

Times are milliseconds on the clock of the probes.
-/

namespace ServiceMesh

/-- A probe that is under way. Its end is known from its start: it answers, or its time
runs out. -/
structure Probe where
  started : Nat
  ends : Nat
  timedOut : Bool
  deriving DecidableEq, Repr

/-- What an instance does with a probe: answer after a delay, or hang. -/
inductive Reaction where
  | answers (delay : Nat)
  | hangs
  deriving DecidableEq, Repr

/-- The probe that begins at a time and has a limit. An answer that comes exactly at the
limit still counts. -/
def Probe.begin (now limit : Nat) : Reaction → Probe
  | .answers delay =>
    if delay ≤ limit then ⟨now, now + delay, false⟩ else ⟨now, now + limit, true⟩
  | .hangs => ⟨now, now + limit, true⟩

/-- Where a loop stands. -/
inductive Phase where
  /-- not begun: its first probe is due when it is first looked at -/
  | fresh
  /-- waiting for its next probe -/
  | waiting (due : Nat)
  /-- probing, and the next probe is due then -/
  | probing (probe : Probe) (due : Nat)
  deriving DecidableEq, Repr

/-- The lateness in milliseconds up to which the schedule is kept. -/
def tolerance : Nat := 5

/-- When the probe after one that was due and is now taken is due. -/
def nextDue (interval due now : Nat) : Nat :=
  if due + tolerance < now then now + interval else due + interval

/-- A loop. Loops are numbered in the order in which they were begun. -/
structure Loop where
  serial : Nat
  phase : Phase := .fresh
  deriving DecidableEq, Repr

end ServiceMesh
