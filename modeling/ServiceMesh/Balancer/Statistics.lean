import ServiceMesh.Balancer.Load
import ServiceMesh.Config.Basic

/-!
# Selection statistics

What has happened to one service name since the first selection of it.
-/

namespace ServiceMesh

/-- The statistics of one service name. Its counts are words of 64 bits. -/
structure Statistics where
  serviceName : String
  selections : UInt64 := 0
  successes : UInt64 := 0
  failures : UInt64 := 0
  /-- smoothed response time of the reports -/
  average : Duration := .zero
  lastSelected : Option String := none
  algorithm : Algorithm
  deriving DecidableEq

namespace Statistics

/-- The number of selections. -/
def total (s : Statistics) : Nat := s.selections.toNat

/-- The number of reports of a success. -/
def succeeded (s : Statistics) : Nat := s.successes.toNat

/-- The number of reports of a failure. -/
def failed (s : Statistics) : Nat := s.failures.toNat

/-- All reports, in a word. -/
def reports (s : Statistics) : UInt64 := s.successes + s.failures

/-- The number of reports. -/
def reported (s : Statistics) : Nat := s.reports.toNat

/-- Count a selection. -/
def addSelection (s : Statistics) (id : String) (algorithm : Algorithm) : Statistics :=
  { s with selections := s.selections + 1, lastSelected := some id, algorithm }

/-- Count a report. The first one sets the average and each later one moves it. -/
def addReport (s : Statistics) (success : Bool) (time : Duration) (alpha : Float) : Statistics :=
  { s with
    successes := if success then s.successes + 1 else s.successes
    failures := if success then s.failures else s.failures + 1
    average :=
      if s.reports = 0 then time
      else .ofSeconds (smooth alpha time.toSeconds s.average.toSeconds) }

end Statistics

end ServiceMesh
