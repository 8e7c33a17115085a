import ServiceMesh.Coordinator.Basic

/-!
# Summaries

A summary counts the instances of a node by status and adds up the statistics of all
service names. Its response time is the mean of the averages of the names, each weighed
by its number of reports.
-/

namespace ServiceMesh

/-- A node at one moment. Its counts of selections and reports are words of 64 bits. -/
structure Summary where
  nodeId : NodeId
  services : Nat
  healthy : Nat
  unhealthy : Nat
  degraded : Nat
  openBreakers : Nat
  selections : UInt64
  successes : UInt64
  failures : UInt64
  average : Duration
  running : Bool

namespace Summary

/-- The number of selections. -/
def total (s : Summary) : Nat := s.selections.toNat

/-- The number of reports of a success. -/
def succeeded (s : Summary) : Nat := s.successes.toNat

/-- The number of reports of a failure. -/
def failed (s : Summary) : Nat := s.failures.toNat

/-- The sum of a count over all names. -/
def sumOf (count : Statistics → UInt64) (stats : List Statistics) : UInt64 :=
  stats.foldl (fun n s => n + count s) 0

/-- The weighed sum of the averages in seconds, taken in the order of the names. -/
def weighedSeconds (stats : List Statistics) : Float :=
  stats.foldl (fun sum s => sum + s.average.toSeconds * s.reports.toFloat) 0.0

/-- The mean of the averages; without reports it is zero. -/
def meanTime (stats : List Statistics) : Duration :=
  let reports := sumOf Statistics.reports stats
  if reports = 0 then .zero
  else .ofSeconds (weighedSeconds stats / reports.toFloat)

end Summary

/-- The summary of a node. -/
def Coordinator.summary (c : Coordinator) : Summary :=
  let records := c.mesh.store.all
  let stats := c.mesh.balancer.allStatistics
  let count (s : Status) := records.countP fun r => r.status == s
  { nodeId := c.nodeId
    services := records.length
    healthy := count .healthy
    unhealthy := count .unhealthy
    degraded := count .degraded
    openBreakers := c.mesh.bank.openCount
    selections := Summary.sumOf Statistics.selections stats
    successes := Summary.sumOf Statistics.successes stats
    failures := Summary.sumOf Statistics.failures stats
    average := Summary.meanTime stats
    running := c.isRunning }

end ServiceMesh
