/-!
# Shutdown

The request to shut down is a latch: once it is given it stays given, and whoever waits
for it goes on, no matter whether the wait began before or after.
-/

namespace ServiceMesh

/-- The latch and the number of tasks that wait for it. -/
structure Shutdown where
  triggered : Bool := false
  waiting : Nat := 0
  deriving DecidableEq, Repr, Inhabited

namespace Shutdown

/-- Ask for the shutdown. -/
def trigger (s : Shutdown) : Shutdown := { s with triggered := true }

/-- Let one more task wait. -/
def subscribe (s : Shutdown) : Shutdown := { s with waiting := s.waiting + 1 }

/-- Whether each waiting task may go on. -/
def resolved (s : Shutdown) : List Bool := List.replicate s.waiting s.triggered

end Shutdown

end ServiceMesh
