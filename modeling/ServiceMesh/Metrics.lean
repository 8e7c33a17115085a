/-!
# Metrics

A metric is recorded under a series: its name and its labels in ascending order. Counters
and gauges are whole numbers; a distribution keeps every recorded number.
-/

namespace ServiceMesh

/-- What was recorded under a series. -/
inductive Sample where
  | number (value : Nat)
  | distribution (values : List Float)

/-- A metric with its labels. -/
structure Series where
  metric : String
  labels : List (String × String) := []
  deriving DecidableEq, Repr

namespace Series

/-- The text of a series: the name, and the labels in braces. -/
def text (s : Series) : String :=
  s.metric ++ "\x7b" ++
    ",".intercalate (s.labels.map fun (label, value) => label ++ "=" ++ value) ++ "\x7d"

end Series

end ServiceMesh
