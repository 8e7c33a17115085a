import ServiceMesh.Balancer.Ring
import ServiceMesh.Balancer.WeightTable

/-!
# Selectors

A selector is the state of one algorithm for one service name. It chooses a position in
a list of candidates. Chance is an input: every choice is given a number drawn for it,
and only the algorithms that need one look at it.
-/

namespace ServiceMesh

/-- What a choice may depend on besides the candidates. -/
structure Request where
  /-- the key that consistent hashing keeps on one instance -/
  client : Option String := none
  /-- the ids of all instances of the name, fit or not, in the order of registration -/
  members : List String := []

/-- The state of an algorithm. Cursors count modulo `2 ^ 64`. -/
inductive Selector where
  | roundRobin (cursor : UInt64)
  | leastConnections
  | weightedRoundRobin (cursor : UInt64)
  | performanceBased (minSuccessRate : Float)
  | random (weighted : Bool)
  /-- the ring of the latest choice is kept until the members change -/
  | consistentHash (replicas : UInt32) (ring : Ring)
  deriving DecidableEq

namespace Selector

/-- The selector that a configuration asks for, before its first choice. -/
def ofConfig (c : BalancerConfig) : Selector :=
  match c.algorithm with
  | .roundRobin => roundRobin 0
  | .leastConnections => leastConnections
  | .weightedRoundRobin => weightedRoundRobin 0
  | .performanceBased => performanceBased c.minSuccessRate
  | .random => random c.weightedRandom
  | .consistentHash => consistentHash c.hashReplicas {}

/-- Whether a change of the configuration asks for a new selector. -/
def outdated (old new : BalancerConfig) : Bool :=
  old.algorithm != new.algorithm || old.hashReplicas != new.hashReplicas ||
    old.weightedRandom != new.weightedRandom || old.minSuccessRate != new.minSuccessRate

/-- Whether one candidate has fewer open selections than another. -/
def lighter (x y : Candidate × Nat) : Bool := x.1.load.inFlight < y.1.load.inFlight

/-- The candidate with the fewest open selections, the first of several. -/
def leastLoaded? (cs : List Candidate) : Option Nat :=
  (firstLeast? lighter cs.zipIdx).map (·.2)

/-- Whether one candidate answers faster than another. A candidate without reports
counts as answering at once, and among equals the less often selected one is faster. -/
def faster (x y : Candidate × Nat) : Bool :=
  let a := Decimal.orderKey (x.1.load.averageMs.getD 0.0)
  let b := Decimal.orderKey (y.1.load.averageMs.getD 0.0)
  a < b || (a == b && x.1.load.total < y.1.load.total)

/-- The fastest candidate among those that succeed often enough, or among all if none
does. -/
def fastest? (minSuccessRate : Float) (cs : List Candidate) : Option Nat :=
  let acceptable := cs.zipIdx.filter fun c => minSuccessRate ≤ c.1.load.successRate
  let pool := if acceptable.isEmpty then cs.zipIdx else acceptable
  (firstLeast? faster pool).map (·.2)

/-- The candidate that a drawn number hits. -/
def drawn? (weighted : Bool) (draw : UInt64) (cs : List Candidate) : Option Nat :=
  if cs.isEmpty then none
  else if weighted then
    let table := WeightTable.ofCandidates cs
    table.owner? (draw.toNat % table.total)
  else some (draw.toNat % cs.length)

/-- The last position of a candidate with an id. -/
def position? (cs : List Candidate) (id : String) : Option Nat :=
  ((cs.zipIdx.filter (·.1.id == id)).getLast?).map (·.2)

/-- The ring for a list of members; the one at hand if it is made of the same members. -/
def ringFor (replicas : UInt32) (ring : Ring) (members : List String) : Ring :=
  if ring.members = members then ring else Ring.build members replicas

/-- The first candidate clockwise from a key. -/
def firstOnRing? (ring : Ring) (key : UInt64) (cs : List Candidate) : Option Nat :=
  (ring.walk key).findSome? (position? cs)

/-- Choose a position in the list of candidates. -/
def choose (s : Selector) (cs : List Candidate) (request : Request) (draw : UInt64) :
    Option Nat × Selector :=
  match s with
  | roundRobin cursor =>
    if cs.isEmpty then (none, s)
    else (some (cursor.toNat % cs.length), roundRobin (cursor + 1))
  | leastConnections => (leastLoaded? cs, s)
  | weightedRoundRobin cursor =>
    let table := WeightTable.ofCandidates cs
    if table.total = 0 then (none, s)
    else (table.owner? (cursor.toNat % table.total), weightedRoundRobin (cursor + 1))
  | performanceBased minSuccessRate => (fastest? minSuccessRate cs, s)
  | random weighted => (drawn? weighted draw cs, s)
  | consistentHash replicas ring =>
    if cs.isEmpty then (none, s)
    else
      let members := if request.members.isEmpty then cs.map Candidate.id else request.members
      let key := match request.client with
        | some client => hashText client
        | none => draw
      let ring := ringFor replicas ring members
      (firstOnRing? ring key cs, consistentHash replicas ring)

end Selector

end ServiceMesh
