import ServiceMesh.Balancer.Candidate

/-!
# The hash ring

Every member of a service owns points on a ring of 64-bit numbers. A request is hashed
to a point and walks clockwise, from the smaller to the larger numbers and on from the
smallest one, until it meets a point of an instance that may be selected. The ring is
made of all members, fit or not, so that requests stay where they are while other
members come and go.

Points are hashed by FNV-1a and then spread by the finalizer of SplitMix64.
-/

namespace ServiceMesh

/-- Spread the bits of a number over all of it. -/
def spread (h : UInt64) : UInt64 :=
  let h := (h ^^^ (h >>> 30)) * 0xbf58476d1ce4e5b9
  let h := (h ^^^ (h >>> 27)) * 0x94d049bb133111eb
  h ^^^ (h >>> 31)

/-- One step of FNV-1a. -/
def fnvStep (h : UInt64) (byte : UInt8) : UInt64 := (h ^^^ byte.toUInt64) * 0x100000001b3

/-- FNV-1a of a sequence of bytes. -/
def fnv (bytes : List UInt8) : UInt64 := bytes.foldl fnvStep 0xcbf29ce484222325

/-- The point of a sequence of bytes. -/
def hashBytes (bytes : List UInt8) : UInt64 := spread (fnv bytes)

/-- The point of a text, by its UTF-8 bytes. -/
def hashText (s : String) : UInt64 := hashBytes s.toUTF8.toList

/-- A point of the ring and the member that owns it. -/
abbrev RingPoint := UInt64 × String

/-- The ring of a list of members. Its points ascend and no two are equal. -/
structure Ring where
  members : List String := []
  points : List RingPoint := []
  deriving DecidableEq, Repr, Inhabited

namespace Ring

/-- The number of points of each member; there is at least one. -/
def replicaCount (replicas : UInt32) : Nat := max replicas.toNat 1

/-- The points of one member. -/
def pointsOf (replicas : Nat) (member : String) : List RingPoint :=
  (List.range replicas).map fun i => (hashText (member ++ "#" ++ toString i), member)

/-- Put a point in front of the points kept so far, unless the first of them is the same
point and so replaces it. -/
def consLatest (p : RingPoint) : List RingPoint → List RingPoint
  | [] => [p]
  | q :: kept => if p.1 = q.1 then q :: kept else p :: q :: kept

/-- Keep of equal neighbours only the last. -/
def keepLatest (points : List RingPoint) : List RingPoint := points.foldr consLatest []

/-- The ring of a list of members. A point that is hit twice belongs to the later one. -/
def build (members : List String) (replicas : UInt32) : Ring :=
  { members
    points := keepLatest <|
      (members.flatMap (pointsOf (replicaCount replicas))).mergeSort fun p q => p.1 ≤ q.1 }

def size (r : Ring) : Nat := r.points.length

/-- The owners of the points in clockwise order from a key. -/
def walk (r : Ring) (key : UInt64) : List String :=
  (r.points.filter (key ≤ ·.1) ++ r.points.filter (·.1 < key)).map (·.2)

end Ring

end ServiceMesh
