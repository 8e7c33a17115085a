import Mathlib.Data.List.Basic
import Mathlib.Data.Nat.Basic
import ServiceMesh.Proofs.Balancer.Selector
import ServiceMesh.Proofs.Sorting

/-!
# Nearest instances on the ring

Without any ring it can be said which instance a key should lead to. Each point that members
hash to belongs to the last of them that hits it, and the key leads to the owner of the point
that lies the shortest way clockwise from it, of the points that belong to candidates. The
ring sorts the points and walks through them from the key on, and finds the same instance.
-/

namespace ServiceMesh

namespace Ring

variable {members : List String} {replicas : UInt32} {key point : UInt64} {ids : List String}
  {id : String}

/-! ## Owners -/

/-- Whether a member hits a point: one of its replicas is hashed to it. -/
def Hits (replicas : UInt32) (point : UInt64) (member : String) : Prop :=
  ∃ i < replicaCount replicas, hashText (member ++ "#" ++ toString i) = point

instance (replicas : UInt32) (point : UInt64) (member : String) :
    Decidable (Hits replicas point member) :=
  inferInstanceAs (Decidable (∃ i < replicaCount replicas, _))

/-- The member that a point belongs to, the last of those that hit it. -/
def owner? (members : List String) (replicas : UInt32) (point : UInt64) : Option String :=
  members.reverse.find? fun member => Hits replicas point member

theorem mem_of_owner? {point : UInt64} {member : String}
    (owns : owner? members replicas point = some member) :
    member ∈ members ∧ Hits replicas point member := by
  refine ⟨List.mem_reverse.mp (List.mem_of_find?_eq_some owns), ?_⟩
  simpa using List.find?_some owns

/-- Each of the points that members hash to belongs to one of them. -/
theorem owner?_of_hits {point : UInt64} {member : String} (there : member ∈ members)
    (hits : Hits replicas point member) : ∃ owner, owner? members replicas point = some owner := by
  rw [← Option.isSome_iff_exists, owner?, List.find?_isSome]
  exact ⟨member, List.mem_reverse.mpr there, decide_eq_true hits⟩

/-! ## Points of the ring -/

private theorem fst_head?_keepLatest (points : List RingPoint) :
    (keepLatest points).head?.map (·.1) = points.head?.map (·.1) := by
  cases points with
  | nil => rfl
  | cons first rest =>
    rw [keepLatest, List.foldr_cons, ← keepLatest]
    cases keepLatest rest with
    | nil => rfl
    | cons q kept =>
      rw [consLatest]
      split
      case isTrue same => simp [same]
      case isFalse => rfl

/-- A point is dropped if the next one is equal to it. -/
theorem keepLatest_cons (first : RingPoint) (rest : List RingPoint) :
    keepLatest (first :: rest) =
      if rest.head?.map (·.1) = some first.1 then keepLatest rest
      else first :: keepLatest rest := by
  rw [← fst_head?_keepLatest rest, keepLatest, List.foldr_cons, ← keepLatest]
  cases keepLatest rest with
  | nil => rfl
  | cons q kept => simp [consLatest, eq_comm]

private theorem mem_of_mem_keepLatest {points : List RingPoint} {p : RingPoint}
    (kept : p ∈ keepLatest points) : p ∈ points := by
  induction points with
  | nil => exact kept
  | cons first rest ih =>
    rw [keepLatest_cons] at kept
    split at kept
    case isTrue => exact List.mem_cons_of_mem _ (ih kept)
    case isFalse =>
      rcases List.mem_cons.mp kept with rfl | old
      · exact List.mem_cons_self
      · exact List.mem_cons_of_mem _ (ih old)

/-- The points of a sorted list come after a first one that no point equals. -/
theorem lt_of_head?_ne {first : RingPoint} {rest : List RingPoint}
    (sorted : (first :: rest).Pairwise fun p q => p.1.toNat ≤ q.1.toNat)
    (differ : rest.head?.map (·.1) ≠ some first.1) : ∀ q ∈ rest, first.1.toNat < q.1.toNat := by
  cases rest with
  | nil => exact nofun
  | cons second others =>
    obtain ⟨least, sorted⟩ := List.pairwise_cons.mp sorted
    have apart : second.1.toNat ≠ first.1.toNat := by
      intro same
      exact differ (congrArg some (UInt64.toNat_inj.mp same))
    have below : first.1.toNat < second.1.toNat :=
      Nat.lt_of_le_of_ne (least second List.mem_cons_self) apart.symm
    intro q hq
    rcases List.mem_cons.mp hq with rfl | later
    · exact below
    · exact Nat.lt_of_lt_of_le below ((List.pairwise_cons.mp sorted).1 q later)

/-- Of a sorted list no two kept points are equal. -/
theorem pairwise_keepLatest {points : List RingPoint}
    (sorted : points.Pairwise fun p q => p.1.toNat ≤ q.1.toNat) :
    (keepLatest points).Pairwise fun p q => p.1.toNat < q.1.toNat := by
  induction points with
  | nil => exact List.Pairwise.nil
  | cons first rest ih =>
    have others := ih (List.pairwise_cons.mp sorted).2
    rw [keepLatest_cons]
    split
    case isTrue => exact others
    case isFalse differ =>
      refine List.pairwise_cons.mpr ⟨?_, others⟩
      intro q kept
      exact lt_of_head?_ne sorted differ q (mem_of_mem_keepLatest kept)

/-- Of the equal points in a sorted list the last one is kept. -/
theorem filter_keepLatest {points : List RingPoint}
    (sorted : points.Pairwise fun p q => p.1.toNat ≤ q.1.toNat) (n : Nat) :
    (keepLatest points).filter (·.1.toNat == n) =
      (points.filter (·.1.toNat == n)).getLast?.toList := by
  induction points with
  | nil => rfl
  | cons first rest ih =>
    have others := ih (List.pairwise_cons.mp sorted).2
    rw [keepLatest_cons]
    by_cases own : first.1.toNat = n
    · split
      case isTrue same =>
        obtain ⟨second, hsecond, equal⟩ := Option.map_eq_some_iff.mp same
        have there : second ∈ rest.filter (·.1.toNat == n) := by
          rw [List.mem_filter, equal, own, beq_self_eq_true]
          exact ⟨List.mem_of_head? hsecond, rfl⟩
        rw [others, List.filter_cons_of_pos (by rw [own, beq_self_eq_true]), List.getLast?_cons,
          List.getLast?_eq_some_getLast (List.ne_nil_of_mem there), Option.getD_some]
      case isFalse differ =>
        have nothing : rest.filter (·.1.toNat == n) = [] := by
          rw [List.filter_eq_nil_iff]
          intro q hq
          have above := lt_of_head?_ne sorted differ q hq
          rw [beq_iff_eq]
          omega
        rw [List.filter_cons_of_pos (by rw [own, beq_self_eq_true]),
          List.filter_cons_of_pos (by rw [own, beq_self_eq_true]), others, nothing]
        rfl
    · have skipped : (first.1.toNat == n) = false := beq_eq_false_iff_ne.mpr own
      split
      case isTrue => simpa [List.filter_cons, skipped] using others
      case isFalse => simpa [List.filter_cons, skipped] using others

/-- The points that members hash to, in the order of the members. -/
def hashed (members : List String) (replicas : UInt32) : List RingPoint :=
  members.flatMap (pointsOf (replicaCount replicas))

theorem mem_hashed_iff : (point, id) ∈ hashed members replicas ↔
    id ∈ members ∧ Hits replicas point id := by
  simp only [hashed, List.mem_flatMap, pointsOf, List.mem_map, List.mem_range, Prod.mk.injEq]
  constructor
  · rintro ⟨member, there, i, below, hits, rfl⟩
    exact ⟨there, i, below, hits⟩
  · rintro ⟨there, i, below, hits⟩
    exact ⟨id, there, i, below, hits, rfl⟩

private theorem points_eq (members : List String) (replicas : UInt32) :
    (build members replicas).points =
      keepLatest ((hashed members replicas).mergeSort fun p q => p.1.toNat ≤ q.1.toNat) := by
  have order : (fun p q : RingPoint => decide (p.1 ≤ q.1)) =
      fun p q => decide (p.1.toNat ≤ q.1.toNat) := by
    funext p q
    rw [decide_eq_decide, UInt64.le_iff_toNat_le]
  rw [build, order, hashed]

private theorem sorted_hashed (members : List String) (replicas : UInt32) :
    ((hashed members replicas).mergeSort fun p q => p.1.toNat ≤ q.1.toNat).Pairwise
      fun p q => p.1.toNat ≤ q.1.toNat :=
  pairwise_mergeSort_key (fun p : RingPoint => p.1.toNat) _

/-- The points of the ring ascend. -/
theorem pairwise_points (members : List String) (replicas : UInt32) :
    (build members replicas).points.Pairwise fun p q => p.1.toNat < q.1.toNat := by
  rw [points_eq]
  exact pairwise_keepLatest (sorted_hashed members replicas)

private theorem getLast?_filter_pointsOf (member : String) (point : UInt64) :
    ((pointsOf (replicaCount replicas) member).filter (·.1.toNat == point.toNat)).getLast? =
      if Hits replicas point member then some (point, member) else none := by
  have only : ∀ p ∈ (pointsOf (replicaCount replicas) member).filter (·.1.toNat == point.toNat),
      p = (point, member) := by
    intro p hp
    obtain ⟨own, same⟩ := List.mem_filter.mp hp
    obtain ⟨i, -, rfl⟩ := List.mem_map.mp own
    rw [beq_iff_eq, UInt64.toNat_inj] at same
    rw [← same]
  split
  case isTrue hits =>
    obtain ⟨i, below, same⟩ := hits
    have there : (point, member) ∈
        (pointsOf (replicaCount replicas) member).filter (·.1.toNat == point.toNat) := by
      refine List.mem_filter.mpr ⟨List.mem_map.mpr ⟨i, List.mem_range.mpr below, ?_⟩, ?_⟩
      · rw [same]
      · exact beq_self_eq_true _
    rw [List.getLast?_eq_some_getLast (List.ne_nil_of_mem there)]
    exact congrArg some (only _ (List.getLast_mem _))
  case isFalse missed =>
    rw [List.getLast?_eq_none_iff, List.eq_nil_iff_forall_not_mem]
    intro p hp
    have same := only p hp
    obtain ⟨i, below, hashed⟩ := List.mem_map.mp (List.mem_of_mem_filter hp)
    refine missed ⟨i, List.mem_range.mp below, ?_⟩
    rw [← hashed] at same
    exact congrArg Prod.fst same

private theorem findSome?_if {α β : Type} (xs : List α) (p : α → Prop) [DecidablePred p]
    (f : α → β) :
    (xs.findSome? fun x => if p x then some (f x) else none) =
      (xs.find? fun x => p x).map f := by
  induction xs with
  | nil => rfl
  | cons x rest ih =>
    rw [List.findSome?_cons, List.find?_cons]
    by_cases h : p x
    · simp [h]
    · simp [h, ih]

/-- The ring has each point with its owner. -/
theorem mem_points_iff {point : UInt64} {member : String} :
    (point, member) ∈ (build members replicas).points ↔
      owner? members replicas point = some member := by
  have latest : (build members replicas).points.filter (·.1.toNat == point.toNat) =
      ((owner? members replicas point).map fun owner => (point, owner)).toList := by
    have stable := filter_mergeSort_key (fun p : RingPoint => p.1.toNat)
      (hashed members replicas) point.toNat
    rw [points_eq, filter_keepLatest (sorted_hashed members replicas), stable, hashed,
      List.filter_flatMap, List.getLast?_flatMap]
    simp only [getLast?_filter_pointsOf]
    rw [findSome?_if, owner?]
  have own : (point, member) ∈ (build members replicas).points ↔
      (point, member) ∈
        (build members replicas).points.filter (·.1.toNat == point.toNat) := by
    simp
  rw [own, latest, Option.mem_toList, Option.map_eq_some_iff]
  simp

/-! ## Distances -/

/-- How far a point lies clockwise from a key. The way leads on from the largest number to
zero. -/
def distance (key point : UInt64) : UInt64 := point - key

private theorem toNat_distance (key point : UInt64) :
    (distance key point).toNat = (2 ^ 64 - key.toNat + point.toNat) % 2 ^ 64 :=
  UInt64.toNat_sub point key

/-- No two points lie equally far from a key. -/
theorem distance_inj {point other : UInt64} (same : distance key point = distance key other) :
    point = other :=
  (UInt64.sub_left_inj key).mp same

/-- The points in clockwise order from a key. -/
def clockwise (r : Ring) (key : UInt64) : List RingPoint :=
  r.points.filter (key ≤ ·.1) ++ r.points.filter (·.1 < key)

theorem mem_clockwise_iff {r : Ring} {p : RingPoint} : p ∈ r.clockwise key ↔ p ∈ r.points := by
  simp only [clockwise, List.mem_append, List.mem_filter, decide_eq_true_iff]
  constructor
  · rintro (⟨there, -⟩ | ⟨there, -⟩)
    · exact there
    · exact there
  · intro there
    rcases UInt64.le_or_lt key p.1 with ahead | behind
    · exact .inl ⟨there, ahead⟩
    · exact .inr ⟨there, behind⟩

/-- A walk comes to the nearer points first. -/
theorem pairwise_clockwise {r : Ring} (ascend : r.points.Pairwise fun p q => p.1.toNat < q.1.toNat)
    (key : UInt64) :
    (r.clockwise key).Pairwise fun p q => distance key p.1 < distance key q.1 := by
  have start := key.toNat_lt
  simp only [UInt64.lt_iff_toNat_lt, toNat_distance]
  rw [clockwise, List.pairwise_append]
  refine ⟨?_, ?_, ?_⟩
  · refine List.Pairwise.imp_of_mem ?_ (ascend.filter _)
    intro p q hp hq less
    have ahead := UInt64.le_iff_toNat_le.mp (of_decide_eq_true (List.mem_filter.mp hp).2)
    have bound := q.1.toNat_lt
    omega
  · refine List.Pairwise.imp_of_mem ?_ (ascend.filter _)
    intro p q hp hq less
    have behind := UInt64.lt_iff_toNat_lt.mp (of_decide_eq_true (List.mem_filter.mp hq).2)
    omega
  · intro p hp q hq
    have ahead := UInt64.le_iff_toNat_le.mp (of_decide_eq_true (List.mem_filter.mp hp).2)
    have behind := UInt64.lt_iff_toNat_lt.mp (of_decide_eq_true (List.mem_filter.mp hq).2)
    have bound := p.1.toNat_lt
    omega

/-! ## The nearest instance -/

/-- The points that belong to one of some ids. -/
def owned (members : List String) (replicas : UInt32) (ids : List String) : List UInt64 :=
  ((hashed members replicas).map (·.1)).filter fun point =>
    (owner? members replicas point).any fun owner => owner ∈ ids

/-- The id among some ids that a key leads to: the owner of the nearest of their points. -/
def nearest? (members : List String) (replicas : UInt32) (key : UInt64) (ids : List String) :
    Option String :=
  (firstLeast? (fun p q => distance key p < distance key q) (owned members replicas ids)).bind
    (owner? members replicas)

/-- An id among some ids owns a point that lies nearer to a key than all others that belong
to one of them. -/
def Nearest (members : List String) (replicas : UInt32) (key : UInt64) (ids : List String)
    (id : String) : Prop :=
  ∃ point, owner? members replicas point = some id ∧ id ∈ ids ∧
    ∀ other owner, owner? members replicas other = some owner → owner ∈ ids →
      distance key point ≤ distance key other

theorem Nearest.listed (nearest : Nearest members replicas key ids id) : id ∈ ids := by
  obtain ⟨_, -, there, -⟩ := nearest
  exact there

theorem Nearest.member (nearest : Nearest members replicas key ids id) : id ∈ members := by
  obtain ⟨_, owns, -, -⟩ := nearest
  exact (mem_of_owner? owns).1

theorem mem_owned_iff {point : UInt64} :
    point ∈ owned members replicas ids ↔
      ∃ owner, owner? members replicas point = some owner ∧ owner ∈ ids := by
  rw [owned, List.mem_filter, Option.any_eq_true]
  constructor
  · rintro ⟨-, owner, owns, there⟩
    exact ⟨owner, owns, of_decide_eq_true there⟩
  · rintro ⟨owner, owns, there⟩
    have hits := mem_hashed_iff.mpr (mem_of_owner? owns)
    exact ⟨List.mem_map_of_mem hits, owner, owns, decide_eq_true there⟩

private theorem le_of_firstLeast? {points : List UInt64} {least point : UInt64}
    (found : firstLeast? (fun p q => distance key p < distance key q) points = some least)
    (there : point ∈ points) : distance key least ≤ distance key point := by
  refine UInt64.not_lt.mp (of_decide_eq_false (not_before_firstLeast? ?_ ?_ found point there))
  · intro p q less
    exact decide_eq_false (UInt64.lt_asymm (of_decide_eq_true less))
  · intro p q r before behind
    have first := UInt64.not_lt.mp (of_decide_eq_false before)
    have second := UInt64.not_lt.mp (of_decide_eq_false behind)
    exact decide_eq_false (UInt64.not_lt.mpr (UInt64.le_trans second first))

theorem nearest?_eq_none_iff :
    nearest? members replicas key ids = none ↔
      ∀ point owner, owner? members replicas point = some owner → owner ∉ ids := by
  constructor
  · intro unowned point owner owns there
    have listed : owned members replicas ids ≠ [] :=
      List.ne_nil_of_mem (mem_owned_iff.mpr ⟨owner, owns, there⟩)
    obtain ⟨least, found⟩ := Option.isSome_iff_exists.mp (firstLeast?_isSome listed)
    obtain ⟨other, owns', -⟩ := mem_owned_iff.mp (firstLeast?_mem found)
    rw [nearest?, found, Option.bind_some, owns'] at unowned
    exact nomatch unowned
  · intro unowned
    have empty : owned members replicas ids = [] := by
      rw [List.eq_nil_iff_forall_not_mem]
      intro point there
      obtain ⟨owner, owns, listed⟩ := mem_owned_iff.mp there
      exact unowned point owner owns listed
    rw [nearest?, empty]
    rfl

/-- The reference finds an id just if it owns the nearest point. -/
theorem nearest?_eq_some_iff {id : String} :
    nearest? members replicas key ids = some id ↔ Nearest members replicas key ids id := by
  constructor
  · intro found
    obtain ⟨point, least, owns⟩ := Option.bind_eq_some_iff.mp found
    obtain ⟨owner, owns', there⟩ := mem_owned_iff.mp (firstLeast?_mem least)
    cases owns.symm.trans owns'
    refine ⟨point, owns, there, ?_⟩
    intro other owner owns there
    exact le_of_firstLeast? least (mem_owned_iff.mpr ⟨owner, owns, there⟩)
  · rintro ⟨point, owns, there, nearest⟩
    have listed : point ∈ owned members replicas ids := mem_owned_iff.mpr ⟨id, owns, there⟩
    obtain ⟨other, least⟩ :=
      Option.isSome_iff_exists.mp (firstLeast?_isSome (List.ne_nil_of_mem listed))
    obtain ⟨owner, owns', there'⟩ := mem_owned_iff.mp (firstLeast?_mem least)
    have same : point = other :=
      distance_inj (UInt64.le_antisymm (nearest other owner owns' there')
        (le_of_firstLeast? least listed))
    rw [nearest?, least, Option.bind_some, ← same, owns]

/-! ## The walk to the nearest instance -/

private theorem id_of_position? {cs : List Candidate} {id : String} {i : Nat}
    (found : Selector.position? cs id = some i) : cs[i]?.map Candidate.id = some id := by
  obtain ⟨⟨c, j⟩, last, rfl⟩ := Option.map_eq_some_iff.mp found
  obtain ⟨listed, own⟩ := List.mem_filter.mp (List.mem_of_getLast? last)
  rw [List.mk_mem_zipIdx_iff_getElem?.mp listed, Option.map_some]
  exact congrArg some (eq_of_beq own)

/-- The walk leads to the owner of the first point that belongs to a candidate. -/
theorem map_firstOnRing? (r : Ring) (key : UInt64) (cs : List Candidate) :
    ((Selector.firstOnRing? r key cs).bind fun i => cs[i]?.map Candidate.id) =
      (r.walk key).find? fun id => id ∈ cs.map Candidate.id := by
  rw [Selector.firstOnRing?]
  induction r.walk key with
  | nil => rfl
  | cons id later ih =>
    rw [List.findSome?_cons, List.find?_cons]
    cases found : Selector.position? cs id with
    | none =>
      have unlisted : id ∉ cs.map Candidate.id := by
        simpa using Selector.position?_eq_none_iff.mp found
      simpa [unlisted] using ih
    | some i =>
      have there := id_of_position? found
      have listed : id ∈ cs.map Candidate.id := by
        obtain ⟨c, hc, rfl⟩ := Option.map_eq_some_iff.mp there
        exact List.mem_map_of_mem (List.mem_of_getElem? hc)
      rw [decide_eq_true listed]
      exact there

/-- The walk on the ring that is built of the members leads to the nearest instance. -/
theorem find?_walk_build (members : List String) (replicas : UInt32) (key : UInt64)
    (ids : List String) :
    ((build members replicas).walk key).find? (fun id => id ∈ ids) =
      nearest? members replicas key ids := by
  rw [walk, ← clockwise, List.find?_map]
  have ascend := pairwise_clockwise (pairwise_points members replicas) key
  cases found : ((build members replicas).clockwise key).find?
      ((fun id => decide (id ∈ ids)) ∘ Prod.snd) with
  | none =>
    symm
    rw [Option.map_none, nearest?_eq_none_iff]
    intro point owner owns there
    have passed := List.find?_eq_none.mp found (point, owner)
      (mem_clockwise_iff.mpr (mem_points_iff.mpr owns))
    exact passed (decide_eq_true there)
  | some p =>
    symm
    obtain ⟨listed, earlier, later, walked, passed⟩ := List.find?_eq_some_iff_append.mp found
    have own := mem_points_iff.mp (mem_clockwise_iff.mp (List.mem_of_find?_eq_some found))
    rw [Option.map_some, nearest?_eq_some_iff]
    refine ⟨p.1, own, of_decide_eq_true listed, ?_⟩
    intro other owner owns there
    have met : (other, owner) ∈ earlier ++ p :: later := by
      rw [← walked]
      exact mem_clockwise_iff.mpr (mem_points_iff.mpr owns)
    rw [walked] at ascend
    rcases List.mem_append.mp met with before | here
    · have skipped := passed _ before
      simp only [Function.comp_apply, decide_eq_true there] at skipped
      cases skipped
    · rcases List.mem_cons.mp here with same | behind
      · rw [← same]
        exact UInt64.le_refl _
      · have further := (List.pairwise_cons.mp (List.pairwise_append.mp ascend).2.1).1 _ behind
        exact UInt64.le_of_lt further

end Ring

end ServiceMesh
