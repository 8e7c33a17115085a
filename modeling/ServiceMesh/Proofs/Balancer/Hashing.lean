import Mathlib.Data.List.Nodup
import ServiceMesh.Proofs.Balancer.Ring

/-!
# Consistent hashing

Whatever a selector was asked before, it leads a client to the instance that is nearest among
the candidates on the ring of the members, and the ring that it keeps is never seen. So it is
enough to compare the owners of points on two rings to know which clients move when
candidates or members come and go: those of an instance that goes, and some of each other
instance to one that comes.
-/

namespace ServiceMesh

namespace Ring

variable {members others fewer more : List String} {replicas : UInt32} {key point : UInt64}
  {ids ids' : List String} {id other : String}

/-! ## Owners on two rings -/

/-- No two of the points that members hash to are equal. -/
def Distinct (members : List String) (replicas : UInt32) : Prop :=
  ((hashed members replicas).map (·.1)).Nodup

instance (members : List String) (replicas : UInt32) : Decidable (Distinct members replicas) :=
  inferInstanceAs (Decidable (List.Nodup _))

/-- With distinct points each point belongs to whoever hits it. -/
theorem Distinct.owner?_eq_some_iff (distinct : Distinct members replicas) :
    owner? members replicas point = some id ↔ id ∈ members ∧ Hits replicas point id := by
  refine ⟨mem_of_owner?, ?_⟩
  rintro ⟨there, hits⟩
  obtain ⟨owner, owns⟩ := owner?_of_hits there hits
  have same := List.inj_on_of_nodup_map distinct (mem_hashed_iff.mpr (mem_of_owner? owns))
    (mem_hashed_iff.mpr ⟨there, hits⟩) rfl
  rw [owns, (Prod.mk.inj same).2]

theorem Distinct.of_subset (distinct : Distinct more replicas) (part : fewer ⊆ more)
    (there : id ∈ fewer) (owns : owner? more replicas point = some id) :
    owner? fewer replicas point = some id := by
  have hits := (mem_of_owner? owns).2
  obtain ⟨owner, owns'⟩ := owner?_of_hits there hits
  obtain ⟨listed, hits'⟩ := mem_of_owner? owns'
  have same := owns.symm.trans (distinct.owner?_eq_some_iff.mpr ⟨part listed, hits'⟩)
  rw [owns', same]

/-- The first of some elements remains the first of fewer of them. -/
theorem find?_of_sublist {α : Type} {xs ys : List α} {p : α → Bool} {x : α}
    (part : xs.Sublist ys) (nodup : ys.Nodup) (found : ys.find? p = some x) (there : x ∈ xs) :
    xs.find? p = some x := by
  have meets := List.find?_some found
  induction part with
  | slnil => exact found
  | cons y part ih =>
    obtain ⟨new, nodup⟩ := List.nodup_cons.mp nodup
    have differ : p y = false := by
      cases first : p y with
      | false => rfl
      | true =>
        rw [List.find?_cons_of_pos first] at found
        cases found
        exact absurd (part.subset there) new
    rw [List.find?_cons_of_neg (by simp [differ])] at found
    exact ih nodup found there
  | cons_cons y part ih =>
    cases first : p y with
    | true =>
      rw [List.find?_cons_of_pos first] at found ⊢
      exact found
    | false =>
      rw [List.find?_cons_of_neg (by simp [first])] at found ⊢
      refine ih (List.nodup_cons.mp nodup).2 found ?_
      refine (List.mem_cons.mp there).resolve_left ?_
      rintro rfl
      exact nomatch first.symm.trans meets

private theorem owner?_of_sublist (part : fewer.Sublist more) (nodup : more.Nodup)
    (there : id ∈ fewer)
    (owns : owner? more replicas point = some id) : owner? fewer replicas point = some id :=
  find?_of_sublist part.reverse (List.nodup_reverse.mpr nodup) owns (List.mem_reverse.mpr there)

/-! ## Nearest instances on two rings -/

theorem exists_nearest (owns : owner? members replicas point = some id) (there : id ∈ ids) :
    ∃ other, Nearest members replicas key ids other := by
  cases found : nearest? members replicas key ids with
  | none => exact absurd there (nearest?_eq_none_iff.mp found point id owns)
  | some other => exact ⟨other, nearest?_eq_some_iff.mp found⟩

/-- An id remains the nearest if it keeps its points and no candidate owns a point that
belonged to none. -/
theorem Nearest.stays (nearest : Nearest members replicas key ids id) (there : id ∈ ids')
    (keeps : ∀ point, owner? members replicas point = some id →
      owner? others replicas point = some id)
    (known : ∀ point owner, owner? others replicas point = some owner → owner ∈ ids' →
      ∃ former, owner? members replicas point = some former ∧ former ∈ ids) :
    Nearest others replicas key ids' id := by
  obtain ⟨point, owns, -, least⟩ := nearest
  refine ⟨point, keeps point owns, there, ?_⟩
  intro other owner owns' listed
  obtain ⟨former, owned, offered⟩ := known other owner owns' listed
  exact least other former owned offered

/-- A candidate that is the nearest later was so before, if it owned the same points and the
points of the one that was the nearest still belong to candidates. -/
theorem Nearest.unmoved (nearest : Nearest members replicas key ids id)
    (later : Nearest others replicas key ids' other) (offered : other ∈ ids)
    (owned : ∀ point, owner? others replicas point = some other →
      owner? members replicas point = some other)
    (taken : ∀ point, owner? members replicas point = some id →
      ∃ owner, owner? others replicas point = some owner ∧ owner ∈ ids') : other = id := by
  obtain ⟨point, owns, -, least⟩ := nearest
  obtain ⟨point', owns', -, least'⟩ := later
  obtain ⟨owner, owner_owns, listed⟩ := taken point owns
  have before := least point' other (owned point' owns') offered
  have after := least' point owner owner_owns listed
  cases distance_inj (UInt64.le_antisymm before after)
  exact Option.some.inj ((owned point owns').symm.trans owns)

private theorem nearest?_congr
    (same : ∀ point, owner? members replicas point = owner? others replicas point) :
    nearest? members replicas key ids = nearest? others replicas key ids := by
  apply Option.ext
  intro id
  rw [nearest?_eq_some_iff, nearest?_eq_some_iff, Nearest, Nearest]
  simp only [same]

/-- With distinct points a part of the members that has the nearest leads to it too. -/
theorem Nearest.of_fewer_members (nearest : Nearest members replicas key ids id)
    (distinct : Distinct members replicas) (part : others ⊆ members) (there : id ∈ others)
    (listed : ids' ⊆ ids) (kept : id ∈ ids') : Nearest others replicas key ids' id := by
  refine nearest.stays kept (fun _ owns => distinct.of_subset part there owns) ?_
  intro point owner owns offered
  obtain ⟨member, hits⟩ := mem_of_owner? owns
  exact ⟨owner, distinct.owner?_eq_some_iff.mpr ⟨part member, hits⟩, listed offered⟩

/-- With distinct points more members lead to the nearest or to one that is new. -/
theorem Nearest.of_more_members (nearest : Nearest members replicas key ids id)
    (distinct : Distinct others replicas) (part : members ⊆ others) (listed : ids ⊆ ids') :
    ∃ other, Nearest others replicas key ids' other ∧
      (other = id ∨ other ∉ ids ∨ other ∉ members) := by
  have stays : ∀ point, owner? members replicas point = some id →
      owner? others replicas point = some id := by
    intro point owns
    obtain ⟨member, hits⟩ := mem_of_owner? owns
    exact distinct.owner?_eq_some_iff.mpr ⟨part member, hits⟩
  have ⟨point, owns, there, _⟩ := nearest
  obtain ⟨other, later⟩ := exists_nearest (stays point owns) (listed there)
  refine ⟨other, later, ?_⟩
  by_cases known : other ∈ ids ∧ other ∈ members
  · left
    exact nearest.unmoved later known.1 (fun _ owns => distinct.of_subset part known.2 owns)
      fun point owns => ⟨id, stays point owns, listed there⟩
  · right
    exact not_and_or.mp known

/-- With distinct points a new member leads to the nearest or to itself. -/
theorem Nearest.of_new_member {new : String} (nearest : Nearest members replicas key ids id)
    (distinct : Distinct others replicas) (joined : others.Perm (new :: members))
    (listed : ids ⊆ ids') (bound : ids' ⊆ new :: ids) :
    Nearest others replicas key ids' id ∨ Nearest others replicas key ids' new := by
  have part : members ⊆ others :=
    List.Subset.trans (List.subset_cons_self new members) joined.symm.subset
  obtain ⟨other, later, moved⟩ := nearest.of_more_members distinct part listed
  by_cases own : other = new
  · exact .inr (own ▸ later)
  · have offered : other ∈ ids := (List.mem_cons.mp (bound later.listed)).resolve_left own
    have member : other ∈ members :=
      (List.mem_cons.mp (joined.subset later.member)).resolve_left own
    rcases moved with same | unknown | unknown
    · exact .inl (same ▸ later)
    · exact absurd offered unknown
    · exact absurd member unknown

/-- With distinct points the order of the members does not matter. -/
theorem Distinct.nearest?_perm (distinct : Distinct members replicas) (perm : others.Perm members) :
    nearest? others replicas key ids = nearest? members replicas key ids := by
  apply nearest?_congr
  intro point
  apply Option.ext
  intro id
  rw [distinct.owner?_eq_some_iff]
  constructor
  · intro owns
    obtain ⟨member, hits⟩ := mem_of_owner? owns
    exact ⟨perm.subset member, hits⟩
  · intro own
    exact distinct.of_subset perm.subset (perm.symm.subset own.1)
      (distinct.owner?_eq_some_iff.mpr own)

/-! ## Candidates that stand in for members -/

/-- The members of the ring. Without any the candidates stand in for them. -/
def around (members ids : List String) : List String := if members.isEmpty then ids else members

theorem around_of_ne_nil (members_ne : members ≠ []) (ids : List String) :
    around members ids = members :=
  if_neg (by simpa using members_ne)

/-- Some candidates are fewer than others. Where they stand in for members they keep their
order, unless their points are distinct and the order does not matter. -/
structure Narrows (members : List String) (replicas : UInt32) (fewer more : List String) :
    Prop where
  part : fewer ⊆ more
  stand : members = [] → fewer.Sublist more ∧ more.Nodup ∨ Distinct more replicas

namespace Narrows

/-- Of fewer candidates each still owns its points. -/
theorem keeps (h : Narrows members replicas fewer more) (there : id ∈ fewer)
    (owns : owner? (around members more) replicas point = some id) :
    owner? (around members fewer) replicas point = some id := by
  cases members with
  | nil =>
    rcases h.stand rfl with ⟨ordered, nodup⟩ | distinct
    · exact owner?_of_sublist ordered nodup there owns
    · exact distinct.of_subset h.part there owns
  | cons => exact owns

/-- No point of one of fewer candidates belonged to none. -/
theorem known (h : Narrows members replicas fewer more) (there : id ∈ fewer)
    (owns : owner? (around members fewer) replicas point = some id) :
    ∃ former, owner? (around members more) replicas point = some former ∧ former ∈ more := by
  cases members with
  | nil =>
    obtain ⟨former, owned⟩ := owner?_of_hits (h.part there) (mem_of_owner? owns).2
    exact ⟨former, owned, (mem_of_owner? owned).1⟩
  | cons => exact ⟨id, owns, h.part there⟩

/-- The nearest of some candidates is the nearest of fewer. -/
theorem nearest (h : Narrows members replicas fewer more) (there : id ∈ fewer)
    (before : Nearest (around members more) replicas key more id) :
    Nearest (around members fewer) replicas key fewer id :=
  before.stays there (fun _ => h.keeps there) fun _ _ owns listed => h.known listed owns

/-- The nearest of some candidates is the nearest of more, unless that is a new one. -/
theorem exists_nearest (h : Narrows members replicas fewer more)
    (before : Nearest (around members fewer) replicas key fewer id) :
    ∃ other, Nearest (around members more) replicas key more other ∧
      (other = id ∨ other ∉ fewer) := by
  have ⟨point, owns, there, _⟩ := before
  obtain ⟨former, owned, listed⟩ := h.known there owns
  obtain ⟨other, later⟩ := Ring.exists_nearest owned listed
  refine ⟨other, later, ?_⟩
  by_cases offered : other ∈ fewer
  · exact .inl (before.unmoved later offered (fun _ => h.keeps offered) fun _ => h.known there)
  · exact .inr offered

end Narrows

end Ring

namespace Selector

open ServiceMesh.Ring

/-! ## Choices of ids -/

/-- The point where a request starts on the ring. -/
def start (client : Option String) (draw : UInt64) : UInt64 :=
  match client with
  | some client => hashText client
  | none => draw

/-- The id of the candidate that is chosen. -/
def chosenId? (s : Selector) (cs : List Candidate) (request : Request) (draw : UInt64) :
    Option String :=
  (s.choose cs request draw).1.bind fun i => cs[i]?.map Candidate.id

/-- Consistent hashing chooses the nearest candidate, whichever ring is kept. -/
theorem Suits.chosenId?_eq {s : Selector} {c : BalancerConfig} (h : s.Suits c)
    (hashing : c.algorithm = .consistentHash) (cs : List Candidate) (request : Request)
    (draw : UInt64) :
    s.chosenId? cs request draw =
      nearest? (around request.members (cs.map Candidate.id)) c.hashReplicas
        (start request.client draw) (cs.map Candidate.id) := by
  cases s with
  | consistentHash replicas ring =>
    obtain ⟨rfl, built⟩ := h.ring replicas ring rfl
    cases cs with
    | nil =>
      symm
      exact nearest?_eq_none_iff.mpr fun _ _ _ => List.not_mem_nil
    | cons c rest =>
      rw [← find?_walk_build, ← map_firstOnRing?, ← ringFor_eq _ built]
      rfl
  | _ => exact absurd (h.algorithm.trans hashing) nofun

/-- A call of a selector. -/
structure Ask where
  candidates : List Candidate
  request : Request
  draw : UInt64

/-- Consistent hashing after some calls. -/
def hashing (replicas : UInt32) (earlier : List Ask) : Selector :=
  earlier.foldl (fun s a => (s.choose a.candidates a.request a.draw).2)
    (.consistentHash replicas {})

/-- No calls lead a selector away from its settings. -/
theorem Suits.asked {config : BalancerConfig} {s : Selector} (suits : s.Suits config)
    (earlier : List Ask) :
    (earlier.foldl (fun s a => (s.choose a.candidates a.request a.draw).2) s).Suits config := by
  induction earlier generalizing s with
  | nil => exact suits
  | cons a rest ih => exact ih (suits.choose a.candidates a.request a.draw)

theorem suits_hashing (replicas : UInt32) (earlier : List Ask) :
    (hashing replicas earlier).Suits
      { algorithm := .consistentHash, hashReplicas := replicas } :=
  (suits_ofConfig { algorithm := .consistentHash, hashReplicas := replicas }).asked earlier

/-- The id that a client is led to, after some calls. -/
def leads? (replicas : UInt32) (earlier : List Ask) (members : List String) (client : String)
    (cs : List Candidate) (draw : UInt64) : Option String :=
  (hashing replicas earlier).chosenId? cs { client := some client, members } draw

theorem leads?_eq (replicas : UInt32) (earlier : List Ask) (members : List String)
    (client : String) (cs : List Candidate) (draw : UInt64) :
    leads? replicas earlier members client cs draw =
      nearest? (around members (cs.map Candidate.id)) replicas (hashText client)
        (cs.map Candidate.id) :=
  (suits_hashing replicas earlier).chosenId?_eq rfl cs _ draw

theorem leads?_eq_some_iff {replicas : UInt32} {earlier : List Ask} {members : List String}
    {client : String} {cs : List Candidate} {draw : UInt64} {id : String} :
    leads? replicas earlier members client cs draw = some id ↔
      Nearest (around members (cs.map Candidate.id)) replicas (hashText client)
        (cs.map Candidate.id) id := by
  rw [leads?_eq, nearest?_eq_some_iff]

theorem leads?_eq_some_iff_of_members {replicas : UInt32} {earlier : List Ask}
    {members : List String} {client : String} {cs : List Candidate} {draw : UInt64} {id : String}
    (populated : members ≠ []) :
    leads? replicas earlier members client cs draw = .some id ↔
      Nearest members replicas (hashText client) (cs.map Candidate.id) id := by
  rw [leads?_eq_some_iff, around_of_ne_nil populated]

/-! ## Clients that move -/

/-- Few clients move. Whatever was asked before each call, with distinct points the order of
the members does not matter. A client that is led to an instance is led there among fewer
candidates too, and among more it is led there or to one of the new ones. With distinct
points it is also led there without another member, and with a new member, of members there
were, it is led there or to the new one. -/
theorem few_clients_move (replicas : UInt32) (before after : List Ask) (members : List String)
    (client : String) (offered : List Candidate) (draw draw' : UInt64) :
    let ids := fun cs : List Candidate => cs.map Candidate.id
    let now := leads? replicas before members client offered draw
    let later := fun members cs => leads? replicas after members client cs draw'
    (∀ reordered : List String, reordered.Perm members → Distinct members replicas →
      later reordered offered = now) ∧
    ∀ id, now = some id →
      (∀ fewer, Narrows members replicas (ids fewer) (ids offered) → id ∈ ids fewer →
        later members fewer = some id) ∧
      (∀ more, Narrows members replicas (ids offered) (ids more) →
        ∃ other ∈ ids more, later members more = some other ∧
          (other = id ∨ other ∉ ids offered)) ∧
      (∀ gone ∈ members, gone ≠ id → Distinct members replicas →
        ∀ fewer, ids fewer ⊆ ids offered → id ∈ ids fewer →
          later (members.filter (· ≠ gone)) fewer = some id) ∧
      (members ≠ [] → ∀ new, ∀ joined : List String, joined.Perm (new :: members) →
        Distinct joined replicas → ∀ more, ids offered ⊆ ids more → ids more ⊆ new :: ids offered →
          later joined more = some id ∨ later joined more = some new) := by
  intro ids now later
  refine ⟨?_, fun id led => ?_⟩
  · intro reordered perm distinct
    change leads? _ _ _ _ _ _ = leads? _ _ _ _ _ _
    rw [leads?_eq, leads?_eq]
    by_cases empty : members = []
    · subst empty
      rw [List.perm_nil.mp perm]
    · have unempty : reordered ≠ [] := fun nothing => empty (List.nil_perm.mp (nothing ▸ perm))
      rw [around_of_ne_nil empty, around_of_ne_nil unempty]
      exact distinct.nearest?_perm perm
  · have nearest := leads?_eq_some_iff.mp led
    refine ⟨?_, ?_, ?_, ?_⟩
    · intro fewer narrows kept
      exact leads?_eq_some_iff.mpr (narrows.nearest kept nearest)
    · intro more narrows
      obtain ⟨other, later, moved⟩ := narrows.exists_nearest nearest
      exact ⟨other, later.listed, leads?_eq_some_iff.mpr later, moved⟩
    · intro gone there differ distinct fewer part kept
      rw [around_of_ne_nil (List.ne_nil_of_mem there)] at nearest
      have left : id ∈ members.filter (· ≠ gone) :=
        List.mem_filter.mpr ⟨nearest.member, decide_eq_true differ.symm⟩
      refine (leads?_eq_some_iff_of_members (List.ne_nil_of_mem left)).mpr ?_
      exact nearest.of_fewer_members distinct List.filter_sublist.subset left part kept
    · intro unempty new joined perm distinct more part bound
      rw [around_of_ne_nil unempty] at nearest
      have populated : joined ≠ [] := List.ne_nil_of_mem (perm.symm.subset List.mem_cons_self)
      exact (nearest.of_new_member distinct perm part bound).imp
        (leads?_eq_some_iff_of_members populated).mpr (leads?_eq_some_iff_of_members populated).mpr

/-- A candidate with an id and nothing that tells it from others. -/
def plain (id : String) : Candidate :=
  { record := { serviceName := "svc", id, endpoint := "127.0.0.1", port := 8080 } }

/-- A client of three instances stays where it is while they are reordered, while another is
unfit and while another is gone, and a fourth instance may take it over. -/
theorem few_clients_move_of_three :
    let three := ["a", "b", "c"].map plain
    leads? 2 [] ["a", "b", "c"] "client-1" three 0 = some "b" ∧
    leads? 2 [] ["c", "b", "a"] "client-1" three 1 = some "b" ∧
    leads? 2 [] ["a", "b", "c"] "client-1" (["b", "c"].map plain) 1 = some "b" ∧
    leads? 2 [] ["b", "c"] "client-1" (["b", "c"].map plain) 1 = some "b" ∧
    (leads? 2 [] ["d", "a", "b", "c"] "client-1" (["a", "b", "c", "d"].map plain) 1 = some "b" ∨
      leads? 2 [] ["d", "a", "b", "c"] "client-1" (["a", "b", "c", "d"].map plain) 1 =
        some "d") := by
  intro three
  have led : leads? 2 [] ["a", "b", "c"] "client-1" three 0 = some "b" := by
    rw [leads?_eq]
    decide +kernel
  have distinct : Distinct ["a", "b", "c"] 2 := by decide +kernel
  obtain ⟨reorder, moves⟩ :=
    few_clients_move 2 [] [] ["a", "b", "c"] "client-1" three 0 1
  obtain ⟨narrow, -, leave, join⟩ := moves "b" led
  refine ⟨led, ?_, ?_, ?_, ?_⟩
  · exact (reorder ["c", "b", "a"] (by decide) distinct).trans led
  · exact narrow (["b", "c"].map plain) ⟨by decide, nofun⟩ (by decide)
  · exact leave "a" (by decide) (by decide) distinct (["b", "c"].map plain) (by decide) (by decide)
  · exact join (by decide) "d" ["d", "a", "b", "c"] (List.Perm.refl _) (by decide +kernel)
      (["a", "b", "c", "d"].map plain) (by decide) (by decide)

/-- Where candidates stand in for members, a client moves between them when they are reordered
and two of their points are equal, and away from them when the first member comes. -/
theorem stand_ins_move :
    let x := plain "8yn0iYCKYHlIj4-BwPqk"
    let y := plain "GReLUrM4wMqfg9yzV3KQ"
    (leads? 1 [] [] "c" [x, y] 0 = some y.id ∧ [y, x].Perm [x, y] ∧
      leads? 1 [] [] "c" [y, x] 0 = some x.id) ∧
    (leads? 1 [] [] "c" [x] 0 = some x.id ∧ Distinct ["n"] 1 ∧
      leads? 1 [] ["n"] "c" [x] 0 = none) := by
  simp only [leads?_eq]
  refine ⟨⟨?_, List.Perm.swap .., ?_⟩, ?_, ?_, ?_⟩
  all_goals decide +kernel

end Selector

end ServiceMesh
