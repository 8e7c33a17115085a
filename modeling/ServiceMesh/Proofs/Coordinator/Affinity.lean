import ServiceMesh.Proofs.Balancer.Hashing
import ServiceMesh.Proofs.Coordinator.Lifetime

/-!
# Affinity of clients

With consistent hashing a client is led to the instance that is nearest on the ring of the
members, of those that may be selected. Nothing else has a part in it: not what was selected
before, not the ring that a selector keeps, not the loads, the records or the drawn number. So
a client keeps its instance for as long as the members and the candidates of the name and the
number of points remain.
-/

namespace ServiceMesh

open ServiceMesh.Ring

namespace Selector

variable {s : Selector} {c : BalancerConfig} {cs : List Candidate} {request : Request}
  {draw : UInt64} {i : Nat}

theorem lt_of_choose (hashing : s.algorithm = .consistentHash)
    (chosen : (s.choose cs request draw).1 = some i) : i < cs.length := by
  cases s with
  | consistentHash replicas ring =>
    simp only [choose] at chosen
    split at chosen
    · cases chosen
    · exact firstOnRing?_lt chosen
  | _ => cases hashing

/-- The position of the nearest candidate is chosen. -/
theorem Suits.choose_eq_some_iff (h : s.Suits c) (hashing : c.algorithm = .consistentHash)
    (distinct : (cs.map Candidate.id).Nodup) :
    (s.choose cs request draw).1 = some i ↔
      ∃ x, cs[i]? = some x ∧
        nearest? (around request.members (cs.map Candidate.id)) c.hashReplicas
          (start request.client draw) (cs.map Candidate.id) = some x.id := by
  rw [← h.chosenId?_eq hashing, chosenId?]
  constructor
  · intro chosen
    have inside := lt_of_choose (h.algorithm.trans hashing) chosen
    refine ⟨cs[i], List.getElem?_eq_getElem inside, ?_⟩
    rw [chosen, Option.bind_some, List.getElem?_eq_getElem inside, Option.map_some]
  · rintro ⟨x, here, led⟩
    obtain ⟨j, chosen, same⟩ := Option.bind_eq_some_iff.mp led
    have inside : i < (cs.map Candidate.id).length := by
      rw [List.length_map]
      exact (List.getElem?_eq_some_iff.mp here).1
    have equal : (cs.map Candidate.id)[i]? = (cs.map Candidate.id)[j]? := by
      rw [List.getElem?_map, List.getElem?_map, here, same, Option.map_some]
    rw [chosen, (List.getElem?_inj inside distinct).mp equal]

/-- No position is chosen if no candidate owns a point. -/
theorem Suits.choose_eq_none_iff (h : s.Suits c) (hashing : c.algorithm = .consistentHash) :
    (s.choose cs request draw).1 = none ↔
      ∀ point owner, owner? (around request.members (cs.map Candidate.id)) c.hashReplicas point =
        some owner → owner ∉ cs.map Candidate.id := by
  rw [← nearest?_eq_none_iff, ← h.chosenId?_eq hashing, chosenId?]
  constructor
  · intro unanswered
    rw [unanswered, Option.bind_none]
  · intro unled
    cases chosen : (s.choose cs request draw).1 with
    | none => rfl
    | some i =>
      have inside := lt_of_choose (h.algorithm.trans hashing) chosen
      rw [chosen, Option.bind_some, List.getElem?_eq_getElem inside] at unled
      cases unled

end Selector

namespace Balancer

variable {b : Balancer} {name : String} {candidates : List Record} {request : Request}
  {draw : UInt64} {id : String}

/-- A choice gives out the record of the nearest candidate. -/
theorem choose_nearest (h : b.Coherent) (hashing : b.config.algorithm = .consistentHash) :
    (∃ r, (b.choose name candidates request draw).1 = .ok r ∧ r.id = id) ↔
      nearest? (around request.members (candidates.map Record.id)) b.config.hashReplicas
        (Selector.start request.client draw) (candidates.map Record.id) = some id := by
  obtain ⟨-, -, suits⟩ := h.group name
  have ids : (b.offered candidates).map Candidate.id = candidates.map Record.id := by
    rw [offered, List.map_map]
    rfl
  have led : ((b.consult name candidates request draw).1.bind (candidates[·]?)).map Record.id =
      nearest? (around request.members (candidates.map Record.id)) b.config.hashReplicas
        (Selector.start request.client draw) (candidates.map Record.id) := by
    rw [← ids, ← suits.chosenId?_eq hashing, Selector.chosenId?, consult, Option.map_bind]
    congr 1
    funext i
    rw [Function.comp_apply, offered, List.getElem?_map, Option.map_map]
    rfl
  rw [← led]
  cases chosen : (b.consult name candidates request draw).1.bind (candidates[·]?) with
  | none =>
    rw [choose_of_none chosen]
    simp
  | some r =>
    rw [choose_of_some chosen]
    simp

end Balancer

namespace Coordinator

variable {c : Coordinator} {name : String} {client : Option String} {draw : UInt64} {id : String}

/-- The point where a selection starts on the ring. An empty key is no key. -/
def startOf (client : Option String) (draw : UInt64) : UInt64 :=
  Selector.start (client.filter (· ≠ "")) draw

/-- The ids of the members of a name, in the order of registration. -/
def memberIds (c : Coordinator) (name : String) : List String :=
  (c.mesh.store.members name).map Record.id

/-- The ids of the candidates of a name. -/
def candidateIds (c : Coordinator) (name : String) : List String :=
  (c.candidates name).map Record.id

theorem written_of_member (attached : c.mesh.Attached) {r : Record}
    (member : r ∈ c.mesh.store.members name) : Text.isBlank name = false := by
  obtain ⟨found, rfl⟩ := (mem_members_iff attached).mp member
  obtain ⟨l, represents⟩ := attached.store
  exact (represents.written (represents.mem_iff.mp found)).1

/-- A selection gives out the nearest candidate on the ring of the members. -/
theorem select_nearest (coherent : c.mesh.balancer.Coherent) (attached : c.mesh.Attached)
    (hashing : c.mesh.balancer.config.algorithm = .consistentHash) :
    (∃ r, (c.select name client draw).1 = .ok r ∧ r.id = id) ↔
      nearest? (c.memberIds name) c.mesh.balancer.config.hashReplicas (startOf client draw)
        (c.candidateIds name) = some id := by
  have fits : (Balancer.fit c.mesh.balancer.config.breakerEnabled c.timeline.moment
      (c.mesh.store.members name) c.mesh.bank).1 = c.candidates name := Balancer.fit_eq _ _ _ _
  by_cases empty : c.candidates name = []
  · have unled : nearest? (c.memberIds name) c.mesh.balancer.config.hashReplicas
        (startOf client draw) (c.candidateIds name) = .none := by
      rw [candidateIds, empty, nearest?_eq_none_iff]
      exact fun _ _ _ => List.not_mem_nil
    rw [unled]
    constructor
    · rintro ⟨r, chosen, -⟩
      have candidate := Selects.candidate (chosen ▸ selects_of_coherent coherent name client draw)
      rw [empty] at candidate
      cases candidate
    · exact nofun
  · obtain ⟨r, rest, cons⟩ := List.exists_cons_of_ne_nil empty
    have member : r ∈ c.mesh.store.members name :=
      List.mem_of_mem_filter (cons ▸ List.mem_cons_self : r ∈ c.candidates name)
    have written := written_of_member attached member
    have members : (Balancer.requestFor client (c.mesh.store.members name)).members ≠ [] :=
      List.ne_nil_of_mem (List.mem_map_of_mem member)
    change (∃ r, (c.mesh.balancer.select c.mesh.store c.mesh.bank c.timeline.moment name client
      draw).1 = .ok r ∧ r.id = id) ↔ _
    rw [Balancer.select_of_fit written (fits ▸ empty), fits,
      Balancer.choose_nearest coherent hashing, around_of_ne_nil members]
    rfl

/-- A key that is not empty decides alone where a selection starts. -/
theorem startOf_some {key : String} (written : key ≠ "") (draw : UInt64) :
    startOf (some key) draw = hashText key := by
  have kept : (some key).filter (· ≠ "") = some key := by simp [written]
  rw [startOf, kept, Selector.start]

/-- Consistent hashing is a function of the members, the candidates and the client. Whatever a
selector was asked before, it chooses the owner of the nearest point on a ring built anew of
the members, of the candidates if there are no members, and none just if no candidate owns a
point. So a client of a node keeps its instance through whatever happens, as long as the
members and the candidates of the name and the number of points are the same. -/
theorem clients_keep_instances :
    (∀ (replicas : UInt32) (earlier : List Selector.Ask) (cs : List Candidate)
        (members : List String) (client : String) (draw : UInt64),
      (cs.map Candidate.id).Nodup →
      let ids := cs.map Candidate.id
      let chosen :=
        ((Selector.hashing replicas earlier).choose cs { client := some client, members } draw).1
      let nearest := nearest? (around members ids) replicas (hashText client) ids
      (∀ i, chosen = some i ↔ ∃ x, cs[i]? = some x ∧ nearest = some x.id) ∧
      (∀ id, nearest = some id ↔ Nearest (around members ids) replicas (hashText client) ids id) ∧
      (chosen = none ↔
        ∀ point owner, owner? (around members ids) replicas point = some owner → owner ∉ ids)) ∧
    (∀ (config : Config) (before between : List Happening) (name : String),
      let c := (fresh config).lived before
      let d := c.lived between
      c.mesh.balancer.config.algorithm = .consistentHash →
      d.mesh.balancer.config.algorithm = .consistentHash →
      d.mesh.balancer.config.hashReplicas = c.mesh.balancer.config.hashReplicas →
      d.memberIds name = c.memberIds name → d.candidateIds name = c.candidateIds name →
      ∀ client draw client' draw', startOf client' draw' = startOf client draw →
        ∀ id, (∃ r, (d.select name client' draw').1 = .ok r ∧ r.id = id) ↔
          ∃ r, (c.select name client draw).1 = .ok r ∧ r.id = id) ∧
    ∀ client draw, client ≠ "" → startOf (some client) draw = hashText client := by
  refine ⟨?_, ?_, fun client draw written => startOf_some written draw⟩
  · intro replicas earlier cs members client draw distinct ids chosen nearest
    have suits := Selector.suits_hashing replicas earlier
    exact ⟨fun i => suits.choose_eq_some_iff rfl distinct, fun id => nearest?_eq_some_iff,
      suits.choose_eq_none_iff rfl⟩
  · intro config before between name c d hashing hashing' replicas members candidates client draw
      client' draw' start id
    have attached : c.mesh.Attached := attached_lived config before
    have coherent : c.mesh.balancer.Coherent := coherent_lived config before
    have attached' : d.mesh.Attached := attached_of_lived attached between
    have coherent' : d.mesh.balancer.Coherent := by
      have life := coherent_lived config (before ++ between)
      rwa [lived_append] at life
    rw [select_nearest coherent' attached' hashing', select_nearest coherent attached hashing,
      members, candidates, replicas, start]

/-- A configuration with consistent hashing and two points for each member. -/
def ringed : Config := { loadBalancer := { algorithm := .consistentHash, hashReplicas := 2 } }

/-- After another client asked on a smaller ring, a client is led where it would be led at
first. A node leads it there too, before and after a failure and the end of another name. -/
theorem clients_keep_instances_of_two :
    let cs := ["a", "b"].map Selector.plain
    let asked : Selector.Ask :=
      { candidates := cs, request := { client := some "client-2", members := ["b"] }, draw := 7 }
    let other : Record :=
      { serviceName := "other", id := "c", endpoint := "127.0.0.1", port := 8080 }
    let registrations := (other :: cs.map Candidate.record).map fun r =>
      Happening.act (.call (.register r))
    let between : List Happening := [.act (.call (.report "a" (.ofMillis 5) false)), .elapse 1,
      .act (.call (.unregister "c"))]
    let c := (fresh ringed).lived registrations
    let d := c.lived between
    ((Selector.hashing 2 [asked]).choose cs
      { client := some "client-1", members := ["a", "b"] } 0).1 = some 1 ∧
    (∃ r, (c.select "svc" (some "client-1") 0).1 = .ok r ∧ r.id = "b") ∧
    ∃ r, (d.select "svc" (some "client-1") 1).1 = .ok r ∧ r.id = "b" := by
  intro cs asked other registrations between c d
  obtain ⟨pure, keeps, starts⟩ := clients_keep_instances
  have hashing : c.mesh.balancer.config.algorithm = .consistentHash := by decide +kernel
  have first : ∃ r, (c.select "svc" (some "client-1") 0).1 = .ok r ∧ r.id = "b" :=
    (select_nearest (coherent_lived ringed _) (attached_lived ringed _) hashing).mpr
      (by decide +kernel)
  refine ⟨?_, first, ?_⟩
  · refine ((pure 2 [asked] cs ["a", "b"] "client-1" 0 (by decide)).1 1).mpr ⟨_, rfl, ?_⟩
    decide +kernel
  · have kept := keeps ringed registrations between "svc" hashing (by decide +kernel)
      (by decide +kernel) (by decide +kernel) (by decide +kernel)
    refine (kept (some "client-1") 0 (some "client-1") 1 ?_ "b").mpr first
    rw [starts _ _ (by decide), starts _ _ (by decide)]

end Coordinator

end ServiceMesh
