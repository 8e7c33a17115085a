import Mathlib.Data.List.Infix
import ServiceMesh.Proofs.Balancer.Lockstep
import ServiceMesh.Proofs.Coordinator.Loads

/-!
# Names in lockstep

A name that nobody has selected from begins with a new selector, and instances that were registered
and not reported on begin with equal loads and closed breakers. While only selections happen to
them, four of the algorithms go around them in the order of their registrations, all alike.
-/

namespace ServiceMesh

/-! ## Selectors -/

namespace Balancer

variable {b next : Balancer} {name asked : String}

/-- Selections of another name leave a group alone. -/
theorem group_select_ne (b : Balancer) (store : Store) (bank : Bank) (now : Moment)
    (client : Option String) (draw : UInt64) (differ : asked ≠ name) :
    (b.select store bank now asked client draw).2.1.group name = b.group name := by
  rcases (b.select_leaves store bank now asked client draw).1 with
    ⟨-, -, same⟩ | ⟨-, reason, -, failed⟩ | ⟨candidates, request, -, chosen⟩
  · rw [same]
  · rw [failed]
    rfl
  · rw [chosen]
    cases found : (b.consult asked candidates request draw).1.bind (candidates[·]?) with
    | none =>
      rw [choose_of_none found]
      unfold group
      rw [Table.getElem?_insert_ne _ differ]
    | some r =>
      rw [choose_of_some found]
      unfold group
      rw [Table.getElem?_insert_ne _ differ]

/-- A report leaves the selectors alone. -/
theorem selector_reported (b : Balancer) (service id : String) (time : Duration) (success : Bool)
    (name : String) :
    ((b.reported service id time success).group name).selector = (b.group name).selector := by
  unfold reported group
  by_cases own : service = name
  · rw [own, Table.getElem?_update_self]
    cases b.groups[name]? with
    | none => rfl
    | some g =>
      rw [Option.map_some]
      simp only
      split <;> rfl
  · rw [Table.getElem?_update_ne _ own]

/-- The loads of candidates as they are offered, by their places. -/
theorem map_load_offered_eq_iff {b : Balancer} {rs : List Record} {f : Nat → Load} :
    (b.offered rs).map Candidate.load = (List.range (b.offered rs).length).map f ↔
      ∀ i id, (rs.map Record.id)[i]? = some id → b.load id = f i := by
  have offered : (b.offered rs).map Candidate.load = (rs.map Record.id).map b.load := by
    rw [Balancer.offered, List.map_map, List.map_map]
    rfl
  have length : (b.offered rs).length = (rs.map Record.id).length := by
    rw [Balancer.offered, List.length_map, List.length_map]
  rw [offered, length]
  generalize rs.map Record.id = ids
  constructor
  · intro loads i id listed
    have here := congrArg (·[i]?) loads
    simp only [List.getElem?_map, listed] at here
    rw [List.getElem?_range (List.getElem?_eq_some_iff.mp listed).1] at here
    exact Option.some.inj here
  · intro each
    refine List.ext_getElem? fun i => ?_
    rw [List.getElem?_map, List.getElem?_map]
    by_cases inside : i < ids.length
    · rw [List.getElem?_eq_getElem inside, List.getElem?_range inside]
      exact congrArg some (each i _ (List.getElem?_eq_getElem inside))
    · simp [inside]

end Balancer

namespace Coordinator

variable {c next : Coordinator} {name : String} {a : Algorithm} {n : Nat}

/-- A selector that a name has kept without any pick has a ring. -/
theorem hashing_of_unpicked (attached : c.mesh.Attached) (coherent : c.mesh.balancer.Coherent)
    {life : List Happening} (unpicked : c.picks name life = [])
    (start : ∀ s, c.selectorOf? name = some s → s.algorithm = .consistentHash) :
    ∀ s, (c.lived life).selectorOf? name = some s → s.algorithm = .consistentHash := by
  induction life generalizing c with
  | nil => exact start
  | cons h rest ih =>
    obtain ⟨now, later⟩ := List.append_eq_nil_iff.mp unpicked
    refine ih (attached_happen attached h) (coherent_happen attached coherent h) later ?_
    rcases selectorOf?_happen attached coherent name h with
      ⟨-, same⟩ | ⟨client, draw, rfl, reached, left⟩
    · rw [same]
      exact start
    · intro s kept
      rw [left] at kept
      cases kept
      -- A selector without a ring would have answered.
      have algorithm := Desk.algorithm_serve
        (c.mesh.balancer.desk name (c.mesh.balancer.candidates (c.selecting name client draw)))
        (c.selecting name client draw).demand
      by_contra ringless
      change (c.mesh.balancer.asked (c.selecting name client draw)).2.algorithm = _ at algorithm
      rw [algorithm] at ringless
      have offers : c.mesh.balancer.offered
          (c.mesh.balancer.candidates (c.selecting name client draw)) ≠ [] := by
        simpa [Balancer.offered] using Balancer.candidates_ne_nil reached
      obtain ⟨i, inside, chosen⟩ := Selector.choose_in_range ringless offers
        (c.selecting name client draw).demand.request draw
      change (c.mesh.balancer.asked (c.selecting name client draw)).1 = _ at chosen
      rw [Balancer.offered, List.length_map, candidates_selecting] at inside
      rw [pick?_of_reaches coherent reached, chosen, Option.bind_some,
        List.getElem?_eq_getElem inside] at now
      cases now

/-- A name that nobody has selected from begins with a new selector, unless it is to have a
ring. -/
theorem selector_of_unpicked (config : Config) {life : List Happening}
    (unpicked : (fresh config).picks name life = [])
    (ringless : ((fresh config).lived life).mesh.balancer.config.algorithm ≠ .consistentHash) :
    (((fresh config).lived life).mesh.balancer.group name).selector =
      .ofConfig ((fresh config).lived life).mesh.balancer.config := by
  refine (Balancer.selector_group _ name).resolve_left fun kept => ringless ?_
  have hashing := hashing_of_unpicked (attached_fresh config) (coherent_lived config []) unpicked
    nofun _ kept
  rw [← ((coherent_lived config life).group name).2.2.algorithm, hashing]

/-- The configuration in force asks for the selectors that another one asks for. -/
def SelectsBy (c : Coordinator) (config : BalancerConfig) : Prop :=
  Selector.outdated config c.mesh.balancer.config = false

instance (c : Coordinator) (config : BalancerConfig) : Decidable (c.SelectsBy config) :=
  inferInstanceAs (Decidable (_ = false))

theorem selector_call (coherent : c.mesh.balancer.Coherent) {op : Operation} {answer : Answer}
    (made : Call c op answer next) (unchanged : next.SelectsBy c.mesh.balancer.config)
    (other : ∀ client draw, op ≠ .select name client draw) :
    (next.mesh.balancer.group name).selector = (c.mesh.balancer.group name).selector ∨
      (c.mesh.balancer.group name).selector = .ofConfig c.mesh.balancer.config ∧
        (next.mesh.balancer.group name).selector = .ofConfig next.mesh.balancer.config := by
  cases made with
  | register r =>
    left
    obtain ⟨loads, tracked⟩ := c.mesh.balancer.track_eq r.id
    change ((c.mesh.balancer.track r.id).group name).selector = _
    rw [tracked]
    rfl
  | select asked client draw =>
    left
    have differ : asked ≠ name := by
      rintro rfl
      exact other client draw rfl
    exact congrArg Group.selector (c.mesh.balancer.group_select_ne _ _ _ client draw differ)
  | @report id r time success =>
    exact .inl (c.mesh.balancer.selector_reported r.serviceName id time success name)
  | configure health balancer =>
    cases balancer with
    | none => exact .inl (by cases health <;> rfl)
    | some new => cases health <;> exact Balancer.selector_renew coherent unchanged name
  | _ => exact .inl rfl

/-- Only selections of a name change its selector, as long as none is to be built anew. -/
theorem selector_happen (attached : c.mesh.Attached) (coherent : c.mesh.balancer.Coherent)
    {h : Happening} (unchanged : (c.happen h).SelectsBy c.mesh.balancer.config)
    (other : ∀ client draw, h ≠ .act (.call (.select name client draw))) :
    ((c.happen h).mesh.balancer.group name).selector = (c.mesh.balancer.group name).selector ∨
      (c.mesh.balancer.group name).selector = .ofConfig c.mesh.balancer.config ∧
        ((c.happen h).mesh.balancer.group name).selector =
          .ofConfig (c.happen h).mesh.balancer.config := by
  rcases happen_cases Mesh.still still_beat attached h with ⟨op, rfl, made⟩ | ⟨-, same⟩
  · apply selector_call coherent made unchanged
    rintro client draw rfl
    exact other client draw rfl
  · rw [(Prod.mk.inj same).1]
    exact .inl rfl

/-- What happens to others leaves the load of a member alone. -/
theorem load?_happen (attached : c.mesh.Attached) (coherent : c.mesh.balancer.Coherent)
    {h : Happening} {id : String} (member : id ∈ c.memberIds name)
    (still : id ∈ (c.happen h).memberIds name) (unreported : h.reportsOn id = false)
    (other : ∀ client draw, h ≠ .act (.call (.select name client draw))) :
    (c.happen h).load? id = c.load? id := by
  have before := isSome_load? attached member
  have after := isSome_load? (attached_happen attached h) still
  have freight := freight id attached h
  generalize (c.happen h).load? id = left at freight after
  cases freight with
  | kept => rfl
  | @given client draw asked r chosen own =>
    have named := name_of_selected attached coherent chosen (own ▸ member)
    exact absurd (by rw [named]) (other client draw)
  | reported => simp [Happening.reportsOn] at unreported
  | dropped => cases after
  | begun own absent =>
    rw [absent] at before
    cases before

/-! ## Lockstep -/

/-- A name has come some steps ahead from the beginning, and its members are fit. -/
structure Stepped (c : Coordinator) (name : String) (a : Algorithm) (n : Nat) : Prop where
  attached : c.mesh.Attached
  coherent : c.mesh.balancer.Coherent
  unbroken : ∀ id ∈ c.memberIds name, c.Unbroken id
  selectable : ∀ r ∈ c.mesh.store.members name, r.status.selectable = true
  weights : ∀ r ∈ c.mesh.store.members name, r.weight = 1
  selector : (c.mesh.balancer.group name).selector.Stepped a n
  loads : a.weighsLoads = true → ∀ i id, (c.memberIds name)[i]? = some id →
    c.load? id = some (.unreported (rounds n (c.memberIds name).length i))

namespace Stepped

theorem algorithm (h : c.Stepped name a n) : c.mesh.balancer.config.algorithm = a := by
  rw [← (h.coherent.group name).2.2.algorithm]
  exact h.selector.algorithm

theorem candidates_eq (h : c.Stepped name a n) :
    c.candidates name = c.mesh.store.members name := by
  refine List.filter_eq_self.mpr fun r member => decide_eq_true ?_
  refine ⟨Status.selectable_iff.mp (h.selectable r member), fun _ x seen => ?_⟩
  obtain ⟨y, found, rfl⟩ := Option.map_eq_some_iff.mp seen
  have closed := h.unbroken r.id (List.mem_map_of_mem member) y found
  rw [Breaker.refresh_of_ne_open (by simp [closed]), closed]
  exact nofun

theorem lends (h : c.Stepped name a n) :
    c.mesh.balancer.Lends (c.mesh.store.members name) where
  coherent := h.coherent
  distinct := by
    rw [← h.candidates_eq]
    exact nodup_candidateIds h.attached name
  tracked r member := isSome_load? h.attached (List.mem_map_of_mem member)

theorem length_desk (c : Coordinator) (name : String) :
    (c.mesh.balancer.desk name (c.mesh.store.members name)).candidates.length =
      (c.memberIds name).length := by
  rw [Balancer.desk, Balancer.offered, List.length_map, memberIds, List.length_map]

theorem desk (h : c.Stepped name a n) :
    (c.mesh.balancer.desk name (c.mesh.store.members name)).Stepped a n where
  selector := h.selector
  shares x offered := by
    obtain ⟨r, member, rfl⟩ := List.mem_map.mp offered
    rw [Candidate.share, h.weights r member]
    rfl
  loads weighs := by
    refine Balancer.map_load_offered_eq_iff.mpr fun i id listed => ?_
    have counted := h.loads weighs i id listed
    rw [load?_eq_some h.attached (List.mem_of_getElem? listed)] at counted
    rw [Option.some.inj counted, length_desk]

/-- What leaves alone the members of a name and their status, and is neither a report on one of them
nor a selection of the name, is no step. -/
theorem rest (h : c.Stepped name a n) {x : Happening}
    (unreported : ∀ id ∈ c.memberIds name, x.reportsOn id = false)
    (unchanged : (c.happen x).SelectsBy c.mesh.balancer.config)
    (other : ∀ client draw, x ≠ .act (.call (.select name client draw)))
    (same : (c.happen x).memberIds name = c.memberIds name)
    (selectable : ∀ r ∈ (c.happen x).mesh.store.members name, r.status.selectable = true) :
    (c.happen x).Stepped name a n where
  attached := attached_happen h.attached x
  coherent := coherent_happen h.attached h.coherent x
  unbroken id member := by
    rw [same] at member
    exact unbroken_happen h.attached (unreported id member) (h.unbroken id member)
  selectable := selectable
  weights r' member' := by
    have attached' := attached_happen h.attached x
    have still : r'.id ∈ (c.happen x).memberIds name := List.mem_map_of_mem member'
    obtain ⟨r, member, own⟩ := List.mem_map.mp (same ▸ still : r'.id ∈ c.memberIds name)
    have found := ((mem_members_iff h.attached).mp member).1
    have found' := ((mem_members_iff attached').mp member').1
    have lasting : Mesh.Lasting Record.weight :=
      ⟨fun _ _ => rfl, fun _ _ => rfl, fun _ _ => rfl⟩
    have lasts := lasting_happen lasting h.attached
      (contains_of_member h.attached (same ▸ still)) (contains_of_member attached' still)
    rw [found', ← own, found, Option.map_some, Option.map_some] at lasts
    rw [Option.some.inj lasts, h.weights r member]
  selector := by
    rcases selector_happen h.attached h.coherent unchanged other with same | ⟨old, new⟩
    · rw [same]
      exact h.selector
    · rw [new]
      exact Selector.Stepped.of_current (old ▸ h.selector) unchanged
  loads weighs i id listed := by
    rw [same] at listed ⊢
    have member := List.mem_of_getElem? listed
    rw [load?_happen h.attached h.coherent member (same ▸ member) (unreported id member) other]
    exact h.loads weighs i id listed

/-- A selection of the name gives out the member at the place that the steps have come to, and is
one step. -/
theorem select (h : c.Stepped name a n) (rotates : a ∈ Algorithm.rotating)
    (held : a.Holds (c.memberIds name).length n) (populated : c.memberIds name ≠ [])
    (client : Option String) (draw : UInt64) :
    ((c.select name client draw).1.toOption).map Record.id =
        (c.memberIds name)[a.steps n % (c.memberIds name).length]? ∧
      (c.happen (.act (.call (.select name client draw)))).Stepped name a (n + 1) := by
  have members : c.mesh.store.members name ≠ [] := by simpa [memberIds] using populated
  have among : c.mesh.balancer.From name (c.mesh.store.members name)
      (c.selecting name client draw) := by
    have fit := (candidates_selecting c name client draw).trans h.candidates_eq
    refine ⟨rfl, ?_, fit⟩
    obtain ⟨r, member⟩ := List.exists_mem_of_ne_nil _ members
    rw [Balancer.reaches, fit]
    simpa [selecting, written_of_member h.attached member] using members
  have ringless : c.mesh.balancer.config.algorithm ≠ .consistentHash := by
    rw [h.algorithm]
    rintro rfl
    simp [Algorithm.rotating] at rotates
  obtain ⟨given, served, -, -⟩ := Balancer.selection_desk h.lends among ringless
  have offered : (c.mesh.balancer.desk name (c.mesh.store.members name)).candidates ≠ [] := by
    simpa [Balancer.desk, Balancer.offered] using members
  rw [← length_desk] at held
  have stepped := h.desk.serve rotates held offered (c.selecting name client draw).demand
  rw [← served] at stepped
  constructor
  · have answered := h.desk.answer rotates held offered (c.selecting name client draw).demand
    change (c.select name client draw).1.toOption = _ at given
    rw [given, answered, length_desk, Option.bind_some, memberIds, List.getElem?_map]
  · have attached' := attached_happen h.attached (.act (.call (.select name client draw)))
    refine ⟨attached', coherent_happen h.attached h.coherent _, ?_, h.selectable, h.weights,
      stepped.selector, ?_⟩
    · intro id member
      exact unbroken_happen h.attached rfl (h.unbroken id member)
    · intro weighs i id listed
      rw [load?_eq_some attached' (List.mem_of_getElem? listed), ← length_desk]
      exact congrArg Option.some
        (Balancer.map_load_offered_eq_iff.mp (stepped.loads weighs) i id listed)

end Stepped

/-! ## Runs -/

/-- What a selection of a name gives out, if a happening is one: the id of an instance, or none if
it fails. -/
def given? (c : Coordinator) (name : String) : Happening → Option (Option String)
  | .act (.call (.select asked client draw)) =>
    if asked = name then some ((c.select name client draw).1.toOption.map Record.id) else none
  | _ => none

/-- What the selections of a name give out in a lifetime, one after the other. -/
def given (c : Coordinator) (name : String) : List Happening → List (Option String)
  | [] => []
  | h :: rest => (c.given? name h).toList ++ (c.happen h).given name rest

theorem given_select (c : Coordinator) (client : Option String) (draw : UInt64)
    (rest : List Happening) :
    c.given name (.act (.call (.select name client draw)) :: rest) =
      (c.select name client draw).1.toOption.map Record.id ::
        (c.happen (.act (.call (.select name client draw)))).given name rest := by
  have now : c.given? name (.act (.call (.select name client draw))) =
      some ((c.select name client draw).1.toOption.map Record.id) := if_pos rfl
  rw [given, now]
  rfl

/-- The members of a name with their status, in the order of registration. -/
def lineup (c : Coordinator) (name : String) : List (String × Status) :=
  (c.mesh.store.members name).map fun r => (r.id, r.status)

/-- Nobody reports on a member of a name, and the members, their status and what selectors are built
from are the same all the time. -/
structure Calm (c : Coordinator) (name : String) (run : List Happening) : Prop where
  unreported : ∀ id ∈ c.memberIds name, ∀ h ∈ run, h.reportsOn id = false
  unchanged : ∀ early, early <+: run → (c.lived early).SelectsBy c.mesh.balancer.config
  steady : ∀ early, early <+: run → (c.lived early).lineup name = c.lineup name

/-- An id was registered in a lifetime, and nobody has reported on it since. -/
def RegisteredFreshly (c : Coordinator) (life : List Happening) (id : String) : Prop :=
  ∃ earlier r since, life = earlier ++ .act (.call (.register r)) :: since ∧ r.id = id ∧
    ((c.lived earlier).register r).1 = .ok () ∧ ∀ h ∈ since, h.reportsOn id = false

theorem memberIds_of_lineup (same : next.lineup name = c.lineup name) :
    next.memberIds name = c.memberIds name := by
  have ids := congrArg (List.map Prod.fst) same
  rwa [lineup, lineup, List.map_map, List.map_map] at ids

theorem selectable_of_lineup (same : next.lineup name = c.lineup name)
    (selectable : ∀ r ∈ c.mesh.store.members name, r.status.selectable = true) :
    ∀ r ∈ next.mesh.store.members name, r.status.selectable = true := by
  intro r member
  have there : (r.id, r.status) ∈ next.lineup name := List.mem_map_of_mem member
  rw [same] at there
  obtain ⟨r', member', alike⟩ := List.mem_map.mp there
  rw [← (Prod.mk.inj alike).2]
  exact selectable r' member'

namespace Calm

variable {x : Happening} {run : List Happening}

theorem first (calm : c.Calm name (x :: run)) : (c.happen x).lineup name = c.lineup name :=
  calm.steady [x] (List.prefix_append [x] run)

theorem settings (calm : c.Calm name (x :: run)) :
    (c.happen x).SelectsBy c.mesh.balancer.config :=
  calm.unchanged [x] (List.prefix_append [x] run)

theorem tail (calm : c.Calm name (x :: run)) : (c.happen x).Calm name run where
  unreported id member h listed := by
    rw [memberIds_of_lineup calm.first] at member
    exact calm.unreported id member h (List.mem_cons_of_mem x listed)
  unchanged early part :=
    BalancerConfig.outdated_trans (BalancerConfig.outdated_symm calm.settings)
      (calm.unchanged (x :: early) (List.cons_prefix_cons.mpr ⟨rfl, part⟩))
  steady early part :=
    (calm.steady (x :: early) (List.cons_prefix_cons.mpr ⟨rfl, part⟩)).trans calm.first.symm

end Calm

/-- In a calm run each selection takes its turn. -/
theorem Stepped.given_eq (h : c.Stepped name a n)
    (rotates : a ∈ Algorithm.rotating) (populated : c.memberIds name ≠ [])
    {run : List Happening} (calm : c.Calm name run) {k : Nat} {reply : Option String}
    (replied : (c.given name run)[k]? = some reply)
    (held : a.Holds (c.memberIds name).length (n + k)) :
    reply = (c.memberIds name)[a.steps (n + k) % (c.memberIds name).length]? := by
  induction run generalizing c n k with
  | nil => cases replied
  | cons x rest ih =>
    have same := memberIds_of_lineup calm.first
    have later : ∀ {m j : Nat}, (c.happen x).Stepped name a m →
        ((c.happen x).given name rest)[j]? = some reply →
        a.Holds (c.memberIds name).length (m + j) →
        reply =
          (c.memberIds name)[a.steps (m + j) % (c.memberIds name).length]? := by
      intro m j stepped replied held
      have turn := ih stepped (same ▸ populated) calm.tail replied (same.symm ▸ held)
      rwa [same] at turn
    by_cases selection : ∃ client draw, x = .act (.call (.select name client draw))
    · obtain ⟨client, draw, rfl⟩ := selection
      obtain ⟨first, stepped⟩ :=
        h.select rotates (held.of_le (Nat.le_add_right n k)) populated client draw
      rw [given_select] at replied
      cases k with
      | zero =>
        cases replied
        exact first
      | succ k =>
        rw [← Nat.add_assoc, Nat.add_right_comm] at held
        have turn := later stepped replied held
        rwa [Nat.add_right_comm, Nat.add_assoc] at turn
    · have other : ∀ client draw, x ≠ .act (.call (.select name client draw)) :=
        fun client draw same => selection ⟨client, draw, same⟩
      have silent : c.given? name x = none := by
        unfold given?
        split
        case h_1 asked client draw =>
          refine if_neg fun own => ?_
          exact other client draw (own ▸ rfl)
        case h_2 => rfl
      rw [given, silent] at replied
      exact later (h.rest (fun id member => calm.unreported id member x List.mem_cons_self)
        calm.settings other same
        (selectable_of_lineup calm.first h.selectable)) replied held

/-! ## Runs of selections only -/

section selects

variable {run : List Happening}
  (asks : ∀ h ∈ run, ∃ client draw, h = .act (.call (.select name client draw)))

include asks

theorem store_of_selects : (c.lived run).mesh.store = c.mesh.store := by
  induction run generalizing c with
  | nil => rfl
  | cons h rest ih =>
    obtain ⟨⟨client, draw, rfl⟩, others⟩ := List.forall_mem_cons.mp asks
    rw [lived_cons, ih others]
    rfl

theorem config_of_selects : (c.lived run).mesh.balancer.config = c.mesh.balancer.config := by
  induction run generalizing c with
  | nil => rfl
  | cons h rest ih =>
    obtain ⟨⟨client, draw, rfl⟩, others⟩ := List.forall_mem_cons.mp asks
    rw [lived_cons, ih others]
    exact c.mesh.balancer.config_select _ _ _ name client draw

theorem calm_of_selects (settings : c.SelectsBy c.mesh.balancer.config) : c.Calm name run where
  unreported _ _ h listed := by
    obtain ⟨client, draw, rfl⟩ := asks h listed
    rfl
  unchanged early part := by
    have config := config_of_selects (c := c) fun h listed => asks h (part.subset listed)
    rw [SelectsBy, config]
    exact settings
  steady early part := by
    have store := store_of_selects (c := c) fun h listed => asks h (part.subset listed)
    rw [lineup, lineup, store]

theorem length_given : (c.given name run).length = run.length := by
  induction run generalizing c with
  | nil => rfl
  | cons h rest ih =>
    obtain ⟨⟨client, draw, rfl⟩, others⟩ := List.forall_mem_cons.mp asks
    rw [given_select, List.length_cons, ih others, List.length_cons]

end selects

/-- However often a name is selected from, a cursor says what its latest selection gives out. -/
theorem Stepped.given_replicate (h : c.Stepped name a 0)
    (rotates : a ∈ Algorithm.rotating)
    (turns : a.weighsLoads = false) (populated : c.memberIds name ≠ [])
    (settings : c.SelectsBy c.mesh.balancer.config) (client : Option String) (draw : UInt64)
    (n : Nat) :
    (c.given name (List.replicate (n + 1) (.act (.call (.select name client draw)))))[n]? =
      some (c.memberIds name)[n % 2 ^ 64 % (c.memberIds name).length]? := by
  have asks : ∀ h ∈ List.replicate (n + 1) (Happening.act (.call (.select name client draw))),
      ∃ client draw, h = .act (.call (.select name client draw)) :=
    fun h listed => ⟨client, draw, List.eq_of_mem_replicate listed⟩
  have inside : n < (c.given name (List.replicate (n + 1)
      (.act (.call (.select name client draw))))).length := by
    rw [length_given asks, List.length_replicate]
    exact Nat.lt_succ_self n
  have free := Algorithm.holds_of_not_weighsLoads turns (c.memberIds name).length (0 + n)
  have replied := List.getElem?_eq_getElem inside
  have turn := h.given_eq rotates populated (calm_of_selects asks settings) replied free
  rw [Nat.zero_add, Algorithm.steps_of_not_weighsLoads rotates turns] at turn
  rw [replied, turn]

/-! ## Fresh names -/

/-- A name that nobody has selected from, with fit members of weight one that were registered
freshly, is at the beginning. -/
theorem stepped_of_fresh (config : Config) {life : List Happening}
    (rotates : ((fresh config).lived life).mesh.balancer.config.algorithm ∈ Algorithm.rotating)
    (unpicked : (fresh config).picks name life = [])
    (freshly : ∀ id ∈ ((fresh config).lived life).memberIds name,
      (fresh config).RegisteredFreshly life id)
    (fit : ∀ r ∈ ((fresh config).lived life).mesh.store.members name,
      r.status.selectable = true ∧ r.weight = 1) :
    ((fresh config).lived life).Stepped name
      ((fresh config).lived life).mesh.balancer.config.algorithm 0 := by
  have unused : ∀ id ∈ ((fresh config).lived life).memberIds name,
      ((fresh config).lived life).Unbroken id ∧
        ((fresh config).lived life).Unloaded name id := by
    intro id member
    obtain ⟨earlier, r, since, rfl, rfl, accepted, unreported⟩ := freshly id member
    have attached := attached_lived config earlier
    have free : ((fresh config).lived earlier).mesh.store.contains r.id = false := by
      rcases ((fresh config).lived earlier).register_eq r with ⟨e, refused⟩ | ⟨-, free, -⟩
      · rw [refused] at accepted
        cases accepted
      · exact free
    rw [picks_append] at unpicked
    rw [lived_append]
    refine unused_lived attached (coherent_lived config earlier)
      (List.forall_mem_cons.mpr ⟨rfl, unreported⟩) (List.append_eq_nil_iff.mp unpicked).2 ?_ ?_
    · intro x found
      rw [attached.bank.find?_eq_none free] at found
      cases found
    · intro _ l counted
      rw [load?_eq_none attached free] at counted
      cases counted
  refine ⟨attached_lived config life, coherent_lived config life,
    fun id member => (unused id member).1, fun r member => (fit r member).1,
    fun r member => (fit r member).2, ?_, ?_⟩
  · have ringless : ((fresh config).lived life).mesh.balancer.config.algorithm ≠
        .consistentHash := by
      intro hashing
      rw [hashing] at rotates
      simp [Algorithm.rotating] at rotates
    rw [selector_of_unpicked config unpicked ringless]
    exact Selector.stepped_ofConfig _
  · intro _ i id listed
    have member := List.mem_of_getElem? listed
    have counted := load?_eq_some (attached_lived config life) member
    rw [counted, (unused id member).2 member _ counted]
    simp [rounds, Load.unreported]

/-- Four algorithms choose alike as long as nobody reports. Take a name that nobody has selected
from, whose members are fit, of weight one and registered freshly, in a run in which nobody
reports on them and neither they nor their status nor the settings of selectors change. Whatever
else happens, and whichever of the four algorithms is in force, each of the first `2 ^ 64`
selections of the name gives out the member at the place that the selections before it have come
to, around the members in the order of their registrations. After those the cursors of two of the
algorithms begin anew. The other two count the selections of each member, and go on until each
count is full. -/
theorem algorithms_in_lockstep (config : Config) (before run : List Happening) (name : String) :
    let c := (fresh config).lived before
    let ids := (fresh config).enrolled name [] before
    let algorithm := c.mesh.balancer.config.algorithm
    algorithm ∈ Algorithm.rotating → (fresh config).picks name before = [] → ids ≠ [] →
    (∀ id ∈ ids, (fresh config).RegisteredFreshly before id) →
    (∀ r ∈ c.mesh.store.members name, r.status.selectable = true ∧ r.weight = 1) →
    c.Calm name run →
    (c.mesh.store.members name).map Record.id = ids ∧
    ∀ k reply, (c.given name run)[k]? = some reply →
      (k < 2 ^ 64 → reply.isSome = true ∧ reply = ids[k % ids.length]?) ∧
      (algorithm.weighsLoads = false → reply = ids[k % 2 ^ 64 % ids.length]?) ∧
      (algorithm.weighsLoads = true → k ≤ ids.length * (2 ^ 64 - 1) →
        reply = ids[k % ids.length]?) := by
  intro c ids algorithm rotates unpicked populated freshly fit calm
  have members : c.memberIds name = ids := by
    have listed := memberIds_lived (attached_fresh config) before name
    rwa [memberIds_eq (attached_fresh config)] at listed
  refine ⟨members, fun k reply replied => ?_⟩
  have turn : algorithm.Holds ids.length k →
      reply = ids[algorithm.steps k % ids.length]? := by
    rw [← members] at populated freshly ⊢
    intro held
    have stepped := stepped_of_fresh config rotates unpicked freshly fit
    rw [← Nat.zero_add k] at held ⊢
    exact stepped.given_eq rotates populated calm replied held
  refine ⟨fun few => ?_, fun turns => ?_, fun weighs held => ?_⟩
  · have pos : 0 < ids.length := List.length_pos_iff.mpr populated
    have here := turn (algorithm.holds_of_lt pos few)
    rw [algorithm.steps_of_lt few] at here
    refine ⟨?_, here⟩
    rw [here, List.getElem?_eq_getElem (Nat.mod_lt k pos)]
    rfl
  · have free := Algorithm.holds_of_not_weighsLoads turns ids.length k
    rw [turn free, Algorithm.steps_of_not_weighsLoads rotates turns]
  · rw [turn fun _ => held, algorithm.steps_of_weighsLoads weighs]

/-- Of three instances, the selection after the first `2 ^ 64` gives out the first one, not the one
whose turn it is. With a new configuration that asks for other replicas on rings, though nothing
else has changed, the second selection gives out the first one again. -/
theorem cursor_begins_anew :
    let register (id : String) : Happening := .act (.call (.register
      { serviceName := "svc", id, endpoint := "127.0.0.1", port := 8080 }))
    let select : Happening := .act (.call (.select "svc" none 0))
    let configure : Happening := .act (.call (.configure none (some { hashReplicas := 50 })))
    let before := [register "a", register "b", register "c"]
    let c := (fresh {}).lived before
    let ids := (fresh {}).enrolled "svc" [] before
    let long := List.replicate (2 ^ 64 + 1) select
    let short := [select, configure, select]
    (c.mesh.balancer.config.algorithm = .roundRobin ∧ (fresh {}).picks "svc" before = [] ∧
      ids = ["a", "b", "c"] ∧ (∀ id ∈ ids, (fresh {}).RegisteredFreshly before id) ∧
      ∀ r ∈ c.mesh.store.members "svc", r.status.selectable = true ∧ r.weight = 1) ∧
    (c.Calm "svc" long ∧ (c.given "svc" long)[2 ^ 64]? = some (some "a") ∧
      ids[2 ^ 64 % ids.length]? = some "b") ∧
    (∀ id ∈ ids, ∀ h ∈ short, h.reportsOn id = false) ∧
      (∀ early ∈ short.inits, (c.lived early).lineup "svc" = c.lineup "svc") ∧
      (c.given "svc" short)[1]? = some (some "a") ∧ ids[1 % ids.length]? = some "b" := by
  intro register select configure before c ids long short
  have three : ids = ["a", "b", "c"] := by decide +kernel
  have members : c.memberIds "svc" = ids := by decide +kernel
  have unpicked : (Coordinator.fresh {}).picks "svc" before = [] := by decide +kernel
  have rotates : c.mesh.balancer.config.algorithm ∈ Algorithm.rotating := by decide +kernel
  have turns : c.mesh.balancer.config.algorithm.weighsLoads = false := by decide +kernel
  have freshly : ∀ id ∈ ids, (Coordinator.fresh {}).RegisteredFreshly before id := by
    rw [three]
    simp only [List.forall_mem_cons, List.not_mem_nil, false_implies, implies_true, and_true]
    refine ⟨⟨[], _, _, rfl, rfl, ?_, ?_⟩, ⟨before.take 1, _, _, rfl, rfl, ?_, ?_⟩,
      ⟨before.take 2, _, _, rfl, rfl, ?_, ?_⟩⟩
    all_goals decide +kernel
  have fit : ∀ r ∈ c.mesh.store.members "svc", r.status.selectable = true ∧ r.weight = 1 := by
    decide +kernel
  have settings : c.SelectsBy c.mesh.balancer.config := by decide +kernel
  have stepped : c.Stepped "svc" c.mesh.balancer.config.algorithm 0 := by
    apply stepped_of_fresh {} rotates unpicked _ fit
    rwa [← members] at freshly
  have populated : c.memberIds "svc" ≠ [] := by
    rw [members, three]
    exact List.cons_ne_nil _ _
  have latest := stepped.given_replicate rotates turns populated settings none 0 (2 ^ 64)
  rw [members, three] at latest
  refine ⟨⟨by decide +kernel, unpicked, three, freshly, fit⟩, ⟨?_, latest, ?_⟩, ?_⟩
  · exact calm_of_selects (fun h listed => ⟨none, 0, List.eq_of_mem_replicate listed⟩) settings
  · rw [three]
    decide
  · rw [three]
    decide +kernel

/-- Three instances take their turns under least connections, while another name is selected from
and reported on, and the window of outcomes is made smaller. -/
theorem algorithms_in_lockstep_of_three :
    let register (name id : String) : Happening := .act (.call (.register
      { serviceName := name, id, endpoint := "127.0.0.1", port := 8080 }))
    let select (name : String) : Happening := .act (.call (.select name none 0))
    let config : Config := { loadBalancer := { algorithm := .leastConnections } }
    let before := [register "svc" "a", register "other" "x", register "svc" "b", select "other",
      register "svc" "c"]
    let run := [select "svc", select "other", select "svc",
      .act (.call (.report "x" (.ofMillis 5) false)), select "svc", .elapse 1,
      .act (.call (.configure none (some { config.loadBalancer with successWindow := 5 }))),
      select "svc", select "svc"]
    let given := ((fresh config).lived before).given "svc" run
    given.length = 5 ∧ ∀ k reply, given[k]? = some reply → reply = ["a", "b", "c"][k % 3]? := by
  intro register select config before run given
  have members : (Coordinator.fresh config).enrolled "svc" [] before = ["a", "b", "c"] := by
    decide +kernel
  have freshly : ∀ id ∈ (Coordinator.fresh config).enrolled "svc" [] before,
      (Coordinator.fresh config).RegisteredFreshly before id := by
    rw [members]
    simp only [List.forall_mem_cons, List.not_mem_nil, false_implies, implies_true, and_true]
    refine ⟨⟨[], _, _, rfl, rfl, ?_, ?_⟩, ⟨before.take 2, _, _, rfl, rfl, ?_, ?_⟩,
      ⟨before.take 4, _, _, rfl, rfl, ?_, ?_⟩⟩
    all_goals decide +kernel
  let c := (Coordinator.fresh config).lived before
  have steady : ∀ early ∈ run.inits, (c.lived early).SelectsBy c.mesh.balancer.config ∧
      (c.lived early).lineup "svc" = c.lineup "svc" := by
    decide +kernel
  obtain ⟨-, turns⟩ := algorithms_in_lockstep config before run "svc" (by decide +kernel)
    (by decide +kernel) (by decide +kernel) freshly (by decide +kernel)
    ⟨by decide +kernel, fun early part => (steady early ((List.mem_inits early run).mpr part)).1,
      fun early part => (steady early ((List.mem_inits early run).mpr part)).2⟩
  have five : given.length = 5 := by decide +kernel
  refine ⟨five, fun k reply replied => ?_⟩
  have few : k < 5 := by
    have inside := (List.getElem?_eq_some_iff.mp replied).1
    rwa [five] at inside
  obtain ⟨-, turn⟩ := (turns k reply replied).1 (by omega)
  rwa [members] at turn

end Coordinator

end ServiceMesh
