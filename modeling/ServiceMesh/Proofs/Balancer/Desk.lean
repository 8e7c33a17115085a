import ServiceMesh.Proofs.Balancer.Rotation

/-!
# Desks

A selection chooses a candidate by what its selector keeps and by what the loads are, and adds to
the load of the candidate that it gives out. As long as nobody reports, a selector and its
candidates are so a machine of their own, called a desk here. A balancer whose selections of a name
are all from the same instances is a desk, whatever else it holds.
-/

namespace ServiceMesh

/-! ## The first of the least -/

/-- The elements in front of the first of the least are not among the least. -/
theorem firstLeast?_split {before : α → α → Bool} {xs : List α} {x : α}
    (h : firstLeast? before xs = some x) :
    ∃ earlier later, xs = earlier ++ x :: later ∧ ∀ y ∈ earlier, before x y = true := by
  induction xs generalizing x with
  | nil => cases h
  | cons first rest ih =>
    rw [firstLeast?] at h
    cases found : firstLeast? before rest with
    | none =>
      rw [found] at h
      cases h
      exact ⟨[], rest, rfl, fun _ listed => absurd listed List.not_mem_nil⟩
    | some least =>
      rw [found] at h
      simp only at h
      split at h
      case isTrue less =>
        cases h
        obtain ⟨earlier, later, rfl, above⟩ := ih found
        exact ⟨first :: earlier, later, rfl, List.forall_mem_cons.mpr ⟨less, above⟩⟩
      case isFalse =>
        cases h
        exact ⟨[], rest, rfl, fun _ listed => absurd listed List.not_mem_nil⟩

theorem firstLeast?_congr {before other : α → α → Bool} {xs : List α}
    (alike : ∀ x ∈ xs, ∀ y ∈ xs, before x y = other x y) :
    firstLeast? before xs = firstLeast? other xs := by
  induction xs with
  | nil => rfl
  | cons first rest ih =>
    have later : firstLeast? before rest = firstLeast? other rest :=
      ih fun x hx y hy => alike x (List.mem_cons_of_mem first hx) y (List.mem_cons_of_mem first hy)
    rw [firstLeast?, firstLeast?, later]
    cases found : firstLeast? other rest with
    | none => rfl
    | some least =>
      simp only
      rw [alike least (List.mem_cons_of_mem first (firstLeast?_mem found)) first
        List.mem_cons_self]

/-- The first position of the least number in a list. -/
def FirstLeast (numbers : List Nat) (i : Nat) : Prop :=
  ∃ n, numbers[i]? = some n ∧ (∀ j m : Nat, numbers[j]? = some m → n ≤ m) ∧
    ∀ j < i, ∀ m, numbers[j]? = some m → n < m

theorem FirstLeast.unique {numbers : List Nat} {i j : Nat} (hi : FirstLeast numbers i)
    (hj : FirstLeast numbers j) : i = j := by
  obtain ⟨n, atI, leastI, firstI⟩ := hi
  obtain ⟨m, atJ, leastJ, firstJ⟩ := hj
  have le := leastI j m atJ
  have ge := leastJ i n atI
  rcases Nat.lt_trichotomy i j with before | same | after
  · have := firstJ i before n atI
    omega
  · exact same
  · have := firstI j after m atJ
    omega

/-- If elements are compared by their numbers, the first of the least is at the first position of
the least number. -/
theorem firstLeast_of_firstLeast? {before : α × Nat → α × Nat → Bool} {number : α → Nat}
    {cs : List α}
    (compares : ∀ x ∈ cs, ∀ y ∈ cs, ∀ j k, before (x, j) (y, k) = decide (number x < number y))
    {x : α × Nat} (least : firstLeast? before cs.zipIdx = some x) :
    FirstLeast (cs.map number) x.2 := by
  have alike : firstLeast? before cs.zipIdx =
      firstLeast? (fun x y => decide (number x.1 < number y.1)) cs.zipIdx :=
    firstLeast?_congr fun x hx y hy =>
      compares _ (List.fst_mem_of_mem_zipIdx hx) _ (List.fst_mem_of_mem_zipIdx hy) _ _
  rw [alike] at least
  have listed : cs[x.2]? = some x.1 := List.mk_mem_zipIdx_iff_getElem?.mp (firstLeast?_mem least)
  have lower : ∀ y ∈ cs.zipIdx, decide (number y.1 < number x.1) = false := by
    refine not_before_firstLeast? ?_ ?_ least
    · intro x y
      simp only [decide_eq_true_iff, decide_eq_false_iff_not]
      omega
    · intro x y z
      simp only [decide_eq_false_iff_not]
      omega
  obtain ⟨earlier, later, parts, above⟩ := firstLeast?_split least
  have position : x.2 = earlier.length := by
    have here : cs.zipIdx[earlier.length]? = some x := by
      rw [parts, List.getElem?_append_right (Nat.le_refl _), Nat.sub_self, List.getElem?_cons_zero]
    rw [List.getElem?_zipIdx] at here
    obtain ⟨c, -, rfl⟩ := Option.map_eq_some_iff.mp here
    exact Nat.zero_add _
  refine ⟨number x.1, by rw [List.getElem?_map, listed]; rfl, ?_, ?_⟩
  · intro j m there
    rw [List.getElem?_map] at there
    obtain ⟨other, found, rfl⟩ := Option.map_eq_some_iff.mp there
    exact Nat.not_lt.mp
      (of_decide_eq_false (lower (other, j) (List.mk_mem_zipIdx_iff_getElem?.mpr found)))
  · intro j front m there
    rw [List.getElem?_map] at there
    obtain ⟨other, found, rfl⟩ := Option.map_eq_some_iff.mp there
    have placed : cs.zipIdx[j]? = some (other, j) := by
      rw [List.getElem?_zipIdx, found, Nat.zero_add]
      rfl
    rw [parts, List.getElem?_append_left (position ▸ front)] at placed
    exact of_decide_eq_true (above _ (List.mem_of_getElem? placed))

namespace Candidate

/-- A candidate that was given out once more. -/
def taken (c : Candidate) : Candidate := { c with load := c.load.start }

/-- The open selections of a candidate. -/
def opened (c : Candidate) : Nat := c.load.inFlight

end Candidate

/-- Least connections choose the first candidate with the fewest open selections. -/
theorem Selector.firstLeast_of_leastLoaded? {cs : List Candidate} {i : Nat}
    (chosen : leastLoaded? cs = some i) : FirstLeast (cs.map Candidate.opened) i := by
  obtain ⟨x, least, rfl⟩ := Option.map_eq_some_iff.mp chosen
  exact firstLeast_of_firstLeast? (fun _ _ _ _ _ _ => rfl) least

/-! ## Desks -/

/-- What a selection brings with it. -/
structure Demand where
  request : Request
  draw : UInt64

/-- A selector with the candidates that it gives out. -/
structure Desk where
  selector : Selector
  candidates : List Candidate

namespace Desk

/-- The position of the candidate that is given out. -/
def answer (d : Desk) (q : Demand) : Option Nat :=
  (d.selector.choose d.candidates q.request q.draw).1

/-- The desk after a selection. -/
def serve (d : Desk) (q : Demand) : Desk where
  selector := (d.selector.choose d.candidates q.request q.draw).2
  candidates := match d.answer q with
    | none => d.candidates
    | some i => d.candidates.modify i Candidate.taken

/-- The desk after selections that follow one another. -/
def served (d : Desk) (qs : List Demand) : Desk := qs.foldl serve d

/-- What is given out by selections that follow one another. -/
def answers (d : Desk) : List Demand → List (Option Nat)
  | [] => []
  | q :: rest => d.answer q :: (d.serve q).answers rest

@[simp] theorem served_nil (d : Desk) : d.served [] = d := rfl

@[simp] theorem served_cons (d : Desk) (q : Demand) (qs : List Demand) :
    d.served (q :: qs) = (d.serve q).served qs := rfl

@[simp] theorem served_snoc (d : Desk) (qs : List Demand) (q : Demand) :
    d.served (qs ++ [q]) = (d.served qs).serve q := by
  rw [served, List.foldl_concat]
  rfl

theorem length_candidates_serve (d : Desk) (q : Demand) :
    (d.serve q).candidates.length = d.candidates.length := by
  unfold serve
  cases d.answer q with
  | none => rfl
  | some i => exact List.length_modify ..

/-- What is read off the candidates changes at the place of the one that is given out. -/
theorem map_candidates_serve {d : Desk} {q : Demand} {i : Nat} (answered : d.answer q = some i)
    {f : Candidate → α} {g : α → α} (follows : ∀ c : Candidate, f c.taken = g (f c)) :
    (d.serve q).candidates.map f = (d.candidates.map f).modify i g := by
  unfold serve
  rw [answered]
  refine List.ext_getElem? fun j => ?_
  simp only [List.getElem?_map, List.getElem?_modify]
  cases d.candidates[j]? with
  | none => rfl
  | some c => by_cases own : i = j <;> simp [own, follows]

/-- A choice never changes the algorithm. -/
theorem algorithm_serve (d : Desk) (q : Demand) :
    (d.serve q).selector.algorithm = d.selector.algorithm := by
  unfold serve
  cases d.selector with
  | leastConnections | performanceBased | random => rfl
  | roundRobin | weightedRoundRobin | consistentHash =>
    simp only [Selector.choose]
    split <;> rfl

/-- A selector without a ring gives out one of the candidates, if there are any. -/
theorem answer_of_ringless {d : Desk} (ringless : d.selector.algorithm ≠ .consistentHash)
    (offers : d.candidates ≠ []) (q : Demand) :
    ∃ i < d.candidates.length, d.answer q = Option.some i :=
  Selector.choose_in_range ringless offers q.request q.draw

end Desk

/-! ## Balancers -/

namespace Selecting

/-- What a selection asks the selector of its name besides the candidates. -/
def demand (s : Selecting) : Demand where
  request := Balancer.requestFor s.client (s.store.members s.name)
  draw := s.draw

end Selecting

namespace Balancer

variable {b : Balancer} {name : String} {rs : List Record}

/-- The desk of a name whose fit instances are some records. -/
def desk (b : Balancer) (name : String) (rs : List Record) : Desk where
  selector := (b.group name).selector
  candidates := b.offered rs

/-- The instances that selections give out, one after the other. -/
def given (b : Balancer) : List Selecting → List (Option Record)
  | [] => []
  | s :: rest => (b.selection s).1.toOption :: (b.step (.select s)).given rest

/-- Selections of a name from the same instances. -/
structure From (b : Balancer) (name : String) (rs : List Record) (s : Selecting) : Prop where
  named : s.name = name
  reached : b.reaches s = true
  same : b.candidates s = rs

/-- A balancer is a desk for some records if each of them has a load of its own. -/
structure Lends (b : Balancer) (rs : List Record) : Prop where
  coherent : b.Coherent
  distinct : (rs.map Record.id).Nodup
  tracked : ∀ r ∈ rs, b.tracks r.id = true

/-- One more selection of an instance is seen at its position and nowhere else. -/
theorem offered_start (h : b.Lends rs) {next : Balancer} {i : Nat} {r : Record}
    (there : rs[i]? = some r) (loads : next.loads = b.loads.update r.id Load.start) :
    next.offered rs = (b.offered rs).modify i Candidate.taken := by
  refine List.ext_getElem? fun j => ?_
  rw [List.getElem?_modify, offered, offered, List.getElem?_map, List.getElem?_map]
  cases listed : rs[j]? with
  | none => simp
  | some other =>
    rw [Option.map_some, Option.map_some, load, loads]
    by_cases own : i = j
    · subst own
      cases there.symm.trans listed
      obtain ⟨x, found⟩ := Option.isSome_iff_exists.mp (h.tracked r (List.mem_of_getElem? there))
      simp [Table.getElem?_update_self, load, found, Candidate.taken]
    · have differ : r.id ≠ other.id := by
        intro same
        have inside : i < (rs.map Record.id).length := by
          rw [List.length_map]
          exact (List.getElem?_eq_some_iff.mp there).1
        refine own (List.getElem?_inj inside h.distinct |>.mp ?_)
        rw [List.getElem?_map, List.getElem?_map, there, listed, Option.map_some, same]
        rfl
      simp [Table.getElem?_update_ne _ differ, own, load]

/-- After a choice a name has the selector that was asked, as it is then. -/
theorem selector_choose (h : b.Coherent) (name : String) (rs : List Record) (d : Demand) :
    ((b.choose name rs d.request d.draw).2.group name).selector =
      (b.consult name rs d.request d.draw).2 := by
  have current : (b.group name).revision = b.revision := (h.group name).1
  have grouped : ∀ (next : Balancer) (g : Group), next.groups = b.groups.insert name g →
      g.revision = next.revision → (next.group name).selector = g.selector := by
    intro next g groups revision
    unfold group
    rw [groups, Table.getElem?_insert_self]
    exact congrArg Group.selector (if_pos revision)
  have kept (statistics : Option Statistics) (loads : Table Load)
      (selections : Tally (String × Algorithm)) := grouped
    { b with
      groups := b.groups.insert name
        { b.group name with selector := (b.consult name rs d.request d.draw).2, statistics }
      loads
      selections } _ rfl current
  cases chosen : (b.consult name rs d.request d.draw).1.bind (rs[·]?) with
  | none =>
    rw [choose_of_none chosen]
    exact kept (b.group name).statistics b.loads b.selections
  | some r =>
    rw [choose_of_some chosen]
    exact kept _ _ _

/-- A choice that hits an instance is a selection at the desk. -/
theorem choose_desk (h : b.Lends rs) {d : Demand} {i : Nat} {r : Record}
    (answered : (b.desk name rs).answer d = some i) (there : rs[i]? = some r) :
    (b.choose name rs d.request d.draw).1 = .ok r ∧
      (b.choose name rs d.request d.draw).2.desk name rs = (b.desk name rs).serve d ∧
      (b.choose name rs d.request d.draw).2.Lends rs ∧
      (b.choose name rs d.request d.draw).2.config = b.config := by
  have coherent := h.coherent.choose name rs d.request d.draw
  have hit : (b.consult name rs d.request d.draw).1.bind (rs[·]?) = some r := by
    have consulted : (b.consult name rs d.request d.draw).1 = some i := answered
    rw [consulted, Option.bind_some, there]
  have selector := selector_choose h.coherent name rs d
  rw [choose_of_some hit] at coherent ⊢
  refine ⟨rfl, ?_, ⟨coherent, h.distinct, fun other listed => ?_⟩, rfl⟩
  · unfold Desk.serve
    rw [answered]
    rw [choose_of_some hit] at selector
    exact congrArg₂ Desk.mk selector (offered_start h there rfl)
  · rw [tracks, Table.isSome_update]
    exact h.tracked other listed

/-- A selection from some instances is a selection at the desk. -/
theorem selection_desk (h : b.Lends rs) {s : Selecting} (among : b.From name rs s)
    (ringless : b.config.algorithm ≠ .consistentHash) :
    (b.selection s).1.toOption = ((b.desk name rs).answer s.demand).bind (rs[·]?) ∧
      (b.step (.select s)).desk name rs = (b.desk name rs).serve s.demand ∧
      (b.step (.select s)).Lends rs ∧ (b.step (.select s)).config = b.config := by
  obtain ⟨rfl, reached, rfl⟩ := among
  have offers : (b.desk s.name (b.candidates s)).candidates ≠ [] := by
    simpa [desk, offered] using candidates_ne_nil reached
  have suits : (b.desk s.name (b.candidates s)).selector.algorithm ≠ .consistentHash := by
    rwa [desk, (h.coherent.group s.name).2.2.algorithm]
  obtain ⟨i, inside, answered⟩ := Desk.answer_of_ringless suits offers s.demand
  have within : i < (b.candidates s).length := by simpa [desk, offered] using inside
  obtain ⟨chosen, served, lends, config⟩ :=
    choose_desk h answered (List.getElem?_eq_getElem within)
  have step : b.step (.select s) =
      (b.choose s.name (b.candidates s) s.demand.request s.demand.draw).2 := by
    change (b.selection s).2.1 = _
    rw [selection_of_reaches reached]
    rfl
  rw [step, selection_of_reaches reached]
  refine ⟨?_, served, lends, config⟩
  rw [answered, Option.bind_some, List.getElem?_eq_getElem within]
  exact congrArg Except.toOption chosen

/-- Selections of a name from the same instances, one after the other, are the selections at the
desk. -/
theorem given_eq (h : b.Lends rs) (ringless : b.config.algorithm ≠ .consistentHash)
    {selectings : List Selecting} (among : ∀ s ∈ selectings, b.From name rs s) :
    b.given selectings =
        ((b.desk name rs).answers (selectings.map Selecting.demand)).map (·.bind (rs[·]?)) ∧
      (b.called (selectings.map .select)).desk name rs =
        (b.desk name rs).served (selectings.map Selecting.demand) := by
  induction selectings generalizing b with
  | nil => exact ⟨rfl, rfl⟩
  | cons s rest ih =>
    obtain ⟨first, others⟩ := List.forall_mem_cons.mp among
    obtain ⟨answered, served, lends, config⟩ := selection_desk h first ringless
    have still : ∀ s' ∈ rest, (b.step (.select s)).From name rs s' := by
      intro s' listed
      obtain ⟨named, reached, same⟩ := others s' listed
      have alike : (b.step (.select s)).candidates s' = b.candidates s' := by
        rw [candidates, config, candidates]
      refine ⟨named, ?_, alike.trans same⟩
      rw [reaches, alike]
      exact reached
    obtain ⟨later, left⟩ := ih lends (config ▸ ringless) still
    constructor
    · rw [given, answered, later, served]
      rfl
    · rw [List.map_cons, called, List.foldl_cons, ← called, left, served]
      rfl

end Balancer

end ServiceMesh
