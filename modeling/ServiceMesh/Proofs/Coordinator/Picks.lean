import ServiceMesh.Proofs.Balancer.Rotation
import ServiceMesh.Proofs.Balancer.Turns
import ServiceMesh.Proofs.Coordinator.Enrolment

/-!
# Picks

A pick is a selection of a name that gives out an instance. Under round robin a pick takes the
place that the cursor of its name has come to and moves it on by one. Nothing else moves the
cursor: selections of other names, reports, checks and selections that fail leave it where it is,
or the name has another algorithm by then. So picks that follow one another take their turns
around the candidates, wherever earlier picks among other candidates have left the cursor.
-/

namespace ServiceMesh

/-! ## Selectors of names -/

/-- Turns begin with the first candidate. -/
theorem Selector.cursor_ofConfig {config : BalancerConfig} {cursor : UInt64}
    (fresh : ofConfig config = .roundRobin cursor) : cursor = 0 := by
  unfold ofConfig at fresh
  cases asked : config.algorithm with
  | roundRobin =>
    rw [asked] at fresh
    exact (Selector.roundRobin.inj fresh).symm
  | _ =>
    rw [asked] at fresh
    cases fresh

namespace Balancer

variable {b : Balancer} {s : Selecting} {name : String}

/-- The selector that a name has kept of its latest use. -/
def selectorOf? (b : Balancer) (name : String) : Option Selector := (b.remembered name).map (·.1)

/-- A selection asks the selector that its name has kept, or a new one. -/
theorem selector_group (b : Balancer) (name : String) :
    b.selectorOf? name = some (b.group name).selector ∨
      (b.group name).selector = .ofConfig b.config := by
  unfold selectorOf? remembered group
  cases b.groups[name]? with
  | none => exact .inr rfl
  | some g =>
    simp only
    split
    · exact .inl rfl
    · split
      · exact .inr rfl
      · exact .inl rfl

/-- A selection that reaches the selector of its name leaves it there as it is then. -/
theorem selectorOf?_selection (h : b.Coherent) (reached : b.reaches s = true) (name : String) :
    (b.selection s).2.1.selectorOf? name =
      if s.name = name then some (b.asked s).2 else b.selectorOf? name := by
  obtain ⟨-, -, -, written⟩ := selection_remembers h reached
  rw [selectorOf?, written name, selectorOf?]
  split <;> rfl

theorem selectorOf?_selection_of_not_reaches (missed : b.reaches s = false) (name : String) :
    (b.selection s).2.1.selectorOf? name = b.selectorOf? name := by
  rcases selection_of_not_reaches missed with same | ⟨reason, failed⟩
  · rw [same]
  · rw [failed]
    rfl

/-- A selection that reaches a cursor takes the place that it has come to, and moves it on. -/
theorem asked_of_roundRobin {cursor : UInt64}
    (asks : (b.group s.name).selector = .roundRobin cursor) (reached : b.reaches s = true) :
    b.asked s = (some (cursor.toNat % (b.candidates s).length), .roundRobin (cursor + 1)) := by
  simp [asked, asks, Selector.choose, offered, candidates_ne_nil reached]

/-- A name whose algorithm has no cursor of turns is not left with one. -/
theorem asked_ne_roundRobin (h : b.Coherent)
    (other : ∀ cursor, (b.group s.name).selector ≠ .roundRobin cursor) :
    b.config.algorithm ≠ .roundRobin ∧ ∀ cursor, (b.asked s).2 ≠ .roundRobin cursor := by
  obtain ⟨-, -, suits⟩ := h.group s.name
  have different : b.config.algorithm ≠ .roundRobin := by
    intro same
    cases selector : (b.group s.name).selector with
    | roundRobin cursor => exact other cursor selector
    | _ =>
      have algorithm := suits.algorithm
      rw [selector, same] at algorithm
      cases algorithm
  refine ⟨different, fun cursor left => different ?_⟩
  have after := (suits.choose (b.offered (b.candidates s))
    (requestFor s.client (s.store.members s.name)) s.draw).algorithm
  rw [← after]
  exact congrArg Selector.algorithm left

end Balancer

/-! ## Picks -/

/-- A selection of a name that gave out an instance. -/
structure Pick where
  /-- the id of the instance -/
  chosen : String
  /-- the ids it was chosen from, in the order of registration -/
  candidates : List String
  /-- the algorithm in force -/
  algorithm : Algorithm
  /-- whether the selector that the name had kept was asked, and not a new one -/
  kept : Bool

namespace Coordinator

variable {c next : Coordinator} {name : String} {ids : List String}

/-- The selector that a name has kept of its latest use. -/
def selectorOf? (c : Coordinator) (name : String) : Option Selector :=
  c.mesh.balancer.selectorOf? name

/-- A selection of a name that gives out a record now. -/
def pickOf (c : Coordinator) (name : String) (r : Record) : Pick where
  chosen := r.id
  candidates := c.candidateIds name
  algorithm := c.mesh.balancer.config.algorithm
  kept := c.selectorOf? name = some (c.mesh.balancer.group name).selector

/-- The pick of a name that a happening is, if it is one. -/
def pick? (c : Coordinator) (name : String) : Happening → Option Pick
  | .act (.call (.select asked client draw)) =>
    if asked = name then (c.select name client draw).1.toOption.map (c.pickOf name) else none
  | _ => none

/-- The picks of a name in a lifetime. -/
def picks (c : Coordinator) (name : String) : List Happening → List Pick
  | [] => []
  | h :: rest => (c.pick? name h).toList ++ (c.happen h).picks name rest

theorem picks_append (c : Coordinator) (name : String) (first second : List Happening) :
    c.picks name (first ++ second) = c.picks name first ++ (c.lived first).picks name second := by
  induction first generalizing c with
  | nil => rfl
  | cons h rest ih => rw [List.cons_append, picks, ih, picks, lived_cons, List.append_assoc]

/-- A lifetime with picks has a first one. -/
theorem picks_eq_cons {life : List Happening} {p : Pick} {rest : List Pick}
    (picked : c.picks name life = p :: rest) :
    ∃ before h after, life = before ++ h :: after ∧ c.picks name before = [] ∧
      (c.lived before).pick? name h = some p ∧
      ((c.lived before).happen h).picks name after = rest := by
  induction life generalizing c with
  | nil => cases picked
  | cons h life ih =>
    rw [picks] at picked
    cases first : c.pick? name h with
    | some q =>
      rw [first] at picked
      obtain ⟨rfl, same⟩ := List.cons.inj picked
      exact ⟨[], h, life, rfl, rfl, first, same⟩
    | none =>
      rw [first] at picked
      obtain ⟨before, h', after, rfl, unpicked, pick, later⟩ := ih picked
      refine ⟨h :: before, h', after, rfl, ?_, pick, later⟩
      rw [picks, first, unpicked]
      rfl

/-! ## One step -/

/-- What becomes of the selector of a name with a happening, which may be a pick. -/
inductive Course (c : Coordinator) (name : String) (next : Option Selector) : Option Pick → Prop
  | rests (same : next = c.selectorOf? name) : Course c name next none
  | turns {p : Pick} (cursor : UInt64)
      (reached : c.selectorOf? name = some (.roundRobin cursor) ∨ p.kept = false ∧ cursor = 0)
      (turn : p.candidates[cursor.toNat % p.candidates.length]? = some p.chosen)
      (moved : next = some (.roundRobin (cursor + 1))) : Course c name next (some p)
  | strays {pick : Option Pick} (other : ∀ p ∈ pick, p.algorithm ≠ .roundRobin)
      (lost : ∀ cursor, next ≠ some (.roundRobin cursor)) : Course c name next pick

theorem remembered_call {op : Operation} {answer : Answer} (made : Call c op answer next)
    (other : ∀ name client draw, op ≠ .select name client draw) (name : String) :
    next.mesh.balancer.remembered name = c.mesh.balancer.remembered name := by
  cases made with
  | select name client draw => exact absurd rfl (other name client draw)
  | register r =>
    obtain ⟨loads, tracked⟩ := c.mesh.balancer.track_eq r.id
    change (c.mesh.balancer.track r.id).remembered name = _
    rw [tracked]
    rfl
  | @report id r time success =>
    exact c.mesh.balancer.remembered_reported r.serviceName id time success name
  | configure health balancer => cases health <;> cases balancer <;> rfl
  | _ => rfl

/-- The selection of an operation with what it meets. -/
def selecting (c : Coordinator) (name : String) (client : Option String) (draw : UInt64) :
    Selecting :=
  { store := c.mesh.store, bank := c.mesh.bank, now := c.timeline.moment, name, client, draw }

theorem candidates_selecting (c : Coordinator) (name : String) (client : Option String)
    (draw : UInt64) :
    c.mesh.balancer.candidates (c.selecting name client draw) = c.candidates name :=
  Balancer.fit_eq ..

/-- Only a selection that reaches the selector of its name gives out an instance. -/
theorem reaches_of_chosen (coherent : c.mesh.balancer.Coherent) {client : Option String}
    {draw : UInt64} {r : Record} (chosen : (c.select name client draw).1 = .ok r) :
    c.mesh.balancer.reaches (c.selecting name client draw) = true := by
  have selects := selects_of_coherent coherent name client draw
  rw [chosen] at selects
  cases selects with
  | chosen written owned candidate =>
    have offers : c.candidates name ≠ [] := List.ne_nil_of_mem candidate
    rw [Balancer.reaches, candidates_selecting]
    simpa [selecting, written] using offers

/-- A selection that reaches the selector of its name is a pick if the selector answers it. -/
theorem pick?_of_reaches (coherent : c.mesh.balancer.Coherent) {client : Option String}
    {draw : UInt64} (reached : c.mesh.balancer.reaches (c.selecting name client draw) = true) :
    c.pick? name (.act (.call (.select name client draw))) =
      ((c.mesh.balancer.asked (c.selecting name client draw)).1.bind
        ((c.candidates name)[·]?)).map (c.pickOf name) := by
  obtain ⟨answered, -⟩ := Balancer.selection_remembers coherent reached
  rw [candidates_selecting] at answered
  rw [pick?, if_pos rfl, ← answered]
  rfl

/-- What becomes of the selector of a name with a selection of the name that reaches it. -/
theorem course_reached (coherent : c.mesh.balancer.Coherent) {client : Option String}
    {draw : UInt64} (reached : c.mesh.balancer.reaches (c.selecting name client draw) = true) :
    Course c name (some (c.mesh.balancer.asked (c.selecting name client draw)).2)
      (c.pick? name (.act (.call (.select name client draw)))) := by
  rw [pick?_of_reaches coherent reached]
  -- Only a selector without a cursor of turns may leave a selection without an answer.
  by_cases turning : ∃ cursor, (c.mesh.balancer.group name).selector = .roundRobin cursor
  · obtain ⟨cursor, asks⟩ := turning
    have pos : 0 < (c.candidates name).length := by
      rw [← candidates_selecting c name client draw]
      exact List.length_pos_iff.mpr (Balancer.candidates_ne_nil reached)
    obtain ⟨r, here⟩ : ∃ r,
        (c.candidates name)[cursor.toNat % (c.candidates name).length]? = some r :=
      ⟨_, List.getElem?_eq_getElem (Nat.mod_lt _ pos)⟩
    rw [Balancer.asked_of_roundRobin asks reached, candidates_selecting, Option.bind_some, here,
      Option.map_some]
    refine .turns cursor ?_ ?_ rfl
    · by_cases kept : c.selectorOf? name = some (c.mesh.balancer.group name).selector
      · exact .inl (kept.trans (congrArg some asks))
      · have renewed := (c.mesh.balancer.selector_group name).resolve_left kept
        exact .inr ⟨decide_eq_false kept, Selector.cursor_ofConfig (renewed.symm.trans asks)⟩
    · simp only [pickOf, candidateIds, List.length_map, List.getElem?_map, here, Option.map_some]
  · obtain ⟨different, lost⟩ := Balancer.asked_ne_roundRobin
      (s := c.selecting name client draw) coherent fun cursor same => turning ⟨cursor, same⟩
    refine .strays ?_ fun cursor same => lost cursor (Option.some.inj same)
    intro p picked
    obtain ⟨r, -, rfl⟩ := Option.map_eq_some_iff.mp picked
    exact different

/-- The selector of a name is left alone by what is no pick of the name, unless a selection of the
name reaches it. -/
theorem selectorOf?_happen (attached : c.mesh.Attached) (coherent : c.mesh.balancer.Coherent)
    (name : String) (h : Happening) :
    (c.pick? name h = none ∧ (c.happen h).selectorOf? name = c.selectorOf? name) ∨
    ∃ client draw, h = .act (.call (.select name client draw)) ∧
      c.mesh.balancer.reaches (c.selecting name client draw) = true ∧
      (c.happen h).selectorOf? name =
        some (c.mesh.balancer.asked (c.selecting name client draw)).2 := by
  rcases happen_cases Mesh.still still_beat attached h with ⟨op, rfl, made⟩ | ⟨waits, same⟩
  · by_cases selection : ∃ asked client draw, op = .select asked client draw
    · obtain ⟨asked, client, draw, rfl⟩ := selection
      have left : (c.happen (.act (.call (.select asked client draw)))).selectorOf? name =
          (c.mesh.balancer.selection (c.selecting asked client draw)).2.1.selectorOf? name := rfl
      cases reached : c.mesh.balancer.reaches (c.selecting asked client draw) with
      | true =>
        have written := Balancer.selectorOf?_selection coherent reached name
        by_cases own : asked = name
        · subst own
          refine .inr ⟨client, draw, rfl, reached, left.trans (written.trans ?_)⟩
          exact if_pos rfl
        · refine .inl ⟨by rw [pick?, if_neg own], left.trans (written.trans ?_)⟩
          exact if_neg own
      | false =>
        have missed := Balancer.selectorOf?_selection_of_not_reaches reached name
        refine .inl ⟨?_, left.trans missed⟩
        rw [pick?]
        split
        case isFalse => rfl
        case isTrue own =>
          subst own
          cases chosen : (c.select asked client draw).1 with
          | error => rfl
          | ok r => exact nomatch reached.symm.trans (reaches_of_chosen coherent chosen)
    · have other : ∀ asked client draw, op ≠ .select asked client draw :=
        fun asked client draw same => selection ⟨asked, client, draw, same⟩
      refine .inl ⟨?_, ?_⟩
      · cases op with
        | select asked client draw => exact absurd rfl (other asked client draw)
        | _ => rfl
      · rw [selectorOf?, Balancer.selectorOf?, remembered_call made other name]
        rfl
  · refine .inl ⟨?_, ?_⟩
    · cases h with
      | elapse => rfl
      | act a =>
        cases a with
        | call op =>
          have takes := waits op rfl
          cases op with
          | select => cases takes
          | _ => rfl
        | _ => rfl
    · rw [selectorOf?, (Prod.mk.inj same).1]
      rfl

/-- Whatever happens, the selector of a name takes its course. -/
theorem course (attached : c.mesh.Attached) (coherent : c.mesh.balancer.Coherent) (name : String)
    (h : Happening) : Course c name ((c.happen h).selectorOf? name) (c.pick? name h) := by
  rcases selectorOf?_happen attached coherent name h with
    ⟨unpicked, same⟩ | ⟨client, draw, rfl, reached, left⟩
  · rw [unpicked]
    exact .rests same
  · rw [left]
    exact course_reached coherent reached

/-! ## Lifetimes -/

/-- A cursor is moved by picks only, and by one. -/
theorem Course.cursor_le {left : Option Selector} {pick : Option Pick} {far : Nat}
    (course : Course c name left pick)
    (start : ∀ cursor, c.selectorOf? name = some (.roundRobin cursor) → cursor.toNat ≤ far)
    {cursor : UInt64} (here : left = some (.roundRobin cursor)) :
    cursor.toNat ≤ far + pick.toList.length := by
  cases course with
  | rests same => exact start cursor (same.symm.trans here)
  | strays other lost => exact absurd here (lost cursor)
  | turns former reached turn moved =>
    have next : former + 1 = cursor :=
      Selector.roundRobin.inj (Option.some.inj (moved.symm.trans here))
    have before : former.toNat ≤ far := by
      rcases reached with known | ⟨-, rfl⟩
      · exact start former known
      · exact Nat.zero_le far
    rw [← next]
    exact (toNat_cursor_le former).trans (Nat.add_le_add_right before 1)

/-- A cursor has come at most as far as there were picks. -/
theorem cursor_le (attached : c.mesh.Attached) (coherent : c.mesh.balancer.Coherent) (far : Nat)
    (start : ∀ cursor, c.selectorOf? name = some (.roundRobin cursor) → cursor.toNat ≤ far)
    (life : List Happening) {cursor : UInt64}
    (here : (c.lived life).selectorOf? name = some (.roundRobin cursor)) :
    cursor.toNat ≤ far + (c.picks name life).length := by
  induction life generalizing c far with
  | nil => exact start cursor here
  | cons h rest ih =>
    rw [picks, List.length_append, ← Nat.add_assoc]
    exact ih (attached_happen attached h) (coherent_happen attached coherent h) _
      (fun _ => (course attached coherent name h).cursor_le start) here

/-- Without picks the cursor of a name stays where it is, or the name has none. -/
theorem idle (attached : c.mesh.Attached) (coherent : c.mesh.balancer.Coherent)
    {life : List Happening} (unpicked : c.picks name life = []) {cursor : UInt64}
    (here : (c.lived life).selectorOf? name = some (.roundRobin cursor)) :
    c.selectorOf? name = some (.roundRobin cursor) := by
  induction life generalizing c with
  | nil => exact here
  | cons h rest ih =>
    obtain ⟨unpicked, others⟩ := List.append_eq_nil_iff.mp unpicked
    have before := ih (attached_happen attached h) (coherent_happen attached coherent h) others here
    have course := course attached coherent name h
    rw [Option.toList_eq_nil_iff.mp unpicked] at course
    cases course with
    | rests same => exact same.symm.trans before
    | strays other lost => exact absurd before (lost cursor)

/-- A pick under round robin takes its turn. -/
theorem Course.turn {left : Option Selector} {p : Pick} (course : Course c name left (some p))
    (rotates : p.algorithm = .roundRobin) :
    ∃ cursor, (c.selectorOf? name = some (.roundRobin cursor) ∨ p.kept = false ∧ cursor = 0) ∧
      p.candidates[cursor.toNat % p.candidates.length]? = some p.chosen ∧
      left = some (.roundRobin (cursor + 1)) := by
  cases course with
  | turns cursor reached turn moved => exact ⟨cursor, reached, turn, moved⟩
  | strays other lost => exact absurd rotates (other p rfl)

/-- The first pick of a lifetime takes its turn, and the others come after it. -/
theorem first_turn (attached : c.mesh.Attached) (coherent : c.mesh.balancer.Coherent)
    {life : List Happening} {p : Pick} {rest : List Pick} (picked : c.picks name life = p :: rest)
    (rotates : p.algorithm = .roundRobin) :
    ∃ cursor, (c.selectorOf? name = some (.roundRobin cursor) ∨ p.kept = false ∧ cursor = 0) ∧
      p.candidates[cursor.toNat % p.candidates.length]? = some p.chosen ∧
      ∃ (next : Coordinator) (after : List Happening), next.mesh.Attached ∧
        next.mesh.balancer.Coherent ∧ next.selectorOf? name = some (.roundRobin (cursor + 1)) ∧
        next.picks name after = rest := by
  obtain ⟨before, h, after, rfl, unpicked, pick, later⟩ := picks_eq_cons picked
  have attached' := attached_of_lived attached before
  have coherent' := coherent_of_lived attached coherent before
  have course := course attached' coherent' name h
  rw [pick] at course
  obtain ⟨cursor, reached, turn, moved⟩ := course.turn rotates
  exact ⟨cursor, reached.imp_left (idle attached coherent unpicked), turn, _, after,
    attached_happen attached' h, coherent_happen attached' coherent' h, moved, later⟩

/-- Picks that follow one another, without a new selector after the first, take their turns from
the place of the first on. -/
theorem picks_in_turn (attached : c.mesh.Attached) (coherent : c.mesh.balancer.Coherent)
    {life : List Happening} {p : Pick} {rest : List Pick} (picked : c.picks name life = p :: rest)
    (rotates : ∀ q ∈ p :: rest, q.algorithm = .roundRobin ∧ q.candidates = ids)
    (kept : ∀ q ∈ rest, q.kept = true) :
    ∃ cursor, (c.selectorOf? name = some (.roundRobin cursor) ∨ p.kept = false ∧ cursor = 0) ∧
      (cursor.toNat + (p :: rest).length < 2 ^ 64 →
        (p :: rest).map (some ·.chosen) =
          (turns cursor.toNat (p :: rest).length ids.length).map (ids[·]?)) := by
  induction rest generalizing c p life with
  | nil =>
    obtain ⟨rotates, among⟩ := rotates p List.mem_cons_self
    obtain ⟨cursor, known, turn, -⟩ := first_turn attached coherent picked rotates
    refine ⟨cursor, known, fun _ => ?_⟩
    rw [← among, List.map_singleton, ← turn]
    rfl
  | cons q rest ih =>
    obtain ⟨⟨rotates, among⟩, others⟩ := List.forall_mem_cons.mp rotates
    obtain ⟨old, still⟩ := List.forall_mem_cons.mp kept
    obtain ⟨cursor, known, turn, next, after, attached', coherent', moved, later⟩ :=
      first_turn attached coherent picked rotates
    obtain ⟨reached, here, around⟩ := ih attached' coherent' later others still
    -- The second pick asks what the first one has left, for its selector was kept.
    have same : reached = cursor + 1 := by
      rcases here with here | ⟨new, -⟩
      · exact Selector.roundRobin.inj (Option.some.inj (here.symm.trans moved))
      · exact nomatch old.symm.trans new
    refine ⟨cursor, known, fun fits => ?_⟩
    rw [List.length_cons] at fits
    have step : reached.toNat = cursor.toNat + 1 := same ▸ toNat_cursor (by omega)
    rw [List.map_cons, around (by omega), List.length_cons (a := p), turns_succ,
      List.map_cons, ← turn, among, step]

/-- Picks in a window go around from some place on, wherever earlier picks have left the
cursor. -/
theorem picks_around (config : Config) (before : List Happening) {window : List Happening}
    {picks : List Pick} (picked : ((fresh config).lived before).picks name window = picks)
    (few : ((fresh config).picks name before).length + picks.length < 2 ^ 64)
    (rotates : ∀ p ∈ picks, p.algorithm = .roundRobin ∧ p.candidates = ids)
    (kept : ∀ p ∈ picks.tail, p.kept = true) :
    ∃ offset, picks.map (some ·.chosen) =
      (turns offset picks.length ids.length).map (ids[·]?) := by
  cases picks with
  | nil => exact ⟨0, rfl⟩
  | cons p rest =>
    obtain ⟨cursor, known, around⟩ := picks_in_turn (attached_lived config before)
      (coherent_lived config before) picked rotates kept
    have far : cursor.toNat ≤ ((fresh config).picks name before).length := by
      rcases known with known | ⟨-, rfl⟩
      · have reached := cursor_le (attached_fresh config) (coherent_lived config []) 0
          (fun _ kept => nomatch kept) before known
        rwa [Nat.zero_add] at reached
      · exact Nat.zero_le _
    exact ⟨cursor.toNat, around (by omega)⟩

/-! ## Fairness -/

/-- Each of some different ids is met as often as its place. -/
theorem count_map_getElem? (nodup : ids.Nodup) {x : Nat} (there : x < ids.length)
    (places : List Nat) : (places.map (ids[·]?)).count (some ids[x]) = places.count x := by
  rw [List.count, List.countP_map]
  refine List.countP_congr fun y _ => ?_
  have same : ids[x]? = ids[y]? ↔ x = y := List.getElem?_inj there nodup
  rw [Function.comp_apply, beq_iff_eq, beq_iff_eq, ← List.getElem?_eq_getElem there, eq_comm, same,
    eq_comm]

theorem nodup_of_mem_picks (attached : c.mesh.Attached) {life : List Happening} {p : Pick}
    (picked : p ∈ c.picks name life) : p.candidates.Nodup := by
  induction life generalizing c with
  | nil => cases picked
  | cons h rest ih =>
    rcases List.mem_append.mp picked with first | later
    · have pick := Option.mem_toList.mp first
      unfold pick? at pick
      split at pick
      · split at pick
        · obtain ⟨r, -, rfl⟩ := Option.map_eq_some_iff.mp pick
          exact nodup_candidateIds attached name
        · cases pick
      · cases pick
    · exact ih (attached_happen attached h) later

/-- Round robin is fair in every window. Whatever happened before, and whatever happens between
them, picks of a name that follow one another under round robin, among the same candidates and
without a new selector after the first, go around the candidates in the order of their
registrations. Each candidate is picked as often as the others, up to one, and just as often if
the rounds are whole. -/
theorem round_robin_is_fair (config : Config) (before window : List Happening) (name : String)
    (ids : List String)
    (few : ((fresh config).picks name (before ++ window)).length < 2 ^ 64)
    (rotates : ∀ p ∈ ((fresh config).lived before).picks name window,
      p.algorithm = .roundRobin ∧ p.candidates = ids)
    (kept : ∀ p ∈ (((fresh config).lived before).picks name window).tail, p.kept = true) :
    let chosen := (((fresh config).lived before).picks name window).map Pick.chosen
    (∃ offset, ∀ i id, chosen[i]? = some id → ids[(offset + i) % ids.length]? = some id) ∧
    (∀ id ∈ ids,
      (chosen.count id = chosen.length / ids.length ∨
        chosen.count id = chosen.length ⌈/⌉ ids.length) ∧
      (ids.length ∣ chosen.length → chosen.count id = chosen.length / ids.length)) ∧
    ∀ life, (((fresh config).lived life).candidateIds name).Sublist
      ((fresh config).enrolled name [] life) := by
  intro chosen
  rw [picks_append, List.length_append] at few
  obtain ⟨offset, around⟩ := picks_around config before rfl few rotates kept
  have around : chosen.map some = (turns offset chosen.length ids.length).map (ids[·]?) := by
    rw [List.map_map, List.length_map]
    exact around
  refine ⟨⟨offset, fun i id here => ?_⟩, fun id there => ?_,
    fun life => candidateIds_sublist config life name⟩
  · have inside := (List.getElem?_eq_some_iff.mp here).1
    have place : (chosen.map some)[i]? = some (some id) := by rw [List.getElem?_map, here]; rfl
    rw [around, List.getElem?_map, turns, List.getElem?_map, List.getElem?_range' inside] at place
    simpa using place
  · obtain ⟨x, inside, rfl⟩ := List.getElem_of_mem there
    -- Without a pick nothing says that the ids differ, but nothing is counted either.
    by_cases unpicked : chosen = []
    · rw [unpicked]
      simp
    · obtain ⟨id, picked⟩ := List.exists_mem_of_ne_nil chosen unpicked
      obtain ⟨p, picked, -⟩ := List.mem_map.mp picked
      have nodup : ids.Nodup :=
        (rotates p picked).2 ▸ nodup_of_mem_picks (attached_lived config before) picked
      have counted : chosen.count ids[x] = (turns offset chosen.length ids.length).count x := by
        rw [← count_map_getElem? nodup inside, ← around]
        exact (List.count_map_of_injective chosen some (Option.some_injective _) _).symm
      rw [counted]
      exact ⟨count_turns_floor_or_ceil offset _ inside, count_turns_of_dvd offset inside⟩

/-- Two instances take their turns, the second one first, for the first one was selected before
the second one came. Selections of another name and of an unknown one, and a report, come
between. -/
theorem round_robin_is_fair_of_two :
    let register (name id : String) : Happening := .act (.call (.register
      { serviceName := name, id, endpoint := "127.0.0.1", port := 8080 }))
    let select (name : String) : Happening := .act (.call (.select name none 0))
    let before := [register "svc" "a", select "svc", register "other" "c", register "svc" "b"]
    let window := [select "svc", select "other", .act (.call (.report "a" (.ofMillis 5) true)),
      select "svc", select "unknown", select "svc", .elapse 1, select "svc"]
    let chosen := (((fresh {}).lived before).picks "svc" window).map Pick.chosen
    chosen.length = 4 ∧ chosen[0]? = some "b" ∧ chosen.count "a" = 4 / 2 ∧
      (["a", "b"] : List String).Sublist ((fresh {}).enrolled "svc" [] before) := by
  intro register select before window chosen
  obtain ⟨-, fair, order⟩ := round_robin_is_fair {} before window "svc" ["a", "b"]
    (by decide +kernel) (by decide +kernel) (by decide +kernel)
  have four : chosen.length = 4 := by decide +kernel
  refine ⟨four, by decide +kernel, ?_, ?_⟩
  · have half := (fair "a" (by decide)).2 (by decide +kernel)
    rwa [four] at half
  · have now : ((fresh {}).lived before).candidateIds "svc" = ["a", "b"] := by decide +kernel
    exact now ▸ order before

end Coordinator

end ServiceMesh
