import Mathlib.Algebra.Order.BigOperators.Group.List
import Mathlib.Algebra.Order.Group.Nat
import ServiceMesh.Proofs.Balancer.Counts
import ServiceMesh.Proofs.Balancer.Desk

/-!
# How far loads are apart

Least connections give out the candidate with the fewest open selections, and give it one more.
Two numbers of open selections are so never driven further apart than by one. The greatest number
stays the greatest until the others have reached it: what they lack falls by one with each
selection, and when nothing is lacking, the numbers differ by at most one for good.

The numbers are held in words. A word that is full begins anew, and since the fewest are raised
first, that happens only when all words are full.
-/

namespace ServiceMesh

/-! ## Numbers -/

/-- The greatest of some numbers. -/
def greatest (numbers : List Nat) : Nat := numbers.max?.getD 0

/-- The least of some numbers. -/
def least (numbers : List Nat) : Nat := numbers.min?.getD 0

/-- How far the greatest and the least of some numbers are apart. -/
def gap (numbers : List Nat) : Nat := greatest numbers - least numbers

/-- What some numbers lack together to reach a limit. -/
def lackTo (limit : Nat) (numbers : List Nat) : Nat := (numbers.map (limit - ·)).sum

/-- What the others lack together to reach the greatest of some numbers. -/
def lack (numbers : List Nat) : Nat := lackTo (greatest numbers) numbers

/-- How often numbers can be raised together until all words for them are full. -/
def room (numbers : List Nat) : Nat := lackTo (2 ^ 64 - 1) numbers

variable {numbers : List Nat} {i limit : Nat}

private theorem le_greatest {n : Nat} (there : n ∈ numbers) : n ≤ greatest numbers := by
  cases found : numbers.max? with
  | none =>
    rw [List.max?_eq_none_iff.mp found] at there
    cases there
  | some top =>
    rw [greatest, found]
    exact (List.max?_eq_some_iff.mp found).2 n there

private theorem greatest_le (bounded : ∀ n ∈ numbers, n ≤ limit) : greatest numbers ≤ limit := by
  cases found : numbers.max? with
  | none =>
    rw [greatest, found]
    exact Nat.zero_le limit
  | some top =>
    rw [greatest, found]
    exact bounded top (List.max?_eq_some_iff.mp found).1

theorem gap_le_iff {distance : Nat} :
    gap numbers ≤ distance ↔ ∀ n ∈ numbers, ∀ m ∈ numbers, n ≤ m + distance := by
  cases top : numbers.max? with
  | none =>
    rw [List.max?_eq_none_iff.mp top]
    exact ⟨fun _ => nofun, fun _ => Nat.zero_le _⟩
  | some high =>
    obtain ⟨hasHigh, upper⟩ := List.max?_eq_some_iff.mp top
    cases bottom : numbers.min? with
    | none =>
      rw [List.min?_eq_none_iff.mp bottom] at hasHigh
      cases hasHigh
    | some low =>
      obtain ⟨hasLow, lower⟩ := List.min?_eq_some_iff.mp bottom
      rw [gap, greatest, least, top, bottom, Option.getD_some, Option.getD_some]
      constructor
      · intro near n hn m hm
        have := upper n hn
        have := lower m hm
        omega
      · intro near
        have := near high hasHigh low hasLow
        omega

/-- Before the words are full, there is room for all that is lacking. -/
theorem lack_le_room (words : ∀ n ∈ numbers, n < 2 ^ 64) : lack numbers ≤ room numbers := by
  have top : greatest numbers ≤ 2 ^ 64 - 1 := by
    apply greatest_le
    intro n there
    exact Nat.le_pred_of_lt (words n there)
  apply List.sum_le_sum
  intro n there
  exact Nat.sub_le_sub_right top n

private theorem modify_congr {f g : Nat → Nat} {n : Nat} (here : numbers[i]? = some n)
    (same : f n = g n) : numbers.modify i f = numbers.modify i g := by
  apply List.ext_getElem?
  intro j
  rw [List.getElem?_modify, List.getElem?_modify]
  split
  case isTrue own =>
    rw [← own, here]
    exact congrArg some same
  case isFalse => rfl

/-- What is in a list with one number raised. -/
theorem mem_raised {n : Nat} (there : n ∈ numbers.modify i (· + 1)) :
    n ∈ numbers ∨ ∃ m, numbers[i]? = some m ∧ n = m + 1 := by
  obtain ⟨j, found⟩ := List.mem_iff_getElem?.mp there
  rw [List.getElem?_modify, Option.map_eq_map, Option.map_eq_some_iff] at found
  obtain ⟨m, old, rfl⟩ := found
  split
  case isTrue same => exact .inr ⟨m, same ▸ old, rfl⟩
  case isFalse => exact .inl (List.mem_of_getElem? old)

/-- Raising a number that is below the limit takes one away from what is lacking. -/
theorem lackTo_raised {n : Nat} (here : numbers[i]? = some n) (below : n < limit) :
    lackTo limit (numbers.modify i (· + 1)) + 1 = lackTo limit numbers := by
  induction numbers generalizing i with
  | nil => cases here
  | cons first rest ih =>
    cases i with
    | zero =>
      cases here
      simp only [lackTo, List.modify_zero_cons, List.map_cons, List.sum_cons]
      omega
    | succ i =>
      have step := ih here
      simp only [lackTo, List.modify_succ_cons, List.map_cons, List.sum_cons] at step ⊢
      omega

private theorem eq_limit_of_lackTo_eq_zero (bounded : ∀ n ∈ numbers, n ≤ limit)
    (full : lackTo limit numbers = 0) : ∀ n ∈ numbers, n = limit := by
  intro n there
  have nothing : limit - n = 0 :=
    List.sum_eq_zero_iff.mp full _ (List.mem_map_of_mem there)
  have := bounded n there
  omega

/-- Numbers that lack nothing are not apart. -/
theorem gap_eq_zero (bounded : ∀ n ∈ numbers, n ≤ limit) (full : lackTo limit numbers = 0) :
    gap numbers = 0 := by
  have same := eq_limit_of_lackTo_eq_zero bounded full
  refine Nat.le_zero.mp (gap_le_iff.mpr fun n hn m hm => ?_)
  rw [same n hn, same m hm]
  exact Nat.le_refl _

namespace FirstLeast

theorem le (first : FirstLeast numbers i) {n m : Nat} (here : numbers[i]? = some n)
    (there : m ∈ numbers) : n ≤ m := by
  obtain ⟨k, found, lower, -⟩ := first
  cases here.symm.trans found
  obtain ⟨j, listed⟩ := List.mem_iff_getElem?.mp there
  exact lower j m listed

/-- Raising the least of some numbers drives no two of them further apart than by one. -/
theorem gap_raised_le (first : FirstLeast numbers i) :
    gap (numbers.modify i (· + 1)) ≤ max 1 (gap numbers) := by
  have near := gap_le_iff.mp (Nat.le_refl (gap numbers))
  rw [gap_le_iff]
  intro n hn m hm
  have raised : ∃ m' ∈ numbers, m' ≤ m := by
    rcases mem_raised hm with old | ⟨k, here, rfl⟩
    · exact ⟨m, old, Nat.le_refl m⟩
    · exact ⟨k, List.mem_of_getElem? here, Nat.le_succ k⟩
  obtain ⟨m', old, below⟩ := raised
  rcases mem_raised hn with old' | ⟨k, here, rfl⟩
  · have := near n old' m' old
    omega
  · have := first.le here old
    omega

/-- As long as something is lacking, the least number is below the limit. -/
theorem lt_limit (first : FirstLeast numbers i) {n : Nat} (here : numbers[i]? = some n)
    (lacking : lackTo limit numbers ≠ 0) : n < limit := by
  by_contra reached
  apply lacking
  apply List.sum_eq_zero_iff.mpr
  intro x listed
  obtain ⟨m, there, rfl⟩ := List.mem_map.mp listed
  have := first.le here there
  omega

/-- As long as something is lacking, raising the least number keeps to the limit. -/
theorem raised_le (first : FirstLeast numbers i) (bounded : ∀ n ∈ numbers, n ≤ limit)
    (lacking : lackTo limit numbers ≠ 0) :
    (∀ n ∈ numbers.modify i (· + 1), n ≤ limit) ∧
      lackTo limit (numbers.modify i (· + 1)) + 1 = lackTo limit numbers := by
  obtain ⟨k, here, -⟩ := id first
  have below := first.lt_limit here lacking
  refine ⟨fun n hn => ?_, lackTo_raised here below⟩
  rcases mem_raised hn with old | ⟨k', here', rfl⟩
  · exact bounded n old
  · cases here.symm.trans here'
    exact below

end FirstLeast

/-! ## Desks of least connections -/

namespace Desk

variable {d : Desk}

/-- The numbers of open selections of the candidates. -/
def opened (d : Desk) : List Nat := d.candidates.map Candidate.opened

/-- The first candidate with the fewest open selections is given out, and its word counts one more
then. -/
theorem serve_leastConnections (counts : d.selector = .leastConnections)
    (offers : d.candidates ≠ []) (q : Demand) :
    ∃ i, d.answer q = some i ∧ FirstLeast d.opened i ∧
      (d.serve q).opened = d.opened.modify i fun n => (n + 1) % 2 ^ 64 := by
  have ringless : d.selector.algorithm ≠ .consistentHash := by
    rw [counts]
    exact nofun
  obtain ⟨i, -, answered⟩ := answer_of_ringless ringless offers q
  have chosen : Selector.leastLoaded? d.candidates = some i := by
    rw [answer, counts] at answered
    exact answered
  exact ⟨i, answered, Selector.firstLeast_of_leastLoaded? chosen,
    map_candidates_serve answered fun c => c.load.inFlight_start⟩

/-- As long as there is room, the candidate that is given out has one more, and one of the room is
taken. -/
theorem serve_of_room (counts : d.selector = .leastConnections) (free : 0 < room d.opened)
    (q : Demand) :
    ∃ i, d.answer q = some i ∧ FirstLeast d.opened i ∧
      (d.serve q).opened = d.opened.modify i (· + 1) ∧
      room (d.serve q).opened + 1 = room d.opened := by
  have offers : d.candidates ≠ [] := by
    intro empty
    rw [opened, empty] at free
    exact Nat.lt_irrefl 0 free
  obtain ⟨i, answered, first, counted⟩ := serve_leastConnections counts offers q
  obtain ⟨n, here, -⟩ := id first
  have below : n < 2 ^ 64 - 1 := first.lt_limit here free.ne'
  have raised : (d.serve q).opened = d.opened.modify i (· + 1) := by
    rw [counted]
    exact modify_congr here (Nat.mod_eq_of_lt (by omega))
  refine ⟨i, answered, first, raised, ?_⟩
  rw [raised]
  exact lackTo_raised here below

theorem selector_serve (counts : d.selector = .leastConnections) (q : Demand) :
    (d.serve q).selector = .leastConnections := by
  unfold serve
  rw [counts]
  rfl

/-- A selection drives the numbers no further apart than by one. -/
theorem gap_serve_le (counts : d.selector = .leastConnections) (free : 0 < room d.opened)
    (q : Demand) : gap (d.serve q).opened ≤ max 1 (gap d.opened) := by
  obtain ⟨i, -, first, raised, -⟩ := serve_of_room counts free q
  rw [raised]
  exact first.gap_raised_le

/-- Each selection takes one of the room. -/
theorem room_served (counts : d.selector = .leastConnections) {qs : List Demand}
    (held : qs.length ≤ room d.opened) : room (d.served qs).opened + qs.length = room d.opened := by
  induction qs generalizing d with
  | nil => rfl
  | cons q rest ih =>
    rw [List.length_cons] at held ⊢
    obtain ⟨-, -, -, -, taken⟩ := serve_of_room counts (by omega) q
    have later := ih (selector_serve counts q) (by omega)
    rw [served_cons]
    omega

/-- Numbers that differ by one at most go on to do so. -/
theorem gap_served_le_one (counts : d.selector = .leastConnections) (near : gap d.opened ≤ 1)
    {qs : List Demand} (held : qs.length ≤ room d.opened) : gap (d.served qs).opened ≤ 1 := by
  induction qs generalizing d with
  | nil => exact near
  | cons q rest ih =>
    rw [List.length_cons] at held
    have next := gap_serve_le counts (by omega) q
    obtain ⟨-, -, -, -, taken⟩ := serve_of_room counts (by omega) q
    exact ih (selector_serve counts q) (by omega) (by omega)

/-- After as many selections as the numbers lack to a limit, they differ by one at most. -/
theorem gap_served_le_one_of_lack (counts : d.selector = .leastConnections) {limit : Nat}
    (bounded : ∀ n ∈ d.opened, n ≤ limit) {qs : List Demand} (held : qs.length ≤ room d.opened)
    (enough : lackTo limit d.opened ≤ qs.length) : gap (d.served qs).opened ≤ 1 := by
  induction qs generalizing d with
  | nil =>
    have level := gap_eq_zero bounded (Nat.le_zero.mp enough)
    exact level.trans_le (Nat.zero_le 1)
  | cons q rest ih =>
    by_cases lacking : lackTo limit d.opened = 0
    · have level := gap_eq_zero bounded lacking
      exact gap_served_le_one counts (level.trans_le (Nat.zero_le 1)) held
    · rw [List.length_cons] at held enough
      obtain ⟨i, -, first, raised, taken⟩ := serve_of_room counts (by omega) q
      obtain ⟨still, less⟩ := first.raised_le bounded lacking
      rw [← raised] at still less
      exact ih (selector_serve counts q) still (by omega) (by omega)

theorem selector_served (counts : d.selector = .leastConnections) (qs : List Demand) :
    (d.served qs).selector = .leastConnections := by
  induction qs generalizing d with
  | nil => exact counts
  | cons q rest ih => exact ih (selector_serve counts q)

theorem length_candidates_served (d : Desk) (qs : List Demand) :
    (d.served qs).candidates.length = d.candidates.length := by
  induction qs generalizing d with
  | nil => rfl
  | cons q rest ih => exact (ih (d.serve q)).trans (d.length_candidates_serve q)

end Desk

/-- The numbers at the desk of a balancer are those of the balancer. -/
theorem Balancer.opened_desk (b : Balancer) (name : String) (rs : List Record) :
    (b.desk name rs).opened = rs.map fun r => b.inFlight r.id := by
  rw [Desk.opened, desk, offered, List.map_map]
  rfl

/-- Under least connections every name has a selector without any state. -/
theorem Balancer.Coherent.desk_eq {b : Balancer} (h : b.Coherent)
    (counts : b.config.algorithm = .leastConnections) (name : String) (rs : List Record) :
    b.desk name rs = ⟨.leastConnections, b.offered rs⟩ := by
  have algorithm := (h.group name).2.2.algorithm
  rw [counts] at algorithm
  rw [desk]
  cases selector : (b.group name).selector with
  | leastConnections => rfl
  | _ =>
    rw [selector] at algorithm
    cases algorithm

/-- Least connections balance. Whatever the open selections of some candidates are and however
many selections there were, the next one gives out the first candidate with the fewest of them, and
its word counts one more then. As long as not all words are full, so for as many selections as there
is room for, the candidate has one more then, and the gap between the greatest and the least number
does not grow beyond one. It is one at most as soon as there were as many selections as the
candidates lacked together to the greatest number at the beginning. A balancer that gives out
instances of a name, while the same ones are fit, does just that with their loads. -/
theorem least_connections_balance :
    (∀ (cs : List Candidate) (earlier : List Demand) (q : Demand),
      let d := (Desk.mk .leastConnections cs).served earlier
      let start := cs.map Candidate.opened
      (cs ≠ [] → ∃ i, d.answer q = some i ∧ FirstLeast d.opened i ∧
        (d.serve q).opened = d.opened.modify i fun n => (n + 1) % 2 ^ 64) ∧
      (0 < room d.opened → ∃ i, d.answer q = some i ∧ FirstLeast d.opened i ∧
        (d.serve q).opened = d.opened.modify i (· + 1) ∧
        gap (d.serve q).opened ≤ max 1 (gap d.opened)) ∧
      lack start ≤ room start ∧
      (earlier.length ≤ room start → room d.opened + earlier.length = room start) ∧
      (earlier.length ≤ room start → lack start ≤ earlier.length → gap d.opened ≤ 1)) ∧
    ∀ (b : Balancer) (name : String) (rs : List Record) (selectings : List Selecting),
      b.Lends rs → b.config.algorithm = .leastConnections →
      (∀ s ∈ selectings, b.From name rs s) →
      let d := Desk.mk .leastConnections (b.offered rs)
      let demands := selectings.map Selecting.demand
      b.given selectings = (d.answers demands).map (·.bind (rs[·]?)) ∧
        rs.map (fun r => (b.called (selectings.map .select)).inFlight r.id) =
          (d.served demands).opened := by
  refine ⟨fun cs earlier q => ?_, fun b name rs selectings lends counts among => ?_⟩
  · intro d start
    have fresh : (Desk.mk .leastConnections cs).selector = .leastConnections := rfl
    have counts : d.selector = .leastConnections := Desk.selector_served fresh earlier
    refine ⟨fun offers => Desk.serve_leastConnections counts ?_ q, fun free => ?_,
      lack_le_room ?_, Desk.room_served fresh,
      Desk.gap_served_le_one_of_lack fresh fun n => le_greatest⟩
    · rw [← List.length_pos_iff, Desk.length_candidates_served]
      exact List.length_pos_iff.mpr offers
    · obtain ⟨i, answered, first, raised, -⟩ := Desk.serve_of_room counts free q
      exact ⟨i, answered, first, raised, Desk.gap_serve_le counts free q⟩
    · intro n listed
      obtain ⟨c, -, rfl⟩ := List.mem_map.mp listed
      exact c.load.inFlight_lt
  · have ringless : b.config.algorithm ≠ .consistentHash := by
      rw [counts]
      exact nofun
    obtain ⟨given, left⟩ := Balancer.given_eq lends ringless among
    rw [lends.coherent.desk_eq counts] at given left
    exact ⟨given, by rw [← left, Balancer.opened_desk]⟩

/-- Three instances with three, no and one open selection lack five together. Five selections are
enough for them to differ by one at most. A balancer gives out two instances in turn. -/
theorem least_connections_balance_of_three :
    let record (id : String) : Record :=
      { serviceName := "svc", id, endpoint := "127.0.0.1", port := 8080, status := .healthy }
    let candidate (id : String) (pending : UInt64) : Candidate :=
      { record := record id, load := { pending } }
    let cs := [candidate "a" 3, candidate "b" 0, candidate "c" 1]
    let d := (Desk.mk .leastConnections cs).served (List.replicate 5 ⟨{}, 0⟩)
    let b := ((Balancer.ofConfig { algorithm := .leastConnections }).track "a").track "b"
    let s : Selecting :=
      { store := ((({} : Store).register (record "a")).2.register (record "b")).2
        bank := {}, now := 0, name := "svc", client := none, draw := 0 }
    lack (cs.map Candidate.opened) = 5 ∧ gap d.opened ≤ 1 ∧
    (∃ i, d.answer ⟨{}, 0⟩ = some i ∧ FirstLeast d.opened i ∧
      (d.serve ⟨{}, 0⟩).opened = d.opened.modify i fun n => (n + 1) % 2 ^ 64) ∧
    gap (d.serve ⟨{}, 0⟩).opened ≤ max 1 (gap d.opened) ∧
    (b.given [s, s]).map (·.map Record.id) = [some "a", some "b"] := by
  intro record candidate cs d b s
  obtain ⟨desks, balancers⟩ := least_connections_balance
  obtain ⟨first, step, -, left, near⟩ := desks cs (List.replicate 5 ⟨{}, 0⟩) ⟨{}, 0⟩
  have held : 5 ≤ room (cs.map Candidate.opened) := by decide +kernel
  have much : 5 < room (cs.map Candidate.opened) := by decide +kernel
  have free : room d.opened + 5 = room (cs.map Candidate.opened) := left held
  obtain ⟨-, -, -, -, spread⟩ := step (show 0 < room d.opened by omega)
  have lends : b.Lends (b.candidates s) :=
    ⟨((Balancer.Coherent.ofConfig _).track "a").track "b", by decide +kernel, by decide +kernel⟩
  have among : ∀ s' ∈ [s, s], b.From "svc" (b.candidates s) s' := by
    intro s' listed
    have same : s' = s := by simpa using listed
    subst same
    exact ⟨rfl, by decide +kernel, rfl⟩
  obtain ⟨given, -⟩ := balancers b "svc" _ [s, s] lends rfl among
  refine ⟨by decide +kernel, near held (by decide +kernel),
    first (List.cons_ne_nil _ _), spread, ?_⟩
  rw [given]
  decide +kernel

end ServiceMesh
