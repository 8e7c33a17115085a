import Mathlib.Algebra.BigOperators.Group.Finset.Piecewise
import Mathlib.Algebra.Order.BigOperators.Group.List
import Mathlib.Algebra.Order.Group.Nat
import Mathlib.Algebra.Ring.Nat
import ServiceMesh.Coordinator.Summary
import ServiceMesh.Proofs.Balancer.Counts
import ServiceMesh.Proofs.Coordinator.Attached
import ServiceMesh.Proofs.Coordinator.Ledger
import ServiceMesh.Proofs.Metrics

/-!
# Counters and the ledger

The same selections and reports are counted in several places: in the statistics of a name, in
the load of an instance, in the summary of the node and in its metrics. Each counter begins at
another moment, and each agrees with the ledger: statistics begin with the first selection
from a name, and the load of an instance begins with its registration. Counts are words of 64 bits,
so they agree up to multiples of `2 ^ 64`, and exactly as long as the ledger is not longer.
-/

namespace ServiceMesh

/-! ## Statistics -/

/-- The statistics of a name agree with a ledger, as far as words can. -/
structure Statistics.Agrees (s : Statistics) (L : Ledger) (name : String) : Prop where
  named : s.serviceName = name
  total : s.total = L.selections name % 2 ^ 64
  succeeded : s.succeeded = L.reports name true % 2 ^ 64
  failed : s.failed = L.reports name false % 2 ^ 64
  latest : ∃ id, s.lastSelected = some id ∧ L.latest? name = some (id, s.algorithm)

/-- A name has statistics from the first selection on, and they agree with the ledger. -/
def Ledger.Accounts (L : Ledger) (name : String) : Option Statistics → Prop
  | none => L.selections name = 0
  | some s => 0 < L.selections name ∧ s.Agrees L name

namespace Ledger.Accounts

variable {L : Ledger} {name id : String} {stats : Option Statistics}

/-- An entry that is not about a name. -/
theorem keep (h : L.Accounts name stats) {e : Entry} (selects : e.selects name = false)
    (chooses : e.choice? name = none) (reports : ∀ success, e.reports name success = false) :
    Ledger.Accounts (L ++ [e]) name stats := by
  have selections : Ledger.selections (L ++ [e]) name = L.selections name := by
    rw [selections_snoc, selects]
    rfl
  have counted : ∀ success, Ledger.reports (L ++ [e]) name success = L.reports name success := by
    intro success
    rw [reports_snoc, reports]
    simp
  cases stats with
  | none => exact selections.trans h
  | some s =>
    obtain ⟨pos, agrees⟩ := h
    refine ⟨selections.symm ▸ pos, agrees.named, ?_, ?_, ?_, ?_⟩
    · rw [selections, agrees.total]
    · rw [counted, agrees.succeeded]
    · rw [counted, agrees.failed]
    · rw [latest?_snoc, chooses, Option.none_or]
      exact agrees.latest

/-- One more selection from a name. The first one begins its statistics. -/
theorem select (h : L.Accounts name stats) (id : String) (algorithm : Algorithm) :
    Ledger.Accounts (L ++ [.selected name id algorithm]) name
      (some ((stats.getD { serviceName := name, algorithm }).addSelection id algorithm)) := by
  have selections : Ledger.selections (L ++ [.selected name id algorithm]) name =
      L.selections name + 1 := by
    rw [selections_snoc, Entry.selects, beq_self_eq_true, if_pos rfl]
  have counted : ∀ success, Ledger.reports (L ++ [.selected name id algorithm]) name success =
      L.reports name success := by
    intro success
    rw [reports_snoc]
    simp [Entry.reports]
  have latest :
      Ledger.latest? (L ++ [.selected name id algorithm]) name = some (id, algorithm) := by
    rw [latest?_snoc, Entry.choice?, if_pos rfl, Option.some_or]
  refine ⟨by rw [selections]; exact Nat.succ_pos _, ?_⟩
  cases stats with
  | none =>
    have unselected : L.selections name = 0 := h
    refine ⟨rfl, ?_, ?_, ?_, id, rfl, latest⟩
    · rw [selections, unselected]
      rfl
    · rw [counted, reports_of_unselected unselected]
      rfl
    · rw [counted, reports_of_unselected unselected]
      rfl
  | some s =>
    obtain ⟨-, agrees⟩ := h
    refine ⟨agrees.named, ?_, ?_, ?_, id, rfl, latest⟩
    · rw [selections, Option.getD_some, Statistics.total_addSelection, agrees.total,
        Nat.mod_add_mod]
    · rw [counted, ← agrees.succeeded]
      rfl
    · rw [counted, ← agrees.failed]
      rfl

/-- One more report on an instance of a name. Before the first selection it is not counted. -/
theorem report (h : L.Accounts name stats) (id : String) (success : Bool) (time : Duration)
    (alpha : Float) :
    Ledger.Accounts (L ++ [.reported name id success]) name
      (stats.map fun s => s.addReport success time alpha) := by
  have selections : Ledger.selections (L ++ [.reported name id success]) name =
      L.selections name := by
    rw [selections_snoc]
    rfl
  cases stats with
  | none => exact selections.trans h
  | some s =>
    obtain ⟨pos, agrees⟩ := h
    have counted : ∀ flag, Ledger.reports (L ++ [.reported name id success]) name flag =
        L.reports name flag + if success = flag then 1 else 0 := by
      intro flag
      rw [reports_snoc]
      simp [Entry.reports, pos]
    refine ⟨selections.symm ▸ pos, agrees.named, ?_, ?_, ?_, ?_⟩
    · rw [selections, ← agrees.total]
      rfl
    · rw [counted, Statistics.succeeded_addReport, agrees.succeeded, Nat.mod_add_mod]
    · rw [counted, Statistics.failed_addReport, agrees.failed, Nat.mod_add_mod]
    · rw [latest?_snoc]
      exact agrees.latest

end Ledger.Accounts

/-! ## Loads -/

/-- The load of an instance agrees with a ledger, as far as words can. A report without a selection
leaves the count of open selections at zero, so only bounds can be said of it, and only as long as
not more selections were given out than a word can count. -/
structure Load.Agrees (l : Load) (L : Ledger) (id : String) : Prop where
  total : l.total = L.givenOut id % 2 ^ 64
  atLeast : L.givenOut id < 2 ^ 64 → l.total - L.reportsOn id ≤ l.inFlight
  atMost : L.givenOut id < 2 ^ 64 → l.inFlight ≤ l.total

namespace Load.Agrees

variable {l : Load} {L : Ledger} {e : Entry} {id : String}

/-- The load of an instance that has just been registered. -/
theorem empty (begins : e.begins id = true) : Load.Agrees {} (L ++ [e]) id where
  total := by
    rw [Ledger.givenOut_of_begins begins]
    rfl
  atLeast _ := Nat.sub_le _ _
  atMost _ := Nat.le_refl _

theorem keep (h : l.Agrees L id) (goesOn : e.begins id = false)
    (givesOut : e.givesOut id = false) (reports : e.reportsOn id = false) :
    l.Agrees (L ++ [e]) id := by
  have givenOut : Ledger.givenOut (L ++ [e]) id = L.givenOut id := by
    rw [Ledger.givenOut_snoc goesOn, givesOut]
    rfl
  have reportsOn : Ledger.reportsOn (L ++ [e]) id = L.reportsOn id := by
    rw [Ledger.reportsOn_snoc goesOn, reports]
    rfl
  constructor
  · rw [givenOut, h.total]
  · rw [givenOut, reportsOn]
    exact h.atLeast
  · rw [givenOut]
    exact h.atMost

theorem start (h : l.Agrees L id) (goesOn : e.begins id = false)
    (givesOut : e.givesOut id = true) (reports : e.reportsOn id = false) :
    l.start.Agrees (L ++ [e]) id := by
  have givenOut : Ledger.givenOut (L ++ [e]) id = L.givenOut id + 1 := by
    rw [Ledger.givenOut_snoc goesOn, givesOut]
    rfl
  have reportsOn : Ledger.reportsOn (L ++ [e]) id = L.reportsOn id := by
    rw [Ledger.reportsOn_snoc goesOn, reports]
    rfl
  -- As long as the given out ones can be counted, so can the open ones, which are not more.
  have counts : L.givenOut id + 1 < 2 ^ 64 →
      l.start.total = l.total + 1 ∧ l.start.inFlight = l.inFlight + 1 := by
    intro few
    have total := h.total
    have atMost := h.atMost (by omega)
    rw [Nat.mod_eq_of_lt (by omega)] at total
    rw [total_start, inFlight_start, Nat.mod_eq_of_lt (by omega), Nat.mod_eq_of_lt (by omega)]
    exact ⟨rfl, rfl⟩
  constructor
  · rw [givenOut, total_start, h.total, Nat.mod_add_mod]
  · rw [givenOut, reportsOn]
    intro few
    have atLeast := h.atLeast (by omega)
    obtain ⟨total, inFlight⟩ := counts few
    omega
  · rw [givenOut]
    intro few
    have atMost := h.atMost (by omega)
    obtain ⟨total, inFlight⟩ := counts few
    omega

theorem finish (h : l.Agrees L id) (goesOn : e.begins id = false)
    (givesOut : e.givesOut id = false) (reports : e.reportsOn id = true) (success : Bool)
    (time : Duration) (alpha : Float) (window : Nat) :
    (l.finish success time alpha window).Agrees (L ++ [e]) id := by
  have givenOut : Ledger.givenOut (L ++ [e]) id = L.givenOut id := by
    rw [Ledger.givenOut_snoc goesOn, givesOut]
    rfl
  have reportsOn : Ledger.reportsOn (L ++ [e]) id = L.reportsOn id + 1 := by
    rw [Ledger.reportsOn_snoc goesOn, reports]
    rfl
  constructor
  · rw [givenOut, total_finish, h.total]
  · rw [givenOut, reportsOn, total_finish, inFlight_finish]
    intro few
    have atLeast := h.atLeast few
    omega
  · rw [givenOut, total_finish, inFlight_finish]
    intro few
    exact (Nat.sub_le _ _).trans (h.atMost few)

end Load.Agrees

/-! ## What the balancer does to its counters -/

namespace Balancer

variable {b next : Balancer} {name other : String}

/-- How often a name was selected from, whatever the algorithm. -/
def selected (b : Balancer) (name : String) : Nat :=
  Tally.sumOf (fun kind => kind.1 == name) b.selections

private theorem statistics?_insert_self {g : Group}
    (groups : next.groups = b.groups.insert name g) : next.statistics? name = g.statistics := by
  rw [statistics?, groups, Table.getElem?_insert_self, Option.bind_some]

private theorem statistics?_insert_ne {g : Group} (groups : next.groups = b.groups.insert name g)
    (differ : name ≠ other) : next.statistics? other = b.statistics? other := by
  rw [statistics?, groups, Table.getElem?_insert_ne _ differ, statistics?]

private theorem statistics?_reported_self (b : Balancer) (name id : String) (time : Duration)
    (success : Bool) : (b.reported name id time success).statistics? name =
      (b.statistics? name).map fun s => s.addReport success time b.config.responseTimeAlpha := by
  change ((b.groups.update name _)[name]?).bind Group.statistics = _
  rw [Table.getElem?_update_self, statistics?]
  cases b.groups[name]? <;> rfl

private theorem statistics?_reported_ne (b : Balancer) (id : String) (time : Duration)
    (success : Bool) (differ : name ≠ other) :
    (b.reported name id time success).statistics? other = b.statistics? other := by
  change ((b.groups.update name _)[other]?).bind Group.statistics = _
  rw [Table.getElem?_update_ne _ differ, statistics?]

private theorem groups_track (b : Balancer) (id : String) : (b.track id).groups = b.groups := by
  unfold track
  split <;> rfl

private theorem selections_track (b : Balancer) (id : String) :
    (b.track id).selections = b.selections := by
  unfold track
  split <;> rfl

/-- What changes none of the counters of a balancer. -/
structure Quiet (b next : Balancer) : Prop where
  statistics : ∀ name, next.statistics? name = b.statistics? name
  loads : next.loads = b.loads
  selections : next.selections = b.selections

theorem Quiet.refl (b : Balancer) : b.Quiet b := ⟨fun _ => rfl, rfl, rfl⟩

private theorem quiet_choose {candidates : List Record} {request : Request} {draw : UInt64}
    {e : Failure} (failed : (b.choose name candidates request draw).1 = .error e) :
    b.Quiet (b.choose name candidates request draw).2 := by
  cases picked : (b.consult name candidates request draw).1.bind (candidates[·]?) with
  | some r =>
    rw [choose_of_some picked] at failed
    cases failed
  | none =>
    rw [choose_of_none picked]
    refine ⟨fun other => ?_, rfl, rfl⟩
    by_cases same : name = other
    · subst same
      rw [statistics?_insert_self rfl]
      exact b.statistics_group name
    · exact statistics?_insert_ne rfl same

/-- A selection that fails counts no selection. -/
theorem quiet_select {store : Store} {bank : Bank} {now : Moment} {client : Option String}
    {draw : UInt64} {e : Failure}
    (failed : (b.select store bank now name client draw).1 = .error e) :
    b.Quiet (b.select store bank now name client draw).2.1 := by
  rcases (b.select_leaves store bank now name client draw).1 with
    ⟨-, -, same⟩ | ⟨-, reason, -, counted⟩ | ⟨candidates, request, answer, chosen⟩
  · rw [same]
    exact .refl b
  · rw [counted]
    exact ⟨fun _ => rfl, rfl, rfl⟩
  · rw [chosen]
    rw [answer] at failed
    exact quiet_choose failed

/-- A selection that succeeds is counted for the name and for the instance. -/
theorem select_of_ok {store : Store} {bank : Bank} {now : Moment} {client : Option String}
    {draw : UInt64} {r : Record}
    (done : (b.select store bank now name client draw).1 = .ok r) :
    ∃ g, g.statistics = some (((b.statistics? name).getD
        { serviceName := name, algorithm := b.config.algorithm }).addSelection r.id
          b.config.algorithm) ∧
      (b.select store bank now name client draw).2.1 = { b with
        groups := b.groups.insert name g
        loads := b.loads.update r.id Load.start
        selections := b.selections.add (name, b.config.algorithm) } := by
  rcases (b.select_leaves store bank now name client draw).1 with
    ⟨e, failed, -⟩ | ⟨e, -, failed, -⟩ | ⟨candidates, request, answer, chosen⟩
  · exact nomatch failed.symm.trans done
  · exact nomatch failed.symm.trans done
  · rw [answer] at done
    cases picked : (b.consult name candidates request draw).1.bind (candidates[·]?) with
    | none =>
      rw [choose_of_none picked] at done
      cases done
    | some r' =>
      rw [choose_of_some picked] at done chosen
      cases done
      exact ⟨_, by rw [← b.statistics_group name], chosen⟩

end Balancer

/-! ## The counters of a node -/

/-- The counters of the parts of a node agree with a ledger. -/
structure Mesh.Balances (m : Mesh) (L : Ledger) : Prop where
  names : ∀ name, L.Accounts name (m.balancer.statistics? name)
  loads : ∀ (id : String) l, m.balancer.loads[id]? = some l → l.Agrees L id
  selected : ∀ name, m.balancer.selected name = L.selections name
  recorded : m.recordedSize = if L.any Entry.isMembership then some m.store.size else none

/-- What changes none of the counters. -/
structure Mesh.Quiet (m next : Mesh) : Prop where
  balancer : m.balancer.Quiet next.balancer
  size : next.store.size = m.store.size
  recorded : next.recordedSize = m.recordedSize

namespace Mesh

variable {m next : Mesh} {L : Ledger}

namespace Quiet

theorem of_balancer (balancer : next.balancer = m.balancer) (size : next.store.size = m.store.size)
    (recorded : next.recordedSize = m.recordedSize) : m.Quiet next :=
  ⟨balancer ▸ .refl _, size, recorded⟩

theorem refl (m : Mesh) : m.Quiet m := of_balancer rfl rfl rfl

theorem trans {last : Mesh} (first : m.Quiet next) (second : next.Quiet last) : m.Quiet last where
  balancer :=
    { statistics := fun name =>
        (second.balancer.statistics name).trans (first.balancer.statistics name)
      loads := second.balancer.loads.trans first.balancer.loads
      selections := second.balancer.selections.trans first.balancer.selections }
  size := second.size.trans first.size
  recorded := second.recorded.trans first.recorded

theorem modify (m : Mesh) (id : String) (f : Record → Record) :
    m.Quiet { m with store := m.store.modify id f } :=
  of_balancer rfl (Table.size_update _ id f) rfl

theorem noted (m : Mesh) (id : String) (outcome : Outcome) (time : Option Duration) :
    m.Quiet (m.noted id outcome time) := by
  cases time with
  | none => exact refl m
  | some t => exact of_balancer rfl (Table.size_update _ id _) rfl

theorem turned (m : Mesh) (id : String) (previous current : Status) :
    m.Quiet (m.turned id previous current) := by
  unfold Mesh.turned
  split
  · exact refl m
  · exact of_balancer rfl (Table.size_update _ id _) rfl

theorem checked (m : Mesh) (r : Record) (outcome : Outcome) (time : Option Duration)
    (config : HealthConfig) : m.Quiet (m.checked r outcome time config) := by
  have slotted : m.Quiet (m.slotted r.id (m.checkedSlot r outcome time config)) :=
    of_balancer rfl rfl rfl
  exact (slotted.trans (noted _ r.id outcome time)).trans (turned _ r.id r.status _)

end Quiet

namespace Balances

theorem quiet (h : m.Balances L) (quiet : m.Quiet next) : next.Balances L where
  names name := by
    rw [quiet.balancer.statistics]
    exact h.names name
  loads id l found := h.loads id l (quiet.balancer.loads ▸ found)
  selected name := by
    rw [Balancer.selected, quiet.balancer.selections]
    exact h.selected name
  recorded := by
    rw [quiet.recorded, quiet.size]
    exact h.recorded

theorem empty (health : HealthConfig) (balancer : BalancerConfig) :
    (Mesh.ofConfig health balancer).Balances [] where
  names _ := rfl
  loads _ _ found := nomatch found
  selected _ := rfl
  recorded := rfl

theorem register (h : m.Balances L) {r : Record} (free : m.balancer.loads[r.id]? = none)
    (balancer : next.balancer = m.balancer.track r.id)
    (recorded : next.recordedSize = some next.store.size) :
    next.Balances (L ++ [.registered r.id]) where
  names name := by
    have same : next.balancer.statistics? name = m.balancer.statistics? name := by
      rw [Balancer.statistics?, balancer, Balancer.groups_track, Balancer.statistics?]
    rw [same]
    exact (h.names name).keep rfl rfl fun _ => rfl
  loads id l found := by
    rw [balancer, Balancer.track_of_absent free] at found
    rcases Table.insert_cases found with ⟨rfl, rfl⟩ | ⟨differ, there⟩
    · exact .empty (beq_self_eq_true _)
    · exact (h.loads id l there).keep (beq_eq_false_iff_ne.mpr differ) rfl rfl
  selected name := by
    rw [Balancer.selected, balancer, Balancer.selections_track, Ledger.selections_snoc]
    exact h.selected name
  recorded := by
    rw [recorded, Ledger.any_snoc_of_isMembership L rfl, if_pos rfl]

theorem unregister (h : m.Balances L) {id : String}
    (balancer : next.balancer = m.balancer.forget id)
    (recorded : next.recordedSize = some next.store.size) :
    next.Balances (L ++ [.removed id]) where
  names name := by
    have same : next.balancer.statistics? name = m.balancer.statistics? name := by
      rw [Balancer.statistics?, balancer]
      rfl
    rw [same]
    exact (h.names name).keep rfl rfl fun _ => rfl
  loads other l found := by
    rw [balancer] at found
    exact (h.loads other l (Table.erase_cases found).2).keep rfl rfl rfl
  selected name := by
    rw [Balancer.selected, balancer, Ledger.selections_snoc]
    exact h.selected name
  recorded := by
    rw [recorded, Ledger.any_snoc_of_isMembership L rfl, if_pos rfl]

theorem select (h : m.Balances L) {now : Moment} {name : String} {client : Option String}
    {draw : UInt64} {r : Record} (done : (m.select now name client draw).1 = .ok r) :
    (m.select now name client draw).2.Balances
      (L ++ [.selected name r.id m.balancer.config.algorithm]) := by
  obtain ⟨g, counted, chosen⟩ := Balancer.select_of_ok done
  have balancer : (m.select now name client draw).2.balancer = _ := chosen
  constructor
  · intro other
    by_cases same : name = other
    · subst same
      rw [balancer, Balancer.statistics?_insert_self rfl, counted]
      exact (h.names name).select r.id m.balancer.config.algorithm
    · rw [balancer, Balancer.statistics?_insert_ne rfl same]
      exact (h.names other).keep (beq_eq_false_iff_ne.mpr same) (if_neg same) fun _ => rfl
  · intro id l found
    rw [balancer] at found
    rcases Table.update_cases found with ⟨rfl, old, there, rfl⟩ | ⟨differ, there⟩
    · exact (h.loads r.id old there).start rfl (beq_self_eq_true _) rfl
    · exact (h.loads id l there).keep rfl (beq_eq_false_iff_ne.mpr differ) rfl
  · intro other
    rw [balancer, Balancer.selected, Tally.sumOf_add, Ledger.selections_snoc, ← h.selected]
    rfl
  · have recorded : (m.select now name client draw).2.recordedSize = m.recordedSize := rfl
    have store : (m.select now name client draw).2.store = m.store := rfl
    rw [recorded, store, Ledger.any_snoc L rfl]
    exact h.recorded

theorem report (h : m.Balances L) (r : Record) (id : String) (time : Duration) (success : Bool)
    (bank : Bank) :
    (m.reported r id time success bank).Balances
      (L ++ [.reported r.serviceName id success]) where
  names name := by
    change Ledger.Accounts _ name
      ((m.balancer.reported r.serviceName id time success).statistics? name)
    by_cases same : r.serviceName = name
    · subst same
      rw [Balancer.statistics?_reported_self]
      exact (h.names r.serviceName).report id success time _
    · rw [Balancer.statistics?_reported_ne _ id time success same]
      refine (h.names name).keep rfl rfl fun flag => ?_
      rw [Entry.reports, beq_eq_false_iff_ne.mpr same, Bool.false_and]
  loads other l found := by
    change (m.balancer.loads.update id _)[other]? = some l at found
    rcases Table.update_cases found with ⟨rfl, old, there, rfl⟩ | ⟨differ, there⟩
    · exact (h.loads id old there).finish rfl rfl (beq_self_eq_true _) success time _ _
    · exact (h.loads other l there).keep rfl rfl (beq_eq_false_iff_ne.mpr differ)
  selected name := by
    rw [Ledger.selections_snoc]
    exact h.selected name
  recorded := by
    have size : (m.reported r id time success bank).store.size = m.store.size :=
      Table.size_update _ id _
    rw [size, Ledger.any_snoc L rfl]
    exact h.recorded

end Balances

end Mesh

namespace Coordinator

variable {c next : Coordinator} {L : Ledger}

/-! ## Every event balances -/

private theorem quiet_beat {t : Timeline} (b : Beat c.timeline t) (attached : c.mesh.Attached) :
    c.mesh.Quiet t.mesh := by
  cases b with
  | aside same => exact same ▸ .refl _
  | setPhase | abandon | count => exact .of_balancer rfl rfl rfl
  | apply id outcome time config =>
    rcases attached.applyCheck_eq id outcome time config with
      ⟨-, e, -, refused⟩ | ⟨r, -, -, applied⟩
    · change c.mesh.Quiet (c.mesh.applyCheck id outcome time config false).2
      rw [refused]
      exact .of_balancer rfl rfl rfl
    · change c.mesh.Quiet (c.mesh.applyCheck id outcome time config false).2
      rw [applied]
      exact .checked c.mesh r outcome time config

theorem quiet_beats {t : Timeline} (beats : Beats c.timeline t) (attached : c.mesh.Attached) :
    c.mesh.Quiet t.mesh := by
  induction beats with
  | refl => exact .refl _
  | @tail middle last before b ih =>
    have since : ({ c with timeline := middle } : Coordinator).mesh.Attached :=
      attached_changes (changes_of_beats before) attached
    exact ih.trans (quiet_beat (c := { c with timeline := middle }) b since)

theorem quiet_configured (m : Mesh) (health : Option HealthConfig)
    (balancer : Option BalancerConfig) : m.Quiet (configured m health balancer) := by
  cases health <;> cases balancer <;> exact ⟨⟨fun _ => rfl, rfl, rfl⟩, rfl, rfl⟩

/-- A call without an entry changes no counter. -/
theorem balances_quiet {op : Operation} {answer : Answer} (unentered : c.entryOf op answer = none)
    (quiet : c.mesh.Quiet next.mesh) (h : c.mesh.Balances L) :
    next.mesh.Balances (L ++ (c.entryOf op answer).toList) := by
  rw [unentered, Option.toList_none, List.append_nil]
  exact h.quiet quiet

/-- A call changes the counters as its entry says. -/
theorem balances_call {op : Operation} {answer : Answer} (made : Call c op answer next)
    (attached : c.mesh.Attached) (h : c.mesh.Balances L) :
    next.mesh.Balances (L ++ (c.entryOf op answer).toList) := by
  cases made with
  | refused _ e => exact balances_quiet (c.entryOf_refused op e) (.refl _) h
  | register r valid free => exact h.register (attached.balancer.loads_eq_none free) rfl rfl
  | unregister done => exact h.unregister rfl rfl
  | setMetadata id metadata => exact balances_quiet rfl (.modify _ id _) h
  | select name client draw =>
    cases answer : (c.select name client draw).1 with
    | error e => exact balances_quiet rfl ⟨Balancer.quiet_select answer, rfl, rfl⟩ h
    | ok r => exact h.select answer
  | @report id r time success state bank got counted =>
    have entry : c.entryOf (.report id time success) .done =
        some (.reported r.serviceName id success) := by
      rw [entryOf, Store.find?_of_get got, Option.map_some]
    rw [entry]
    exact h.report r id time success bank
  | configure health balancer => exact balances_quiet rfl (quiet_configured _ health balancer) h
  | watch | unwatch | spawn | readBreaker | resetBreaker | start | startAgain | stop | stopAgain
  | listenHealth | listenServices | setTarget | wait =>
    exact balances_quiet rfl (.of_balancer rfl rfl rfl) h

/-- An event changes the counters as its entry says, or not at all. -/
theorem balances_occur (e : Event) (attached : c.mesh.Attached) (h : c.mesh.Balances L) :
    (c.occur e).mesh.Balances (L ++ (c.entry? e).toList) := by
  cases timed : e.timed with
  | false =>
    obtain ⟨op, atOnce, rfl⟩ := Event.eq_operation_of_timed timed
    exact balances_call (c.perform_call atOnce) attached h
  | true =>
    have unentered : c.entry? e = none := c.entry?_of_timed timed
    obtain ⟨t, beats, happened⟩ := c.occur_beats timed
    rw [unentered, Option.toList_none, List.append_nil, happened]
    exact h.quiet (quiet_beats beats attached)

/-- Every history balances. -/
theorem balances_after (events : List Event) (attached : c.mesh.Attached)
    (h : c.mesh.Balances L) : (c.after events).mesh.Balances (L ++ c.ledger events) := by
  induction events generalizing c L with
  | nil =>
    rw [ledger, List.append_nil]
    exact h
  | cons e rest ih =>
    rw [ledger, ← List.append_assoc]
    exact ih (attached_changes (c.occur_changes e) attached) (balances_occur e attached h)

end Coordinator

/-! ## What can be read of the counters -/

/-- The sum of a count over all statistics of a balancer, name by name. -/
theorem Balancer.sum_allStatistics (b : Balancer) (count : Statistics → Nat) :
    (b.allStatistics.map count).sum =
      (b.groups.keys.map fun name => ((b.statistics? name).map count).getD 0).sum := by
  have summed : ∀ entries : List (String × Group),
      (((entries.map Prod.snd).filterMap Group.statistics).map count).sum =
        (entries.map fun entry => (entry.2.statistics.map count).getD 0).sum := by
    intro entries
    induction entries with
    | nil => rfl
    | cons entry rest ih =>
      rw [List.map_cons, List.filterMap_cons, List.map_cons, List.sum_cons, ← ih]
      cases entry.2.statistics with
      | none => exact (Nat.zero_add _).symm
      | some s => rfl
  rw [allStatistics, Table.values_eq, summed, ← Std.ExtTreeMap.map_fst_toList_eq_keys,
    List.map_map]
  congr 1
  apply List.map_congr_left
  rintro ⟨name, g⟩ listed
  have found := Std.ExtTreeMap.mem_toList_iff_getElem?_eq_some.mp listed
  rw [Function.comp_apply, statistics?, found, Option.bind_some]

/-- A sum over all statistics is a sum over any names that include the names with statistics. -/
theorem Balancer.sum_eq_sum (b : Balancer) (count : Statistics → Nat) {names : List String}
    (nodup : names.Nodup) (covered : ∀ name s, b.statistics? name = some s → name ∈ names) :
    (b.allStatistics.map count).sum =
      (names.map fun name => ((b.statistics? name).map count).getD 0).sum := by
  rw [b.sum_allStatistics, ← List.sum_toFinset _ Std.ExtTreeMap.nodup_keys,
    ← List.sum_toFinset _ nodup]
  apply Finset.sum_congr_of_eq_on_inter
  · intro name _ outside
    cases found : b.statistics? name with
    | none => rfl
    | some s => exact absurd (List.mem_toFinset.mpr (covered name s found)) outside
  · intro name _ outside
    have absent : b.groups[name]? = none := by
      rw [List.mem_toFinset, Table.mem_keys_iff] at outside
      exact Option.eq_none_iff_forall_ne_some.mpr fun g found => outside ⟨g, found⟩
    rw [statistics?, absent]
    rfl
  · exact fun _ _ _ => rfl

namespace Mesh.Balances

variable {m : Mesh} {L : Ledger}

/-- What is asked for under a name is answered from the ledger. -/
theorem statistics_of_written (h : m.Balances L) {name : String}
    (written : Text.isBlank name = false) :
    (m.balancer.statistics name = .error (.unknownName name) ↔ L.selections name = 0) ∧
    (0 < L.selections name → ∃ s, m.balancer.statistics name = .ok s ∧ s.Agrees L name) := by
  have accounts := h.names name
  have asked : m.balancer.statistics name =
      match m.balancer.statistics? name with
      | none => .error (.unknownName name)
      | some s => .ok s := by
    rw [Balancer.statistics, Failure.requireText_of_written _ written]
    rfl
  rw [asked]
  cases found : m.balancer.statistics? name with
  | none =>
    rw [found] at accounts
    have unselected : L.selections name = 0 := accounts
    exact ⟨⟨fun _ => unselected, fun _ => rfl⟩, fun pos => absurd pos (by omega)⟩
  | some s =>
    rw [found] at accounts
    obtain ⟨pos, agrees⟩ := accounts
    exact ⟨⟨nofun, fun unselected => absurd pos (by omega)⟩, fun _ => ⟨s, rfl, agrees⟩⟩

theorem agrees_of_statistics (h : m.Balances L) {name : String} {s : Statistics}
    (found : m.balancer.statistics name = .ok s) : s.Agrees L name := by
  cases blank : Text.isBlank name with
  | true =>
    rw [Balancer.statistics, Failure.requireText_of_blank _ blank] at found
    cases found
  | false =>
    obtain ⟨unknown, known⟩ := h.statistics_of_written blank
    by_cases unselected : L.selections name = 0
    · exact nomatch found.symm.trans (unknown.mpr unselected)
    · obtain ⟨s', found', agrees⟩ := known (Nat.pos_of_ne_zero unselected)
      cases found.symm.trans found'
      exact agrees

/-- A sum over all statistics is a sum over the ledger. -/
theorem sumOf_eq (h : m.Balances L) {count : Statistics → UInt64} {entered : String → Nat}
    (agrees : ∀ name s, s.Agrees L name → (count s).toNat = entered name % 2 ^ 64)
    (unselected : ∀ name, L.selections name = 0 → entered name = 0) {names : List String}
    (nodup : names.Nodup) (covered : ∀ name, 0 < L.selections name → name ∈ names) :
    (Summary.sumOf count m.balancer.allStatistics).toNat = (names.map entered).sum % 2 ^ 64 := by
  have known : ∀ name s, m.balancer.statistics? name = some s → name ∈ names := by
    intro name s found
    have accounts := h.names name
    rw [found] at accounts
    exact covered name accounts.1
  rw [Summary.sumOf, Statistics.toNat_foldl_add, UInt64.toNat_zero, Nat.zero_add,
    m.balancer.sum_eq_sum _ nodup known, List.sum_nat_mod (names.map entered), List.map_map]
  congr 2
  apply List.map_congr_left
  intro name _
  have accounts := h.names name
  cases found : m.balancer.statistics? name with
  | none =>
    rw [found] at accounts
    rw [Function.comp_apply, unselected name accounts]
    rfl
  | some s =>
    rw [found] at accounts
    exact agrees name s accounts.2

end Mesh.Balances

/-! ## Ledgers that words can count -/

namespace Ledger

variable {L : Ledger} {name id : String} {names : List String}

/-- What is counted for at most one name by each entry sums up to no more than there are entries. -/
theorem sum_countP_le {counts : String → Entry → Bool}
    (own : ∀ e n m, counts n e = true → counts m e = true → n = m) (nodup : names.Nodup)
    (L : Ledger) : (names.map fun name => L.countP (counts name)).sum ≤ L.length := by
  induction L with
  | nil =>
    rw [← List.sum_toFinset _ nodup]
    exact (Finset.sum_eq_zero fun _ _ => rfl).le
  | cons e rest ih =>
    have one : (names.map fun name => if counts name e = true then 1 else 0).sum ≤ 1 := by
      rw [← List.sum_toFinset _ nodup, ← Finset.card_filter]
      apply Finset.card_le_one.mpr
      intro n hn m hm
      exact own e n m (Finset.mem_filter.mp hn).2 (Finset.mem_filter.mp hm).2
    simp only [List.countP_cons, List.sum_map_add, List.length_cons]
    exact Nat.add_le_add ih one

theorem sum_selections_le (nodup : names.Nodup) (L : Ledger) :
    (names.map L.selections).sum ≤ L.length := by
  apply sum_countP_le _ nodup
  intro e n m hn hm
  cases e with
  | selected => exact (beq_iff_eq.mp hn).symm.trans (beq_iff_eq.mp hm)
  | _ => cases hn

theorem sum_reports_le (nodup : names.Nodup) (L : Ledger) (success : Bool) :
    (names.map fun name => L.reports name success).sum ≤ L.length := by
  have whole : (names.map fun name => L.reports name success).sum ≤
      (names.map fun name => L.countP (Entry.reports name success)).sum :=
    List.sum_le_sum fun name _ => L.reports_le_countP name success
  apply whole.trans
  apply sum_countP_le _ nodup
  intro e n m hn hm
  cases e with
  | reported =>
    have left := (Bool.and_eq_true_iff.mp hn).1
    have right := (Bool.and_eq_true_iff.mp hm).1
    exact (beq_iff_eq.mp left).symm.trans (beq_iff_eq.mp right)
  | _ => cases hn

end Ledger

/-- Statistics that agree with a ledger that words can count hold its numbers. -/
theorem Statistics.Agrees.eq_of_lt {s : Statistics} {L : Ledger} {name : String}
    (h : s.Agrees L name) (few : L.length < 2 ^ 64) :
    s.total = L.selections name ∧ s.succeeded = L.reports name true ∧
      s.failed = L.reports name false := by
  have selections := L.selections_le_length name
  have reports : ∀ success, L.reports name success ≤ L.length := fun success =>
    (L.reports_le_countP name success).trans List.countP_le_length
  have succeeded := reports true
  have failed := reports false
  rw [h.total, h.succeeded, h.failed]
  exact ⟨Nat.mod_eq_of_lt (by omega), Nat.mod_eq_of_lt (by omega), Nat.mod_eq_of_lt (by omega)⟩

theorem Load.Agrees.eq_of_lt {l : Load} {L : Ledger} {id : String} (h : l.Agrees L id)
    (few : L.length < 2 ^ 64) :
    l.total = L.givenOut id ∧ l.total - L.reportsOn id ≤ l.inFlight ∧ l.inFlight ≤ l.total := by
  have fits : L.givenOut id < 2 ^ 64 := (L.givenOut_le_length id).trans_lt few
  exact ⟨h.total.trans (Nat.mod_eq_of_lt fits), h.atLeast fits, h.atMost fits⟩

namespace Coordinator

/-- Selections and reports are counted once in each place. After any events on a new node,
with the ledger of what has succeeded:

* a name has statistics exactly when it has been selected from; they hold the number of
  selections, the id and the algorithm of the latest one, and the numbers of reports since
  the first one on instances that were registered under the name (a blank text is not a name,
  and asking for it is an invalid argument);
* the load of a registered instance counts how often it was given out since its latest
  registration, and not fewer of these are open than were not reported on;
* the summary holds the sums over all names, and so does each metric over its labels;
* the size of the registry has been recorded as soon as an instance came or went.

The counts of names, instances and summaries are words of 64 bits. So they hold these numbers modulo
`2 ^ 64`, and the numbers themselves as long as fewer operations than that have succeeded. -/
theorem accounts_conserved (config : Config) (events : List Event) :
    let c := (fresh config).after events
    let L := (fresh config).ledger events
    (∀ name, Text.isBlank name = true →
      c.mesh.balancer.statistics name = .error (.blank "service_name")) ∧
    (∀ name, Text.isBlank name = false →
      (c.mesh.balancer.statistics name = .error (.unknownName name) ↔ L.selections name = 0) ∧
      (0 < L.selections name →
        ∃ s, c.mesh.balancer.statistics name = .ok s ∧ s.Agrees L name)) ∧
    (∀ id, c.mesh.store.contains id = true →
      ∃ l, c.mesh.balancer.loads[id]? = some l ∧ l.Agrees L id) ∧
    (∀ names : List String, names.Nodup → (∀ name, 0 < L.selections name → name ∈ names) →
      c.summary.total = (names.map L.selections).sum % 2 ^ 64 ∧
      c.summary.succeeded = (names.map fun name => L.reports name true).sum % 2 ^ 64 ∧
      c.summary.failed = (names.map fun name => L.reports name false).sum % 2 ^ 64) ∧
    (∀ name, (c.mesh.numbers "mesh_selections_total" (·.contains ("service_name", name))).sum =
      L.selections name) ∧
    (c.mesh.numbers "mesh_services_registered" (fun _ => true) =
      if L.any Entry.isMembership then [c.mesh.store.size] else []) ∧
    (L.length < 2 ^ 64 →
      (∀ name s, c.mesh.balancer.statistics name = .ok s →
        s.total = L.selections name ∧ s.succeeded = L.reports name true ∧
          s.failed = L.reports name false) ∧
      (∀ id l, c.mesh.balancer.loads[id]? = some l →
        l.total = L.givenOut id ∧ l.total - L.reportsOn id ≤ l.inFlight ∧
          l.inFlight ≤ l.total) ∧
      ∀ names : List String, names.Nodup → (∀ name, 0 < L.selections name → name ∈ names) →
        c.summary.total = (names.map L.selections).sum ∧
        c.summary.succeeded = (names.map fun name => L.reports name true).sum ∧
        c.summary.failed = (names.map fun name => L.reports name false).sum) := by
  intro c L
  have attached : c.mesh.Attached := attached_after config events
  have h : c.mesh.Balances L :=
    balances_after events (attached_fresh config) (.empty config.healthCheck config.loadBalancer)
  have unreported : ∀ name, L.selections name = 0 → ∀ success, L.reports name success = 0 :=
    fun _ => Ledger.reports_of_unselected
  have sums : ∀ names : List String, names.Nodup →
      (∀ name, 0 < L.selections name → name ∈ names) →
      c.summary.total = (names.map L.selections).sum % 2 ^ 64 ∧
      c.summary.succeeded = (names.map fun name => L.reports name true).sum % 2 ^ 64 ∧
      c.summary.failed = (names.map fun name => L.reports name false).sum % 2 ^ 64 := by
    intro names nodup covered
    refine ⟨h.sumOf_eq (fun _ _ agrees => agrees.total) (fun _ unselected => unselected) nodup
      covered, h.sumOf_eq (fun _ _ agrees => agrees.succeeded) ?_ nodup covered,
      h.sumOf_eq (fun _ _ agrees => agrees.failed) ?_ nodup covered⟩
    · exact fun name unselected => unreported name unselected true
    · exact fun name unselected => unreported name unselected false
  refine ⟨?_, fun _ => h.statistics_of_written, ?_, sums, ?_, ?_, fun few => ⟨?_, ?_, ?_⟩⟩
  · intro name blank
    rw [Balancer.statistics, Failure.requireText_of_blank _ blank]
    rfl
  · intro id there
    have tracked : (c.mesh.balancer.loads[id]?).isSome = true :=
      (attached.balancer id).trans there
    obtain ⟨l, found⟩ := Option.isSome_iff_exists.mp tracked
    exact ⟨l, found, h.loads id l found⟩
  · intro name
    rw [Mesh.numbers_selections]
    exact h.selected name
  · rw [Mesh.numbers_registered, h.recorded]
    cases L.any Entry.isMembership <;> rfl
  · exact fun name s found => (h.agrees_of_statistics found).eq_of_lt few
  · exact fun id l found => (h.loads id l found).eq_of_lt few
  · intro names nodup covered
    obtain ⟨total, succeeded, failed⟩ := sums names nodup covered
    have selections := Ledger.sum_selections_le nodup L
    have successes := Ledger.sum_reports_le nodup L true
    have failures := Ledger.sum_reports_le nodup L false
    rw [total, succeeded, failed]
    exact ⟨Nat.mod_eq_of_lt (by omega), Nat.mod_eq_of_lt (by omega), Nat.mod_eq_of_lt (by omega)⟩

end Coordinator

end ServiceMesh
