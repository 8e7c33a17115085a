import Mathlib.Data.List.TakeWhile
import ServiceMesh.Proofs.Coordinator.Change

/-!
# The ledger of a node

Registrations, removals, selections and reports that succeed are entered in a ledger, in
their order. An entry is made from an operation, its answer, and what is registered and
configured at that moment; no counter of the node has a part in it. What the counters should
show is said of the ledger: how often a name was selected, what was reported since its first
selection, and what happened to an id since its latest registration.
-/

namespace ServiceMesh

/-- An operation that has succeeded. -/
inductive Entry where
  | registered (id : String)
  | removed (id : String)
  /-- an instance of a name was given out -/
  | selected (name id : String) (algorithm : Algorithm)
  /-- a request to an instance that is registered under a name went well or failed -/
  | reported (name id : String) (success : Bool)
  deriving DecidableEq

namespace Entry

/-- Whether an entry is a selection from a name. -/
def selects (name : String) : Entry → Bool
  | selected n _ _ => n == name
  | _ => false

/-- The id and the algorithm of a selection from a name. -/
def choice? (name : String) : Entry → Option (String × Algorithm)
  | selected n id algorithm => if n = name then some (id, algorithm) else none
  | _ => none

/-- Whether an entry is a report on an instance of a name that says whether it went well. -/
def reports (name : String) (success : Bool) : Entry → Bool
  | reported n _ s => n == name && s == success
  | _ => false

/-- Whether an entry is a registration or a removal. -/
def isMembership : Entry → Bool
  | registered _ | removed _ => true
  | _ => false

/-- Whether an entry is a registration of an id. -/
def begins (id : String) : Entry → Bool
  | registered i => i == id
  | _ => false

/-- Whether an entry is a selection that gave out an id. -/
def givesOut (id : String) : Entry → Bool
  | selected _ i _ => i == id
  | _ => false

/-- Whether an entry is a report on an id. -/
def reportsOn (id : String) : Entry → Bool
  | reported _ i _ => i == id
  | _ => false

end Entry

/-- The entries of a node in their order. -/
abbrev Ledger := List Entry

namespace Ledger

/-- The number of selections from a name. -/
def selections (L : Ledger) (name : String) : Nat := L.countP (Entry.selects name)

/-- The number of reports on instances of a name since the first selection from it. -/
def reports (L : Ledger) (name : String) (success : Bool) : Nat :=
  (L.dropWhile fun e => !e.selects name).countP (Entry.reports name success)

/-- The latest selection from a name. -/
def latest? (L : Ledger) (name : String) : Option (String × Algorithm) :=
  (L.filterMap (Entry.choice? name)).getLast?

/-- The entries since the latest registration of an id, newest first. -/
def since (L : Ledger) (id : String) : Ledger := L.reverse.takeWhile fun e => !e.begins id

/-- How often an id was given out since its latest registration. -/
def givenOut (L : Ledger) (id : String) : Nat := (L.since id).countP (Entry.givesOut id)

/-- The number of reports on an id since its latest registration. -/
def reportsOn (L : Ledger) (id : String) : Nat := (L.since id).countP (Entry.reportsOn id)

variable {L : Ledger} {e : Entry} {name id : String}

/-! ## One more entry -/

theorem selections_snoc (L : Ledger) (e : Entry) (name : String) :
    selections (L ++ [e]) name = L.selections name + if e.selects name then 1 else 0 := by
  rw [selections, List.countP_append, List.countP_singleton, selections]

/-- Reports are counted from the first selection on. -/
theorem dropWhile_selects_eq_nil_iff :
    (L.dropWhile fun e => !e.selects name) = [] ↔ L.selections name = 0 := by
  rw [List.dropWhile_eq_nil_iff, selections, List.countP_eq_zero]
  simp

theorem reports_of_unselected (unselected : L.selections name = 0) (success : Bool) :
    L.reports name success = 0 := by
  rw [reports, dropWhile_selects_eq_nil_iff.mpr unselected, List.countP_nil]

theorem reports_snoc (L : Ledger) (e : Entry) (name : String) (success : Bool) :
    reports (L ++ [e]) name success = L.reports name success +
      if 0 < L.selections name ∧ e.reports name success then 1 else 0 := by
  by_cases unselected : L.selections name = 0
  · have fresh : reports (L ++ [e]) name success = 0 := by
      rw [reports, List.dropWhile_append, dropWhile_selects_eq_nil_iff.mpr unselected]
      cases e <;> simp [List.dropWhile_cons, Entry.selects, Entry.reports]
    simp [fresh, reports_of_unselected unselected, unselected]
  · have kept : (L.dropWhile fun e => !e.selects name).isEmpty = false := by
      rw [List.isEmpty_eq_false_iff]
      exact mt dropWhile_selects_eq_nil_iff.mp unselected
    rw [reports, List.dropWhile_append, kept, reports]
    simp [List.countP_append, List.countP_singleton, Nat.pos_of_ne_zero unselected]

/-- A report that came before the first selection is not counted. -/
example : reports [.reported "svc" "a" true, .selected "svc" "a" .roundRobin,
    .reported "svc" "a" true] "svc" true = 1 := by decide

theorem latest?_snoc (L : Ledger) (e : Entry) (name : String) :
    latest? (L ++ [e]) name = (e.choice? name).or (L.latest? name) := by
  rw [latest?, List.filterMap_append, latest?]
  cases h : e.choice? name <;> simp [h]

theorem since_snoc (L : Ledger) (e : Entry) (id : String) :
    since (L ++ [e]) id = if e.begins id then [] else e :: L.since id := by
  rw [since, List.reverse_append, List.reverse_singleton, List.singleton_append,
    List.takeWhile_cons, since]
  cases e.begins id <;> rfl

theorem selections_le_length (L : Ledger) (name : String) : L.selections name ≤ L.length :=
  List.countP_le_length

theorem reports_le_countP (L : Ledger) (name : String) (success : Bool) :
    L.reports name success ≤ L.countP (Entry.reports name success) :=
  (List.dropWhile_sublist _).countP_le

theorem givenOut_le_length (L : Ledger) (id : String) : L.givenOut id ≤ L.length := by
  have since : (L.since id).length ≤ L.reverse.length := (List.takeWhile_sublist _).length_le
  rw [List.length_reverse] at since
  exact List.countP_le_length.trans since

/-- A registration begins anew. -/
theorem givenOut_of_begins (begins : e.begins id = true) : givenOut (L ++ [e]) id = 0 := by
  rw [givenOut, since_snoc, if_pos begins, List.countP_nil]

theorem givenOut_snoc (goesOn : e.begins id = false) :
    givenOut (L ++ [e]) id = L.givenOut id + if e.givesOut id then 1 else 0 := by
  rw [givenOut, since_snoc, goesOn, givenOut]
  simp [List.countP_cons]

theorem reportsOn_snoc (goesOn : e.begins id = false) :
    reportsOn (L ++ [e]) id = L.reportsOn id + if e.reportsOn id then 1 else 0 := by
  rw [reportsOn, since_snoc, goesOn, reportsOn]
  simp [List.countP_cons]

theorem any_snoc (L : Ledger) {e : Entry} (other : e.isMembership = false) :
    (L ++ [e]).any Entry.isMembership = L.any Entry.isMembership := by
  rw [List.any_append, List.any_cons, other, List.any_nil, Bool.or_false, Bool.or_false]

theorem any_snoc_of_isMembership (L : Ledger) {e : Entry} (own : e.isMembership = true) :
    (L ++ [e]).any Entry.isMembership = true := by
  rw [List.any_append, List.any_cons, own, Bool.true_or, Bool.or_true]

end Ledger

/-! ## Entries of events -/

namespace Coordinator

/-- The entry of an operation that was answered. -/
def entryOf (c : Coordinator) : Operation → Answer → Option Entry
  | .register r, .done => some (.registered r.id)
  | .unregister id, .record _ => some (.removed id)
  | .select name _ _, .record r => some (.selected name r.id c.mesh.balancer.config.algorithm)
  | .report id _ success, .done =>
    (c.mesh.store.find? id).map fun r => .reported r.serviceName id success
  | _, _ => none

/-- The entry of an event, if it makes one. -/
def entry? (c : Coordinator) : Event → Option Entry
  | .operation op => c.entryOf op (c.perform op).1
  | _ => none

/-- The ledger of events that happen one after the other. -/
def ledger (c : Coordinator) : List Event → Ledger
  | [] => []
  | e :: rest => (c.entry? e).toList ++ (c.occur e).ledger rest

/-- Nothing is entered for an operation that was refused. -/
theorem entryOf_refused (c : Coordinator) (op : Operation) (e : Failure) :
    c.entryOf op (.refused e) = none := by
  cases op <;> rfl

/-- Nothing is entered for what takes time. -/
theorem entry?_of_timed (c : Coordinator) {e : Event} (timed : e.timed = true) :
    c.entry? e = none := by
  cases e with
  | operation op => cases op <;> first | rfl | cases timed
  | pass | loop | check => rfl

end Coordinator

end ServiceMesh
