import Mathlib.Algebra.Ring.Nat
import ServiceMesh.Mesh

/-!
# Reading metrics

The metrics of a node are one list of series with what was recorded under them. What is read
of a metric are the numbers under its series, and those of four metrics are read here: the size
of the registry, the selections, the health of an id and the transitions of breakers.
-/

namespace ServiceMesh

/-- A table has at most one entry for a key, so what is kept of that key is at most one. -/
theorem Table.filterMap_toList (t : Table α) (key : String) (f : α → β) :
    (t.toList.filterMap fun entry => if entry.1 = key then some (f entry.2) else none) =
      (t[key]?.map f).toList := by
  have once : t.toList.Pairwise fun a b => a.1 ≠ b.1 := by
    refine Std.ExtTreeMap.distinct_keys_toList.imp fun {a b} differ same => differ ?_
    rw [same]
    exact Std.ReflCmp.compare_self
  have entries : ∀ value, (key, value) ∈ t.toList ↔ t[key]? = some value :=
    fun _ => Std.ExtTreeMap.mem_toList_iff_getElem?_eq_some
  generalize t.toList = l at once entries
  generalize t[key]? = found at entries
  induction l generalizing found with
  | nil =>
    cases found with
    | none => rfl
    | some value => exact nomatch (entries value).mpr rfl
  | cons entry rest ih =>
    obtain ⟨first, value⟩ := entry
    obtain ⟨others, pairwise⟩ := List.pairwise_cons.mp once
    rw [List.filterMap_cons]
    by_cases same : first = key
    · subst same
      have absent : ∀ value, (first, value) ∉ rest := fun value listed => others _ listed rfl
      have here : found = some value := ((entries value).mp List.mem_cons_self)
      have nothing : _ = [] := ih pairwise none fun value => by simp [absent value]
      rw [if_pos rfl, nothing, here]
      rfl
    · rw [if_neg same]
      refine ih pairwise found fun other => ?_
      rw [← entries other, List.mem_cons, or_iff_right]
      exact fun equal => same (congrArg Prod.fst equal).symm

/-! ## Tallies -/

/-- The sum of the counts of some kinds. -/
def Tally.sumOf (kinds : κ → Bool) (t : Tally κ) : Nat :=
  ((t.filter fun entry => kinds entry.1).map Prod.snd).sum

theorem Tally.sumOf_add [DecidableEq κ] (kinds : κ → Bool) (kind : κ) (t : Tally κ) :
    Tally.sumOf kinds (Tally.add kind t) = Tally.sumOf kinds t + if kinds kind then 1 else 0 := by
  induction t with
  | nil => cases h : kinds kind <;> simp [sumOf, add, h]
  | cons entry rest ih =>
    obtain ⟨k, n⟩ := entry
    unfold add
    by_cases same : k = kind
    · subst same
      rw [if_pos rfl]
      cases h : kinds k <;> simp [sumOf, h, Nat.add_right_comm]
    · rw [if_neg same]
      unfold sumOf at ih ⊢
      cases h : kinds k <;> simp [h, ih, Nat.add_assoc]

/-! ## Samples -/

namespace Sample

/-- The whole number that was recorded under a series, if it is one of a metric and has some
labels. -/
def under? (metric : String) (labels : List (String × String) → Bool) :
    Series × Sample → Option Nat
  | (series, .number n) => if series.metric = metric ∧ labels series.labels then some n else none
  | (_, .distribution _) => none

variable {metric other : String} {labels : List (String × String) → Bool}

theorem under?_of_ne {x : Series × Sample} (differ : x.1.metric ≠ metric) :
    under? metric labels x = none := by
  obtain ⟨series, sample⟩ := x
  cases sample with
  | number n => exact if_neg fun both => differ both.1
  | distribution => rfl

theorem under?_number (metric : String) (given : List (String × String)) (n : Nat) :
    under? metric labels (⟨metric, given⟩, .number n) = if labels given then some n else none := by
  simp [under?]

/-- What is recorded of one metric is not read of another. -/
theorem filterMap_under?_of_ne (differ : other ≠ metric) (l : List α)
    (given : α → List (String × String)) (sample : α → Sample) :
    (l.filterMap fun x => under? metric labels (⟨other, given x⟩, sample x)) = [] := by
  rw [List.filterMap_eq_nil_iff]
  intro x _
  exact under?_of_ne differ

end Sample

namespace Mesh

/-- The whole numbers that were recorded under the series of a metric with some labels. -/
def numbers (m : Mesh) (metric : String) (labels : List (String × String) → Bool) : List Nat :=
  m.metrics.filterMap (Sample.under? metric labels)

/-- What is read of a metric is read of the parts of the record one after the other. A
distribution is no number. -/
theorem numbers_eq (m : Mesh) (metric : String) (labels : List (String × String) → Bool) :
    m.numbers metric labels =
      (m.recordedSize.toList.filterMap fun n =>
        Sample.under? metric labels (⟨"mesh_services_registered", []⟩, .number n)) ++
      (m.monitor.gauge.toList.filterMap fun entry =>
        Sample.under? metric labels (⟨"mesh_service_health", [("service_id", entry.1)]⟩,
          .number (if entry.2 then 1 else 0))) ++
      (m.monitor.checks.filterMap fun entry =>
        Sample.under? metric labels (⟨"mesh_health_checks_total",
          [("outcome", entry.1.label)]⟩, .number entry.2)) ++
      (m.balancer.selections.filterMap fun entry =>
        Sample.under? metric labels (⟨"mesh_selections_total",
          [("algorithm", entry.1.2.name), ("service_name", entry.1.1)]⟩, .number entry.2)) ++
      (m.balancer.failures.filterMap fun entry =>
        Sample.under? metric labels (⟨"mesh_selection_failures_total",
          [("reason", entry.1.label)]⟩, .number entry.2)) ++
      m.bank.transitions.filterMap fun entry =>
        Sample.under? metric labels (⟨"mesh_circuit_breaker_transitions_total",
          [("state", entry.1.label)]⟩, .number entry.2) := by
  have distributed : (if m.balancer.responseTimes.isEmpty = true then []
      else [((⟨"mesh_reported_response_time_ms", []⟩ : Series),
        Sample.distribution m.balancer.responseTimes.reverse)]).filterMap
          (Sample.under? metric labels) = [] := by
    split <;> rfl
  unfold numbers metrics
  simp only [List.filterMap_append, List.filterMap_map, distributed, List.append_nil]
  cases m.recordedSize <;> rfl

theorem numbers_registered (m : Mesh) :
    m.numbers "mesh_services_registered" (fun _ => true) = m.recordedSize.toList := by
  rw [numbers_eq]
  simp (disch := decide) only [Sample.filterMap_under?_of_ne, List.append_nil]
  cases m.recordedSize <;> rfl

/-- The selections from a name are recorded once for each algorithm. -/
theorem numbers_selections (m : Mesh) (name : String) :
    m.numbers "mesh_selections_total" (·.contains ("service_name", name)) =
      (m.balancer.selections.filter fun entry => entry.1.1 == name).map Prod.snd := by
  rw [numbers_eq]
  simp (disch := decide) only [Sample.filterMap_under?_of_ne, List.append_nil, List.nil_append,
    Sample.under?_number]
  induction m.balancer.selections with
  | nil => rfl
  | cons entry rest ih =>
    have labelled : [("algorithm", entry.1.2.name), ("service_name", entry.1.1)].contains
        ("service_name", name) = (entry.1.1 == name) := by
      by_cases same : entry.1.1 = name
      · simp [same]
      · simp [same, Ne.symm same]
    rw [List.filterMap_cons, ih, labelled]
    cases named : entry.1.1 == name <;> simp [named]

/-- What is read of the health of an id is what the monitor recorded of it, as a number. -/
theorem numbers_health (m : Mesh) (id : String) :
    m.numbers "mesh_service_health" (· == [("service_id", id)]) =
      (m.monitor.gauge[id]?.map fun selectable => if selectable then 1 else 0).toList := by
  rw [numbers_eq]
  simp (disch := decide) only [Sample.filterMap_under?_of_ne, List.append_nil, List.nil_append,
    Sample.under?_number]
  rw [← Table.filterMap_toList]
  congr 1
  funext entry
  simp

/-- What is read of the transitions to a state is what the bank counted of them. -/
theorem numbers_transitions (m : Mesh) (state : BreakerState) :
    m.numbers "mesh_circuit_breaker_transitions_total" (· == [("state", state.label)]) =
      (m.bank.transitions.filter fun entry => entry.1 == state).map Prod.snd := by
  have labelled : ∀ other : BreakerState,
      ([("state", other.label)] == [("state", state.label)]) = (other == state) := by
    intro other
    cases other <;> cases state <;> rfl
  rw [numbers_eq]
  simp (disch := decide) only [Sample.filterMap_under?_of_ne, List.nil_append,
    Sample.under?_number, labelled]
  induction m.bank.transitions with
  | nil => rfl
  | cons entry rest ih =>
    rw [List.filterMap_cons, ih]
    cases same : entry.1 == state <;> simp [same]

end Mesh

end ServiceMesh
