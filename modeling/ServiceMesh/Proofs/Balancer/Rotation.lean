import ServiceMesh.Proofs.Balancer.Selection
import ServiceMesh.Proofs.Config.Rules
import ServiceMesh.Proofs.Decimal.Equality

/-!
# Selectors and changes of the configuration

A name learns of a new configuration at its next selection, and builds a new selector only if the
configuration asks for another one than the configuration of the selection before. What was
configured in between does not count, and neither do settings that no selector is built from.
-/

namespace ServiceMesh

/-! ## What selectors are built from -/

/-- Two rates are the same. Rates are compared as numbers, and a rate is the same as itself even
if it is not a number. -/
def SameRate (x y : Float) : Prop := x = y ∨ (x == y) = true

instance (x y : Float) : Decidable (SameRate x y) := inferInstanceAs (Decidable (_ ∨ _))

theorem SameRate.trans {x y z : Float} (first : SameRate x y) (second : SameRate y z) :
    SameRate x z := by
  rcases first with rfl | first
  · exact second
  · rcases second with rfl | second
    · exact .inr first
    · exact .inr (Decimal.beq_trans first second)

namespace BalancerConfig

variable {old new c : BalancerConfig}

/-- Two configurations ask for the same selector: they agree in everything that selectors are
built from. -/
def Alike (old new : BalancerConfig) : Prop :=
  old.algorithm = new.algorithm ∧ old.hashReplicas = new.hashReplicas ∧
    old.weightedRandom = new.weightedRandom ∧ SameRate old.minSuccessRate new.minSuccessRate

instance (old new : BalancerConfig) : Decidable (Alike old new) :=
  inferInstanceAs (Decidable (_ ∧ _))

theorem Alike.refl (c : BalancerConfig) : c.Alike c := ⟨rfl, rfl, rfl, .inl rfl⟩

/-- The rate of an accepted configuration is a number. -/
theorem rate_of_check (accepted : c.check = .ok ()) :
    (c.minSuccessRate == c.minSuccessRate) = true := by
  obtain ⟨-, inside, -⟩ := rates_of_check accepted
  exact Decimal.beq_self_of_le inside

theorem outdated_eq_false :
    Selector.outdated old new = false ↔ old.algorithm = new.algorithm ∧
      old.hashReplicas = new.hashReplicas ∧ old.weightedRandom = new.weightedRandom ∧
      (old.minSuccessRate == new.minSuccessRate) = true := by
  simp [Selector.outdated, bne, and_assoc]

theorem outdated_symm (h : Selector.outdated old new = false) :
    Selector.outdated new old = false := by
  obtain ⟨algorithm, replicas, weighted, rate⟩ := outdated_eq_false.mp h
  exact outdated_eq_false.mpr
    ⟨algorithm.symm, replicas.symm, weighted.symm, Decimal.beq_symm rate⟩

theorem outdated_trans (first : Selector.outdated old c = false)
    (second : Selector.outdated c new = false) : Selector.outdated old new = false := by
  obtain ⟨algorithm, replicas, weighted, rate⟩ := outdated_eq_false.mp first
  obtain ⟨algorithm', replicas', weighted', rate'⟩ := outdated_eq_false.mp second
  exact outdated_eq_false.mpr ⟨algorithm.trans algorithm', replicas.trans replicas',
    weighted.trans weighted', Decimal.beq_trans rate rate'⟩

/-- Configurations that do not outdate each other outdate the same ones. -/
theorem outdated_congr (old : BalancerConfig) (current : Selector.outdated c new = false) :
    Selector.outdated old new = Selector.outdated old c := by
  apply Bool.eq_iff_iff.mpr
  rw [← not_iff_not, Bool.not_eq_true, Bool.not_eq_true]
  constructor
  · intro h
    exact outdated_trans h (outdated_symm current)
  · intro h
    exact outdated_trans h current

/-- Selectors are renewed exactly for a configuration that asks for another one, if its rate is a
number. -/
theorem outdated_eq_false_iff (old : BalancerConfig)
    (number : (new.minSuccessRate == new.minSuccessRate) = true) :
    Selector.outdated old new = false ↔ old.Alike new := by
  have rates : SameRate old.minSuccessRate new.minSuccessRate ↔
      (old.minSuccessRate == new.minSuccessRate) = true := by
    constructor
    · rintro (same | same)
      · rwa [same]
      · exact same
    · exact .inr
  rw [Alike, rates]
  exact outdated_eq_false

end BalancerConfig

namespace Selector

variable {s : Selector} {c old new : BalancerConfig}

/-- A selector is one that a configuration asks for, whatever it has kept of its choices. -/
def Serves : Selector → BalancerConfig → Prop
  | roundRobin _, c => c.algorithm = .roundRobin
  | leastConnections, c => c.algorithm = .leastConnections
  | weightedRoundRobin _, c => c.algorithm = .weightedRoundRobin
  | performanceBased rate, c =>
    c.algorithm = .performanceBased ∧ SameRate rate c.minSuccessRate
  | random weighted, c => c.algorithm = .random ∧ weighted = c.weightedRandom
  | consistentHash replicas _, c => c.algorithm = .consistentHash ∧ replicas = c.hashReplicas

theorem serves_ofConfig (c : BalancerConfig) : (ofConfig c).Serves c := by
  unfold ofConfig
  cases asked : c.algorithm with
  | roundRobin | leastConnections | weightedRoundRobin => exact asked
  | performanceBased => exact ⟨asked, .inl rfl⟩
  | random | consistentHash => exact ⟨asked, rfl⟩

theorem Serves.of_alike (serves : s.Serves old) (alike : old.Alike new) : s.Serves new := by
  obtain ⟨algorithm, replicas, weighted, rate⟩ := alike
  cases s with
  | roundRobin | leastConnections | weightedRoundRobin => exact algorithm.symm.trans serves
  | performanceBased => exact ⟨algorithm.symm.trans serves.1, serves.2.trans rate⟩
  | random => exact ⟨algorithm.symm.trans serves.1, serves.2.trans weighted⟩
  | consistentHash => exact ⟨algorithm.symm.trans serves.1, serves.2.trans replicas⟩

/-- A choice changes only what the selector keeps of its choices. -/
theorem Serves.choose (serves : s.Serves c) (cs : List Candidate) (request : Request)
    (draw : UInt64) : (s.choose cs request draw).2.Serves c := by
  cases s with
  | leastConnections | performanceBased | random => exact serves
  | roundRobin | weightedRoundRobin | consistentHash =>
    simp only [Selector.choose]
    split <;> exact serves

end Selector

/-! ## Calls -/

/-- A selection with what it meets: the registry, the breakers, the moment and the number drawn
for it. -/
structure Selecting where
  store : Store
  bank : Bank
  now : Moment
  name : String
  client : Option String
  draw : UInt64

/-- A call of a balancer. -/
inductive BalancerCall where
  | configure (config : BalancerConfig)
  | select (s : Selecting)
  | report (store : Store) (bank : Bank) (now : Moment) (id : String) (time : Duration)
      (success : Bool)
  | track (id : String)
  | forget (id : String)

/-- How the selector of a name was used by a selection: the configuration in force, the selector
that was asked and what it was afterwards. -/
structure SelectorUse where
  name : String
  config : BalancerConfig
  before : Selector
  after : Selector
  deriving DecidableEq

namespace Balancer

variable {b : Balancer} {config : BalancerConfig} {past : List SelectorUse} {name : String}
  {s : Selecting}

/-- What a selection gives. -/
def selection (b : Balancer) (s : Selecting) : Except Failure Record × Balancer × Bank :=
  b.select s.store s.bank s.now s.name s.client s.draw

/-- The candidates of a selection. -/
def candidates (b : Balancer) (s : Selecting) : List Record :=
  (fit b.config.breakerEnabled s.now (s.store.members s.name) s.bank).1

/-- Whether a selection gets as far as to the selector of its name. -/
def reaches (b : Balancer) (s : Selecting) : Bool :=
  !Text.isBlank s.name && !(b.candidates s).isEmpty

theorem candidates_ne_nil (reached : b.reaches s = true) : b.candidates s ≠ [] := by
  simp only [reaches, Bool.and_eq_true, Bool.not_eq_true', List.isEmpty_eq_false_iff] at reached
  exact reached.2

/-- What the selector of the name answers, and what it is then. -/
def asked (b : Balancer) (s : Selecting) : Option Nat × Selector :=
  (b.group s.name).selector.choose (b.offered (b.candidates s))
    (requestFor s.client (s.store.members s.name)) s.draw

/-- How a selection that reaches the selector uses it. -/
def useOf (b : Balancer) (s : Selecting) : SelectorUse :=
  { name := s.name, config := b.config, before := (b.group s.name).selector
    after := (b.asked s).2 }

/-- How a call uses a selector, if it does. -/
def use? (b : Balancer) : BalancerCall → Option SelectorUse
  | .select s => if b.reaches s then some (b.useOf s) else none
  | .configure _ | .report .. | .track _ | .forget _ => none

/-- The balancer after a call. -/
def step (b : Balancer) : BalancerCall → Balancer
  | .configure config =>
    match b.setConfig config with
    | .ok next => next
    | .error _ => b
  | .select s => (b.selection s).2.1
  | .report store bank now id time success => (b.report store bank now id time success).2.1
  | .track id => b.track id
  | .forget id => b.forget id

/-- The balancer after calls that follow one another. -/
def called (b : Balancer) (calls : List BalancerCall) : Balancer := calls.foldl step b

/-- The uses of selectors by calls, one after the other. -/
def uses (b : Balancer) : List BalancerCall → List SelectorUse
  | [] => []
  | call :: rest => (b.use? call).toList ++ (b.step call).uses rest

/-- The latest use of the selector of a name. -/
def latest? (name : String) (past : List SelectorUse) : Option SelectorUse :=
  past.reverse.find? fun u => u.name = name

theorem latest?_snoc (u : SelectorUse) :
    latest? name (past ++ [u]) = if u.name = name then some u else latest? name past := by
  simp only [latest?, List.reverse_append, List.reverse_singleton, List.singleton_append,
    List.find?_cons]
  by_cases own : u.name = name <;> simp [own]

/-! ## What a name remembers -/

/-- The selector of a name and the configuration that it follows. -/
def remembered (b : Balancer) (name : String) : Option (Selector × BalancerConfig) :=
  (b.groups[name]?).map fun g => (g.selector, g.config)

private theorem selector_group_of_none (absent : b.groups[name]? = none) :
    (b.group name).selector = .ofConfig b.config := by
  rw [group, absent]

private theorem group_of_current {g : Group} (found : b.groups[name]? = some g)
    (current : g.revision = b.revision) : b.group name = g := by
  rw [group, found]
  exact if_pos current

/-- A group that is behind is looked at anew. -/
private theorem selector_group_of_behind {g : Group} (found : b.groups[name]? = some g)
    (behind : g.revision ≠ b.revision) :
    (b.group name).selector =
      if Selector.outdated g.config b.config then .ofConfig b.config else g.selector := by
  rw [group, found]
  exact congrArg Group.selector (if_neg behind)

/-- A configuration that does not outdate the one in force leaves alone the selectors that names
have kept, and changes only those that are still to be built. -/
theorem selector_renew (h : b.Coherent) {new : BalancerConfig}
    (current : Selector.outdated b.config new = false) (name : String) :
    let next : Balancer := { b with config := new, revision := b.revision + 1 }
    (next.group name).selector = (b.group name).selector ∨
      (b.group name).selector = .ofConfig b.config ∧
        (next.group name).selector = .ofConfig new := by
  intro next
  cases found : b.groups[name]? with
  | none => exact .inr ⟨selector_group_of_none found, selector_group_of_none (b := next) found⟩
  | some g =>
    have behind : g.revision ≠ next.revision := by
      have notAhead := h.notAhead name g found
      show g.revision ≠ b.revision + 1
      omega
    rw [selector_group_of_behind (b := next) found behind,
      BalancerConfig.outdated_congr g.config current]
    by_cases same : g.revision = b.revision
    · have kept : ¬ Selector.outdated g.config b.config = true := by
        rw [h.current name g found same, BalancerConfig.outdated_trans current
          (BalancerConfig.outdated_symm current)]
        exact Bool.false_ne_true
      rw [group_of_current found same, if_neg kept]
      exact .inl rfl
    · rw [selector_group_of_behind found same]
      split
      case isTrue => exact .inr ⟨rfl, rfl⟩
      case isFalse => exact .inl rfl

/-- Each name remembers its latest use. The configuration in force is an accepted one or the first
one. -/
structure Remembers (config : BalancerConfig) (past : List SelectorUse) (b : Balancer) : Prop where
  coherent : b.Coherent
  accepted : b.config.check = .ok () ∨ b.revision = 0 ∧ b.config = config
  latest : ∀ name, b.remembered name = (latest? name past).map fun u => (u.after, u.config)
  serves : ∀ u ∈ past, u.after.Serves u.config

namespace Remembers

theorem start (config : BalancerConfig) : Remembers config [] (.ofConfig config) where
  coherent := .ofConfig config
  accepted := .inr ⟨rfl, rfl⟩
  latest _ := rfl
  serves _ used := nomatch used

/-- What leaves alone the configuration and what the names remember. -/
theorem keep (h : Remembers config past b) {next : Balancer} (coherent : next.Coherent)
    (same : next.config = b.config) (revision : next.revision = b.revision)
    (kept : ∀ name, next.remembered name = b.remembered name) : Remembers config past next where
  coherent := coherent
  accepted := by
    rw [same, revision]
    exact h.accepted
  latest name := (kept name).trans (h.latest name)
  serves := h.serves

/-- The selector of a selection is the one of the use before, or a new one if the configuration
asks for another one now. -/
theorem before_eq (h : Remembers config past b) (name : String) :
    (b.group name).selector =
      match latest? name past with
      | none => .ofConfig b.config
      | some last => if last.config.Alike b.config then last.after else .ofConfig b.config := by
  have known := h.latest name
  unfold group
  unfold remembered at known
  cases found : b.groups[name]? with
  | none =>
    cases used : latest? name past with
    | none => rfl
    | some last =>
      rw [found, used] at known
      cases known
  | some g =>
    cases used : latest? name past with
    | none =>
      rw [found, used] at known
      cases known
    | some last =>
      rw [found, used, Option.map_some, Option.map_some, Option.some.injEq, Prod.mk.injEq] at known
      obtain ⟨selector, follows⟩ := known
      simp only
      by_cases current : g.revision = b.revision
      · rw [if_pos current, ← follows, h.coherent.current name g found current,
          if_pos (BalancerConfig.Alike.refl _)]
        exact selector
      · -- The configuration was changed since, so the one in force has been accepted.
        have accepted : b.config.check = .ok () := by
          rcases h.accepted with accepted | ⟨first, -⟩
          · exact accepted
          · have behind := h.coherent.notAhead name g found
            omega
        have renewed := BalancerConfig.outdated_eq_false_iff g.config
          (BalancerConfig.rate_of_check accepted)
        rw [if_neg current, ← follows]
        by_cases alike : g.config.Alike b.config
        · simp [renewed.mpr alike, alike, selector]
        · have outdated : Selector.outdated g.config b.config = true := by
            simpa [alike] using renewed
          simp [outdated, alike]

theorem before_serves (h : Remembers config past b) (name : String) :
    (b.group name).selector.Serves b.config := by
  rw [h.before_eq name]
  cases used : latest? name past with
  | none => exact Selector.serves_ofConfig b.config
  | some last =>
    simp only
    split
    case isTrue alike =>
      have there : last ∈ past := List.mem_reverse.mp (List.mem_of_find?_eq_some used)
      exact (h.serves last there).of_alike alike
    case isFalse => exact Selector.serves_ofConfig b.config

end Remembers

/-! ## Steps -/

theorem selection_of_reaches (reached : b.reaches s = true) :
    b.selection s =
      ((b.choose s.name (b.candidates s) (requestFor s.client (s.store.members s.name)) s.draw).1,
        (b.choose s.name (b.candidates s) (requestFor s.client (s.store.members s.name)) s.draw).2,
        (fit b.config.breakerEnabled s.now (s.store.members s.name) s.bank).2) := by
  simp only [reaches, Bool.and_eq_true, Bool.not_eq_true', List.isEmpty_eq_false_iff] at reached
  exact select_of_fit reached.1 reached.2

/-- A selection that does not reach the selector counts a failure at most. -/
theorem selection_of_not_reaches (missed : b.reaches s = false) :
    (b.selection s).2.1 = b ∨ ∃ reason, (b.selection s).2.1 = b.fail reason := by
  unfold selection
  cases written : Text.isBlank s.name with
  | true =>
    rw [select_of_blank written]
    exact .inl rfl
  | false =>
    by_cases empty : s.store.members s.name = []
    · rw [select_of_no_members written empty]
      exact .inr ⟨_, rfl⟩
    · have unfit : b.candidates s = [] := by simpa [reaches, written] using missed
      rw [select_of_none_fit written empty unfit]
      exact .inr ⟨_, rfl⟩

/-- A selection that reaches the selector is answered by it, and leaves it to the name with the
configuration in force. -/
theorem selection_remembers (h : b.Coherent) (reached : b.reaches s = true) :
    (b.selection s).1.toOption = (b.asked s).1.bind ((b.candidates s)[·]?) ∧
    (b.selection s).2.1.config = b.config ∧ (b.selection s).2.1.revision = b.revision ∧
    ∀ name, (b.selection s).2.1.remembered name =
      if s.name = name then some ((b.asked s).2, b.config) else b.remembered name := by
  have follows := (h.group s.name).2.1
  have written : ∀ (next : Balancer) (g : Group), next.groups = b.groups.insert s.name g →
      g.selector = (b.asked s).2 → g.config = (b.group s.name).config → ∀ name,
      next.remembered name =
        if s.name = name then some ((b.asked s).2, b.config) else b.remembered name := by
    intro next g groups selector config name
    unfold remembered
    rw [groups]
    by_cases own : s.name = name
    · rw [if_pos own, ← own, Table.getElem?_insert_self, Option.map_some, selector, config, follows]
    · rw [if_neg own, Table.getElem?_insert_ne _ own]
  rw [selection_of_reaches reached]
  have consulted : b.consult s.name (b.candidates s)
    (requestFor s.client (s.store.members s.name)) s.draw = b.asked s := rfl
  cases chosen : (b.asked s).1.bind ((b.candidates s)[·]?) with
  | none =>
    rw [choose_of_none (consulted ▸ chosen)]
    exact ⟨rfl, rfl, rfl, written _ _ rfl rfl rfl⟩
  | some r =>
    rw [choose_of_some (consulted ▸ chosen)]
    exact ⟨rfl, rfl, rfl, written _ _ rfl rfl rfl⟩

theorem Remembers.select (h : Remembers config past b) (s : Selecting) :
    Remembers config (past ++ (b.use? (.select s)).toList) (b.step (.select s)) := by
  have coherent : (b.selection s).2.1.Coherent := h.coherent.select ..
  unfold use? step
  cases reached : b.reaches s with
  | false =>
    simp only [reached, Bool.false_eq_true, if_false, Option.toList_none, List.append_nil]
    rcases selection_of_not_reaches reached with same | ⟨reason, failed⟩
    · rwa [same]
    · rw [failed] at coherent ⊢
      exact h.keep coherent rfl rfl fun _ => rfl
  | true =>
    simp only [reached, if_true, Option.toList_some]
    obtain ⟨-, same, revision, written⟩ := selection_remembers h.coherent reached
    refine ⟨coherent, ?_, ?_, ?_⟩
    · rw [same, revision]
      exact h.accepted
    · intro name
      rw [written name, latest?_snoc]
      by_cases own : s.name = name
      · simp [useOf, own]
      · simp [useOf, own, h.latest name]
    · intro u used
      rcases List.mem_append.mp used with old | new
      · exact h.serves u old
      · rw [List.mem_singleton.mp new]
        exact (h.before_serves s.name).choose _ _ _

theorem remembered_reported (b : Balancer) (service id : String) (time : Duration) (success : Bool)
    (name : String) : (b.reported service id time success).remembered name = b.remembered name := by
  change ((b.groups.update service _)[name]?).map _ = (b.groups[name]?).map _
  by_cases own : service = name
  · rw [own, Table.getElem?_update_self, Option.map_map]
    rfl
  · rw [Table.getElem?_update_ne _ own]

theorem track_eq (b : Balancer) (id : String) : ∃ loads, b.track id = { b with loads } := by
  unfold track
  split
  · exact ⟨b.loads, rfl⟩
  · exact ⟨_, rfl⟩

theorem Remembers.report (h : Remembers config past b) (store : Store) (bank : Bank) (now : Moment)
    (id : String) (time : Duration) (success : Bool) :
    Remembers config past (b.report store bank now id time success).2.1 := by
  rcases b.report_eq store bank now id time success with ⟨e, refused⟩ | ⟨r, _, _, -, -, done⟩
  · rwa [refused]
  · rw [done]
    exact h.keep (h.coherent.reported ..) rfl rfl
      (b.remembered_reported r.serviceName id time success)

theorem Remembers.configure (h : Remembers config past b) (new : BalancerConfig) :
    Remembers config past (b.step (.configure new)) := by
  cases checked : new.check with
  | error e =>
    have refused : b.step (.configure new) = b := by
      simp only [Balancer.step, setConfig, checked, bind, Except.bind]
    rwa [refused]
  | ok _ =>
    have accepted : b.step (.configure new) =
        { b with config := new, revision := b.revision + 1 } := by
      simp only [Balancer.step, setConfig, checked, bind, Except.bind, pure, Except.pure]
    rw [accepted]
    exact ⟨h.coherent.renew new, .inl checked, h.latest, h.serves⟩

theorem Remembers.step (h : Remembers config past b) (call : BalancerCall) :
    Remembers config (past ++ (b.use? call).toList) (b.step call) := by
  cases call with
  | select s => exact h.select s
  | configure new =>
    rw [use?, Option.toList_none, List.append_nil]
    exact h.configure new
  | report store bank now id time success =>
    rw [use?, Option.toList_none, List.append_nil]
    exact h.report store bank now id time success
  | track id =>
    rw [use?, Option.toList_none, List.append_nil]
    obtain ⟨loads, tracked⟩ := b.track_eq id
    show Remembers config past (b.track id)
    rw [tracked]
    exact h.keep (h.coherent.keep rfl rfl rfl) rfl rfl fun _ => rfl
  | forget id =>
    rw [use?, Option.toList_none, List.append_nil]
    exact h.keep (h.coherent.keep rfl rfl rfl) rfl rfl fun _ => rfl

theorem Remembers.called (h : Remembers config past b) (calls : List BalancerCall) :
    Remembers config (past ++ b.uses calls) (b.called calls) := by
  induction calls generalizing b past with
  | nil =>
    rw [uses, List.append_nil]
    exact h
  | cons call rest ih =>
    rw [uses, ← List.append_assoc]
    exact ih (h.step call)

/-- Selectors follow the configuration. Whatever a balancer was called for, a selection that reaches
the selector of its name finds one that the configuration in force asks for. It is the one that
the latest selection of the name to reach it has left, if the two configurations ask for the same,
and a new one otherwise. It answers the selection, and the name keeps what becomes of it. The rate
of the configuration is a number, unless it is the first one and was never accepted. -/
theorem selector_follows_config (config : BalancerConfig) (calls : List BalancerCall)
    (s : Selecting) (reached : ((ofConfig config).called calls).reaches s = true) :
    let b := (ofConfig config).called calls
    let u := b.useOf s
    u.before.Serves b.config ∧
    (u.before =
      match latest? s.name ((ofConfig config).uses calls) with
      | none => .ofConfig b.config
      | some last => if last.config.Alike b.config then last.after else .ofConfig b.config) ∧
    (b.selection s).1.toOption = (b.asked s).1.bind ((b.candidates s)[·]?) ∧
    (b.selection s).2.1.remembered s.name = some (u.after, b.config) ∧
    ((b.config.minSuccessRate == b.config.minSuccessRate) = true ∨
      b.config = config ∧ config.check ≠ .ok ()) := by
  intro b u
  have remembers : Remembers config ((ofConfig config).uses calls) b :=
    (Remembers.start config).called calls
  obtain ⟨answered, -, -, written⟩ := selection_remembers remembers.coherent reached
  refine ⟨remembers.before_serves s.name, remembers.before_eq s.name, answered, ?_, ?_⟩
  · rw [written s.name, if_pos rfl]
    rfl
  · by_cases accepted : b.config.check = .ok ()
    · exact .inl (BalancerConfig.rate_of_check accepted)
    · obtain ⟨-, first⟩ := remembers.accepted.resolve_left accepted
      exact .inr ⟨first, first ▸ accepted⟩

/-- A rotation among two instances goes on after the configuration went to chance and came back
with another weight of new response times, and begins anew after a selection by chance. -/
theorem selector_follows_config_back :
    let instances := ["a", "b"].map fun id =>
      ({ serviceName := "svc", id, endpoint := "127.0.0.1", port := 1,
         status := .healthy } : Record)
    let store := instances.foldl (fun store r => (store.register r).2) Store.empty
    let s : Selecting :=
      { store, bank := .empty, now := 0, name := "svc", client := none, draw := 0 }
    let away : BalancerCall := .configure { algorithm := .random }
    let back : BalancerCall := .configure { responseTimeAlpha := 0.5 }
    let b := (ofConfig {}).called [.select s, away, back]
    let d := (ofConfig {}).called [.select s, away, .select s, back]
    b.reaches s = true ∧ (b.useOf s).before = .roundRobin 1 ∧
      ((b.selection s).1.toOption).map Record.id = some "b" ∧
      d.reaches s = true ∧ (d.useOf s).before = .roundRobin 0 := by
  intro instances store s away back b d
  have kept : b.reaches s = true := by decide +kernel
  have renewed : d.reaches s = true := by decide +kernel
  obtain ⟨-, left, answered, -, -⟩ := selector_follows_config {} _ s kept
  obtain ⟨-, anew, -, -, -⟩ := selector_follows_config {} _ s renewed
  refine ⟨kept, left.trans (by decide +kernel), ?_, renewed, anew.trans (by decide +kernel)⟩
  rw [answered]
  decide +kernel

end Balancer

end ServiceMesh
