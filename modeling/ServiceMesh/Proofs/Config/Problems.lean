import ServiceMesh.Config.Encode
import ServiceMesh.Proofs.Config.Rules
import ServiceMesh.Proofs.Coordinator.Stance

/-!
# The problems of configurations

Checking a configuration lists the broken rules, each once, as a reader of the configuration comes
across them: a problem names the field it is about, and the fields are named in the order in which
they are written. A section that is checked on its own is accepted exactly if none of the problems
of the configuration lies in it.
-/

namespace ServiceMesh

/-! ## Order -/

namespace Json

/-- The path of what stands at a place of a value. A place gives the positions of the fields and
elements around it from the outside in; on the path a field is named and an element numbered. -/
def path? : Json → List Nat → Option String
  | _, [] => some ""
  | obj fields, i :: place =>
    fields[i]?.bind fun (name, value) => (value.path? place).map ("." ++ name ++ ·)
  | arr items, i :: place =>
    items[i]?.bind fun item => (item.path? place).map ("[" ++ toString i ++ "]" ++ ·)
  | _, _ => none

end Json

namespace Problem

variable {p : Problem}

/-- The place of the field that breaks the rule in a written configuration. -/
def place : Problem → List Nat
  | zeroInterval => [2, 0]
  | zeroTimeout => [2, 1]
  | noMaxFailures => [2, 2]
  | noRecoveryChecks => [2, 3]
  | noBreakerThreshold => [3, 2]
  | zeroBreakerTimeout => [3, 3]
  | noHashReplicas => [3, 4]
  | alphaOutOfRange => [3, 6]
  | noSuccessWindow => [3, 7]
  | successRateOutOfRange => [3, 8]
  | blankSeedName i => [6, i, 0]
  | blankSeedId i => [6, i, 1]
  | duplicateSeedId i _ => [6, i, 1]
  | zeroSeedWeight i => [6, i, 4]

/-- A field of a seed is found by its path alone. -/
theorem seedField_inj {i j : Nat} {name other : String} :
    seedField i name = seedField j other ↔ i = j ∧ name = other := by
  constructor
  · intro same
    have chars := congrArg String.toList same
    simp only [seedField, String.toList_append, List.append_assoc, Nat.toString_eq_repr,
      Nat.toList_repr] at chars
    have tails := List.append_cancel_left chars
    have digits (n : Nat) : ∀ c ∈ Nat.toDigits 10 n, c.isDigit = true := fun c listed =>
      Nat.isDigit_of_mem_toDigits (by decide) (by decide) listed
    have bracket (rest : List Char) : ("].".toList ++ rest).takeWhile Char.isDigit = [] := rfl
    have fronts := congrArg (List.takeWhile Char.isDigit) tails
    simp only [List.takeWhile_append_of_pos (digits _), bracket, List.append_nil] at fronts
    have index : i = j := by
      simpa [Nat.ofDigitChars_ten_toDigits] using congrArg (Nat.ofDigitChars 10 · 0) fronts
    subst index
    exact ⟨rfl, String.toList_inj.mp (List.append_cancel_left (List.append_cancel_left tails))⟩
  · rintro ⟨rfl, rfl⟩
    rfl

/-- Whether the field that breaks the rule is one of a section. -/
def LiesIn (p : Problem) (name : String) : Prop := ∃ rest, p.field = name ++ "." ++ rest

theorem LiesIn.head?_eq {name : String} (inside : p.LiesIn name) :
    p.field.toList.head? = (name ++ ".").toList.head? := by
  obtain ⟨rest, path⟩ := inside
  simp [path, List.head?_append]

end Problem

namespace HealthConfig

variable {c : HealthConfig} {p : Problem}

theorem Breaks.place_eq (broken : c.Breaks p) : ∃ i, p.place = [2, i] := by
  cases broken <;> exact ⟨_, rfl⟩

theorem Breaks.path_eq (broken : c.Breaks p) {config : Config} :
    config.toJson.path? p.place = some ("." ++ p.field) := by
  cases broken <;> rfl

theorem pairwise_problems (c : HealthConfig) : c.problems.Pairwise (·.place < ·.place) := by
  have all : c.problems.Sublist [.zeroInterval, .zeroTimeout, .noMaxFailures, .noRecoveryChecks] :=
    ((((Problem.when_sublist _ _).append (Problem.when_sublist _ _)).append
      (Problem.when_sublist _ _)).append (Problem.when_sublist _ _))
  exact List.Pairwise.sublist all (by decide)

theorem Breaks.liesIn (broken : c.Breaks p) : p.LiesIn "health_check" := by
  cases broken with
  | interval => exact ⟨"interval_ms", rfl⟩
  | timeout => exact ⟨"timeout_ms", rfl⟩
  | failures => exact ⟨"max_failures", rfl⟩
  | recovery => exact ⟨"recovery_checks", rfl⟩

end HealthConfig

namespace BalancerConfig

variable {c : BalancerConfig} {p : Problem}

theorem Breaks.place_eq (broken : c.Breaks p) : ∃ i, p.place = [3, i] := by
  cases broken <;> exact ⟨_, rfl⟩

theorem Breaks.path_eq (broken : c.Breaks p) {config : Config} :
    config.toJson.path? p.place = some ("." ++ p.field) := by
  cases broken <;> rfl

theorem pairwise_problems (c : BalancerConfig) : c.problems.Pairwise (·.place < ·.place) := by
  have all : c.problems.Sublist [.noBreakerThreshold, .zeroBreakerTimeout, .noHashReplicas,
      .alphaOutOfRange, .noSuccessWindow, .successRateOutOfRange] :=
    (((((Problem.when_sublist _ _).append (Problem.when_sublist _ _)).append
      (Problem.when_sublist _ _)).append (Problem.when_sublist _ _)).append
      (Problem.when_sublist _ _)).append (Problem.when_sublist _ _)
  exact List.Pairwise.sublist all (by decide)

theorem Breaks.liesIn (broken : c.Breaks p) : p.LiesIn "load_balancer" := by
  cases broken with
  | threshold => exact ⟨"circuit_breaker_threshold", rfl⟩
  | timeout => exact ⟨"circuit_breaker_timeout_ms", rfl⟩
  | replicas => exact ⟨"hash_replicas", rfl⟩
  | alpha => exact ⟨"response_time_alpha", rfl⟩
  | window => exact ⟨"success_window", rfl⟩
  | rate => exact ⟨"min_success_rate", rfl⟩

end BalancerConfig

namespace Seed

variable {seed : Seed} {index : Nat} {earlier : List String} {p : Problem}

theorem Breaks.place_eq (broken : seed.Breaks index earlier p) : ∃ i, p.place = [6, index, i] := by
  cases broken <;> exact ⟨_, rfl⟩

theorem Breaks.path_eq (broken : seed.Breaks index earlier p) {config : Config}
    (there : config.services[index]? = some seed) :
    config.toJson.path? p.place = some ("." ++ p.field) := by
  have written : (config.services.map Seed.toJson)[index]? = some seed.toJson := by
    rw [List.getElem?_map, there, Option.map_some]
  have path (i : Nat) (name : String) (field : seed.toJson.path? [i] = some ("." ++ name)) :
      config.toJson.path? [6, index, i] = some ("." ++ Problem.seedField index name) := by
    have opening : "services[" = "services" ++ "[" := rfl
    have closing : "]." = "]" ++ "." := rfl
    simp [-String.reduceAppend, Config.toJson, Json.path?, written, field, Problem.seedField,
      String.append_assoc, opening, closing]
  cases broken with
  | name => exact path 0 "name" rfl
  | id | twice => exact path 1 "id" rfl
  | weight => exact path 4 "weight" rfl

theorem Breaks.head?_field (broken : seed.Breaks index earlier p) :
    p.field.toList.head? = some 's' := by
  cases broken <;> simp [Problem.field, Problem.seedField]

/-- An id that is blank is not compared, so its field is named once. -/
theorem pairwise_problems (seed : Seed) (index : Nat) (seen : List String) :
    (seed.problems index seen).Pairwise (·.place < ·.place) := by
  have name := Problem.when_sublist (Text.isBlank seed.name) (.blankSeedName index)
  have weight := Problem.when_sublist (seed.weight == 0) (.zeroSeedWeight index)
  rw [problems]
  cases Text.isBlank seed.id with
  | true =>
    have all := ((name.append (Problem.when_sublist true (.blankSeedId index))).append
      (List.Sublist.refl [])).append weight
    exact List.Pairwise.sublist all (by simp [Problem.place, List.cons_lt_cons_iff])
  | false =>
    have all := ((name.append (List.Sublist.refl [])).append (Problem.when_sublist
      (seen.contains seed.id) (.duplicateSeedId index seed.id))).append weight
    exact List.Pairwise.sublist all (by simp [Problem.place, List.cons_lt_cons_iff])

end Seed

/-- The problems of the seeds are listed seed by seed. -/
theorem pairwise_seedProblems (seen : List String) (start : Nat) (seeds : List Seed) :
    (seedProblems seen start seeds).Pairwise (·.place < ·.place) := by
  induction seeds generalizing seen start with
  | nil => exact List.Pairwise.nil
  | cons first rest ih =>
    have later {q : Problem} {noted : List String}
        (listed : q ∈ seedProblems noted (start + 1) rest) :
        ∃ k i, start < k ∧ q.place = [6, k, i] := by
      obtain ⟨k, seed, -, broken⟩ := mem_seedProblems_iff.mp listed
      obtain ⟨i, place⟩ := broken.place_eq
      exact ⟨_, i, by omega, place⟩
    rw [seedProblems_cons]
    refine List.pairwise_append.mpr ⟨first.pairwise_problems start seen, ih _ _, ?_⟩
    intro p here q there
    obtain ⟨i, place⟩ := (Seed.mem_problems_iff.mp here).place_eq
    obtain ⟨k, j, after, place'⟩ := later there
    simp [place, place', after, List.cons_lt_cons_iff]

namespace Config

variable {c : Config} {p : Problem}

theorem pairwise_problems (c : Config) : c.problems.Pairwise (·.place < ·.place) := by
  have health {p : Problem} (listed : p ∈ c.healthCheck.problems) : ∃ i, p.place = [2, i] :=
    (HealthConfig.mem_problems_iff.mp listed).place_eq
  have balancer {p : Problem} (listed : p ∈ c.loadBalancer.problems) : ∃ i, p.place = [3, i] :=
    (BalancerConfig.mem_problems_iff.mp listed).place_eq
  have seed {p : Problem} (listed : p ∈ seedProblems [] 0 c.services) :
      ∃ k i, p.place = [6, k, i] := by
    obtain ⟨k, seed, -, broken⟩ := mem_seedProblems_iff.mp listed
    obtain ⟨i, place⟩ := broken.place_eq
    exact ⟨_, i, place⟩
  refine List.pairwise_append.mpr ⟨List.pairwise_append.mpr ⟨?_, ?_, ?_⟩, ?_, ?_⟩
  · exact c.healthCheck.pairwise_problems
  · exact c.loadBalancer.pairwise_problems
  · intro p before q behind
    obtain ⟨i, place⟩ := health before
    obtain ⟨j, place'⟩ := balancer behind
    simp [place, place', List.cons_lt_cons_iff]
  · exact pairwise_seedProblems [] 0 c.services
  · intro p before q behind
    obtain ⟨k, j, place'⟩ := seed behind
    obtain before | before := List.mem_append.mp before
    · obtain ⟨i, place⟩ := health before
      simp [place, place', List.cons_lt_cons_iff]
    · obtain ⟨i, place⟩ := balancer before
      simp [place, place', List.cons_lt_cons_iff]

/-- Fields with one path stand at one place. -/
theorem place_eq_of_field {p q : Problem} (same : p.field = q.field) : p.place = q.place := by
  have begins (i : Nat) (name : String) : (Problem.seedField i name).toList.head? = some 's' := by
    simp [Problem.seedField]
  -- the path of a field of a seed begins with another letter than all others
  have letters := congrArg (·.toList.head?) same
  cases p <;> cases q <;>
    simp [Problem.field, Problem.seedField_inj, begins] at same letters <;>
    simp [Problem.place, same]

/-- No field is named twice. -/
theorem nodup_fields (c : Config) : (c.problems.map Problem.field).Nodup := by
  refine List.pairwise_map.mpr (c.pairwise_problems.imp ?_)
  intro p q before same
  rw [place_eq_of_field same] at before
  exact List.lt_irrefl _ before

/-- A problem names the path of its field in the written configuration. -/
theorem Breaks.path_eq (broken : c.Breaks p) :
    c.toJson.path? p.place = some ("." ++ p.field) := by
  cases broken with
  | health broken => exact broken.path_eq
  | balancer broken => exact broken.path_eq
  | seed there broken => exact broken.path_eq there

/-- The problems of a health check section on its own are those that lie in it. -/
theorem mem_healthCheck_iff :
    p ∈ c.healthCheck.problems ↔ p ∈ c.problems ∧ p.LiesIn "health_check" := by
  constructor
  · intro listed
    have broken := HealthConfig.mem_problems_iff.mp listed
    exact ⟨mem_problems_iff.mpr (.health broken), broken.liesIn⟩
  · rintro ⟨listed, inside⟩
    cases mem_problems_iff.mp listed with
    | health broken => exact HealthConfig.mem_problems_iff.mpr broken
    | balancer broken => cases broken.liesIn.head?_eq.symm.trans inside.head?_eq
    | seed _ broken => cases broken.head?_field.symm.trans inside.head?_eq

/-- The problems of a load balancer section on its own are those that lie in it. -/
theorem mem_loadBalancer_iff :
    p ∈ c.loadBalancer.problems ↔ p ∈ c.problems ∧ p.LiesIn "load_balancer" := by
  constructor
  · intro listed
    have broken := BalancerConfig.mem_problems_iff.mp listed
    exact ⟨mem_problems_iff.mpr (.balancer broken), broken.liesIn⟩
  · rintro ⟨listed, inside⟩
    cases mem_problems_iff.mp listed with
    | health broken => cases broken.liesIn.head?_eq.symm.trans inside.head?_eq
    | balancer broken => exact BalancerConfig.mem_problems_iff.mpr broken
    | seed _ broken => cases broken.head?_field.symm.trans inside.head?_eq

theorem check_healthCheck_iff :
    c.healthCheck.check = .ok () ↔ ∀ p ∈ c.problems, ¬p.LiesIn "health_check" := by
  rw [HealthConfig.check, Problem.accept_iff_forall_not_mem]
  simp only [mem_healthCheck_iff, not_and]

theorem check_loadBalancer_iff :
    c.loadBalancer.check = .ok () ↔ ∀ p ∈ c.problems, ¬p.LiesIn "load_balancer" := by
  rw [BalancerConfig.check, Problem.accept_iff_forall_not_mem]
  simp only [mem_loadBalancer_iff, not_and]

end Config

/-! ## Sections in use -/

namespace Coordinator

variable {node : Coordinator} {id : String}

theorem checkSections_eq_ok_iff {health : Option HealthConfig} {balancer : Option BalancerConfig} :
    checkSections health balancer = .ok () ↔
      (∀ config, health = some config → config.check = .ok ()) ∧
        ∀ config, balancer = some config → config.check = .ok () := by
  refine ⟨check_of_checkSections, ?_⟩
  rintro ⟨healthy, balanced⟩
  cases health with
  | none =>
    cases balancer with
    | none => rfl
    | some config => exact balanced config rfl
  | some config =>
    refine Failure.bind_eq_ok_iff.mpr ⟨(), healthy config rfl, ?_⟩
    cases balancer with
    | none => rfl
    | some config => exact balanced config rfl

/-- Defaults are replaced exactly by sections that are accepted on their own. -/
theorem configure_eq_ok_iff {health : Option HealthConfig} {balancer : Option BalancerConfig} :
    (node.configure health balancer).1 = .ok () ↔
      (∀ config, health = some config → config.check = .ok ()) ∧
        ∀ config, balancer = some config → config.check = .ok () := by
  rw [← checkSections_eq_ok_iff]
  cases sections : checkSections health balancer with
  | error e => simp [configure, sections]
  | ok _ =>
    obtain ⟨healthy, balanced⟩ := check_of_checkSections sections
    simp [configure, sections, setHealth_of_check _ healthy, setBalancer_of_check _ balanced]

/-- A registered instance is watched exactly with a section that is accepted on its own. -/
theorem watch_eq_ok_iff (written : Text.isBlank id = false)
    (known : node.mesh.store.contains id = true) {config : HealthConfig} :
    (∃ next, node.watch id (some config) = .ok next) ↔ config.check = .ok () := by
  have taken_iff (monitor : Monitor) :
      node.mesh.monitor.watch node.mesh.store id config = .ok monitor ↔
        config.check = .ok () ∧ node.mesh.monitor.rewatched id config = monitor := by
    rw [Monitor.watch_eq_bind, Failure.requireText_of_written _ written, if_pos known]
    cases config.check with
    | error e => simp [bind, Except.bind]
    | ok _ => simp [bind, Except.bind]
  constructor
  · rintro ⟨next, watched⟩
    obtain ⟨monitor, taken, -⟩ := Failure.bind_eq_ok_iff.mp watched
    exact ((taken_iff monitor).mp taken).1
  · intro accepted
    exact ⟨_, Failure.bind_eq_ok_iff.mpr ⟨_, (taken_iff _).mpr ⟨accepted, rfl⟩, rfl⟩⟩

end Coordinator

namespace Config

/-- Checking a configuration lists each rule that is broken, and nothing else, in the order of the
fields in the written configuration. A problem names the path of its field, and no field is named
twice. The configuration is accepted if no rule is broken, and a section of it is accepted as a
default or for watching an instance if no problem of the configuration lies in the section. -/
theorem problems_exact (c : Config) :
    (∀ p, p ∈ c.problems ↔ c.Breaks p) ∧
    c.problems.Pairwise (·.place < ·.place) ∧
    (∀ p ∈ c.problems, c.toJson.path? p.place = some ("." ++ p.field)) ∧
    (c.problems.map Problem.field).Nodup ∧
    (c.check = .ok () ↔ ∀ p, ¬c.Breaks p) ∧
    (c.healthCheck.check = .ok () ↔ ∀ p ∈ c.problems, ¬p.LiesIn "health_check") ∧
    (c.loadBalancer.check = .ok () ↔ ∀ p ∈ c.problems, ¬p.LiesIn "load_balancer") ∧
    ∀ node : Coordinator,
      ((node.configure (some c.healthCheck) none).1 = .ok () ↔
        ∀ p ∈ c.problems, ¬p.LiesIn "health_check") ∧
      ((node.configure none (some c.loadBalancer)).1 = .ok () ↔
        ∀ p ∈ c.problems, ¬p.LiesIn "load_balancer") ∧
      ∀ id, Text.isBlank id = false → node.mesh.store.contains id = true →
        ((∃ next, node.watch id (some c.healthCheck) = .ok next) ↔
          ∀ p ∈ c.problems, ¬p.LiesIn "health_check") := by
  refine ⟨fun p => mem_problems_iff, c.pairwise_problems, ?_, c.nodup_fields, check_eq_ok_iff,
    check_healthCheck_iff, check_loadBalancer_iff, fun node => ⟨?_, ?_, ?_⟩⟩
  · intro p listed
    exact (mem_problems_iff.mp listed).path_eq
  · rw [Coordinator.configure_eq_ok_iff, ← check_healthCheck_iff]
    simp
  · rw [Coordinator.configure_eq_ok_iff, ← check_loadBalancer_iff]
    simp
  · intro id written known
    exact (Coordinator.watch_eq_ok_iff written known).trans check_healthCheck_iff

/-- An instance is watched with settings that are accepted, whatever else is wrong with the
configuration, and not with an interval of zero. -/
theorem problems_exact_watched :
    let record : Record :=
      { serviceName := "svc", id := "a", endpoint := "127.0.0.1", port := 8080, status := .healthy }
    let created : Coordinator :=
      { nodeId := .generated, listenPort := 0, initialStatus := .healthy }
    let node := (created.register record).2
    let wrong : Config := { loadBalancer := { responseTimeAlpha := 1.5 } }
    let worse : Config := { wrong with healthCheck := { intervalMs := 0 } }
    (Text.isBlank "a" = false ∧ node.mesh.store.contains "a" = true) ∧
      wrong.problems.map Problem.field = ["load_balancer.response_time_alpha"] ∧
      (∃ next, node.watch "a" (some wrong.healthCheck) = .ok next) ∧
      ¬ ∃ next, node.watch "a" (some worse.healthCheck) = .ok next := by
  intro record created node wrong worse
  have written : Text.isBlank "a" = false := by decide
  have known : node.mesh.store.contains "a" = true := by decide +kernel
  obtain ⟨-, -, -, -, -, sound, -, alone⟩ := problems_exact wrong
  obtain ⟨-, -, -, -, -, unsound, -, together⟩ := problems_exact worse
  have accepted := (alone node).2.2 "a" written known
  have refused := (together node).2.2 "a" written known
  refine ⟨⟨written, known⟩, by decide +kernel, accepted.mpr (sound.mp (by decide +kernel)), ?_⟩
  rw [refused, ← unsound]
  decide +kernel

example :
    let seed : Seed := { name := "svc", id := "a", endpoint := "127.0.0.1", port := 9000 }
    let c : Config := {
      healthCheck := { intervalMs := 0 }
      loadBalancer := { responseTimeAlpha := 1.5 }
      services := [seed, { seed with id := " ", weight := 0 }, seed] }
    c.problems.map Problem.field =
      ["health_check.interval_ms", "load_balancer.response_time_alpha", "services[1].id",
        "services[1].weight", "services[2].id"] := by
  decide +kernel

end Config

end ServiceMesh
