import ServiceMesh.CommandLine.Run
import ServiceMesh.Proofs.Config.Edits
import ServiceMesh.Proofs.Config.Rules
import ServiceMesh.Proofs.Decimal.Order
import ServiceMesh.Proofs.Json.Fraction

/-!
# Configurations that are written and read

The rates of an accepted configuration are finite, so it has a JSON form with all its values, and
that form, edited or not, is decoded to the same configuration. The text of the form is read in
binary64 arithmetic that rounds more than once, so a rate that was printed with many digits may come
back as a neighbour. Nothing else changes on the way through the text.
-/

namespace ServiceMesh

namespace Config

variable {c : Config} {d : Dialect} {n : Nat}

/-! ## The text of a configuration -/

private theorem fits_uint16 (k : UInt16) : Json.Fits n (.int k.toNat) := by
  have bound := k.toNat_lt
  exact .int (by omega) (by omega)

private theorem fits_uint32 (k : UInt32) : Json.Fits n (.int k.toNat) := by
  have bound := k.toNat_lt
  exact .int (by omega) (by omega)

private theorem fits_uint64 (k : UInt64) : Json.Fits n (.int k.toNat) := by
  have bound := k.toNat_lt
  exact .int (by omega) (by omega)

theorem fits_seed (s : Seed) : Json.Fits (n + 1) s.toJson := by
  refine .obj (by simp) ?_
  cases metadata : s.metadata <;>
    simp [Json.Fits.str, Json.Fits.null, fits_uint16, fits_uint32]

/-- The JSON form of a configuration has three levels, and the reader has room for it. -/
theorem fits_toJson (c : Config) : Json.Fits (n + 3) c.toJson := by
  have health : Json.Fits (n + 2) c.healthCheck.toJson :=
    .obj (by simp) (by simp [fits_uint32, fits_uint64])
  have balancer : Json.Fits (n + 2) c.loadBalancer.toJson :=
    .obj (by simp) (by
      simp [Json.Fits.str, Json.Fits.bool, Json.Fits.float, fits_uint32, fits_uint64])
  have registry : Json.Fits (n + 2) c.registry.toJson := .obj (by simp) (by simp [Json.Fits.str])
  have observability : Json.Fits (n + 2) c.observability.toJson :=
    .obj (by simp) (by simp [Json.Fits.str, Json.Fits.bool])
  have services : Json.Fits (n + 2) (.arr (c.services.map Seed.toJson)) := by
    refine .arr fun v mem => ?_
    obtain ⟨s, -, rfl⟩ := List.mem_map.mp mem
    exact fits_seed s
  refine .obj (by simp) ?_
  simp [Json.Fits.str, fits_uint16, health, balancer, registry, observability, services]

/-- What the reader makes of a rate that was printed. -/
def rereadRate (x : Float) : Option Float := (Json.rereadFloat x).bind float?

private theorem exists_rereadRate {x : Float} (low : 0.0 ≤ x) (high : x ≤ 1.0) :
    ∃ y, rereadRate x = some y := by
  obtain ⟨y, read⟩ := Json.exists_rereadFloat low high
  exact ⟨y, by rw [rereadRate, read]; rfl⟩

theorem reread_seed (s : Seed) : Json.reread s.toJson = some s.toJson := by
  cases metadata : s.metadata <;>
    simp [Seed.toJson, Json.reread, Json.rereadFields, metadata]

theorem reread_services (seeds : List Seed) :
    Json.rereadItems (seeds.map Seed.toJson) = some (seeds.map Seed.toJson) := by
  induction seeds with
  | nil => rfl
  | cons s seeds ih => simp [Json.rereadItems, reread_seed, ih]

/-- The load balancer section with its rates in JSON. -/
def balancerJson (c : BalancerConfig) (alpha rate : Json) : Json :=
  .obj
    [("algorithm", .str c.algorithm.name),
     ("enable_circuit_breaker", .bool c.breakerEnabled),
     ("circuit_breaker_threshold", .int c.breakerThreshold.toNat),
     ("circuit_breaker_timeout_ms", .int c.breakerTimeoutMs.toNat),
     ("hash_replicas", .int c.hashReplicas.toNat),
     ("weighted_random", .bool c.weightedRandom),
     ("response_time_alpha", alpha),
     ("success_window", .int c.successWindow.toNat),
     ("min_success_rate", rate)]

theorem reread_balancer (c : BalancerConfig) :
    Json.reread c.toJson = (Json.rereadFloat c.responseTimeAlpha).bind fun alpha =>
      (Json.rereadFloat c.minSuccessRate).map (balancerJson c alpha) := by
  simp only [BalancerConfig.toJson, Json.reread, Json.rereadFields]
  cases Json.rereadFloat c.responseTimeAlpha <;> cases Json.rereadFloat c.minSuccessRate <;> rfl

private theorem optional_of_lookup {fields : List (String × Json)} {name : String} {value : Json}
    {position : Nat} {base : α} {decode : Json → Option α}
    (there : Json.lookup name fields = some value) :
    (Section.named fields).optional position name base decode = decode value := by
  rw [Section.optional, Section.written?, there]

theorem balancer?_balancerJson (c : BalancerConfig) (alpha rate : Json) :
    balancer? d (balancerJson c alpha rate) = (float? alpha).bind fun alpha =>
      (float? rate).bind fun rate =>
        some { c with responseTimeAlpha := alpha, minSuccessRate := rate } := by
  obtain ⟨fields, object, algorithm, enabled, threshold, timeout, replicas, weighted, first,
      window, last⟩ : ∃ fields, balancerJson c alpha rate = .obj fields ∧
      Json.lookup "algorithm" fields = some (.str c.algorithm.name) ∧
      Json.lookup "enable_circuit_breaker" fields = some (.bool c.breakerEnabled) ∧
      Json.lookup "circuit_breaker_threshold" fields = some (.int c.breakerThreshold.toNat) ∧
      Json.lookup "circuit_breaker_timeout_ms" fields = some (.int c.breakerTimeoutMs.toNat) ∧
      Json.lookup "hash_replicas" fields = some (.int c.hashReplicas.toNat) ∧
      Json.lookup "weighted_random" fields = some (.bool c.weightedRandom) ∧
      Json.lookup "response_time_alpha" fields = some alpha ∧
      Json.lookup "success_window" fields = some (.int c.successWindow.toNat) ∧
      Json.lookup "min_success_rate" fields = some rate :=
    ⟨_, rfl, rfl, rfl, rfl, rfl, rfl, rfl, rfl, rfl, rfl⟩
  have named : algorithm? d (.str c.algorithm.name) = some c.algorithm :=
    (outlasts_algorithm d).decodes _ _ rfl
  have short (k : UInt32) : uint32? (.int k.toNat) = some k := outlasts_uint32.decodes _ _ rfl
  have long (k : UInt64) : uint64? (.int k.toNat) = some k := outlasts_uint64.decodes _ _ rfl
  simp [balancer?, object, Section.ofJson?, bool?, named, short, long, optional_of_lookup algorithm,
    optional_of_lookup enabled, optional_of_lookup threshold, optional_of_lookup timeout,
    optional_of_lookup replicas, optional_of_lookup weighted, optional_of_lookup first,
    optional_of_lookup window, optional_of_lookup last]

/-- The JSON form of a configuration with its load balancer section. -/
def configJson (c : Config) (balancer : Json) : Json :=
  .obj
    [("node_id", .str c.nodeId),
     ("listen_port", .int c.listenPort.toNat),
     ("health_check", c.healthCheck.toJson),
     ("load_balancer", balancer),
     ("registry", c.registry.toJson),
     ("observability", c.observability.toJson),
     ("services", .arr (c.services.map Seed.toJson))]

theorem reread_config (c : Config) :
    Json.reread c.toJson = (Json.reread c.loadBalancer.toJson).map (configJson c) := by
  have health : Json.reread c.healthCheck.toJson = some c.healthCheck.toJson := rfl
  have registry : Json.reread c.registry.toJson = some c.registry.toJson := rfl
  have observability : Json.reread c.observability.toJson = some c.observability.toJson := rfl
  cases balancer : Json.reread c.loadBalancer.toJson <;>
    simp [Config.toJson, configJson, Json.reread, Json.rereadFields, health, registry,
      observability, reread_services, balancer]

theorem ofJson?_configJson (c : Config) (balancer : Json) :
    ofJson? d (configJson c balancer) =
      (balancer? d balancer).bind fun loadBalancer => some { c with loadBalancer } := by
  obtain ⟨fields, object, node, port, health, middle, registry, observability, services⟩ :
      ∃ fields, configJson c balancer = .obj fields ∧
      Json.lookup "node_id" fields = some (.str c.nodeId) ∧
      Json.lookup "listen_port" fields = some (.int c.listenPort.toNat) ∧
      Json.lookup "health_check" fields = some c.healthCheck.toJson ∧
      Json.lookup "load_balancer" fields = some balancer ∧
      Json.lookup "registry" fields = some c.registry.toJson ∧
      Json.lookup "observability" fields = some c.observability.toJson ∧
      Json.lookup "services" fields = some (.arr (c.services.map Seed.toJson)) :=
    ⟨_, rfl, rfl, rfl, rfl, rfl, rfl, rfl, rfl⟩
  have text := outlasts_text.undone c.nodeId
  have number := outlasts_uint16.undone c.listenPort
  have healthy := (outlasts_health (d := d)).undone c.healthCheck
  have registered := (outlasts_registry (d := d)).undone c.registry
  have observed := (outlasts_observability (d := d)).undone c.observability
  have seeded := (outlasts_seed (d := d)).list.undone c.services
  simp only [ofJson?, object, Section.ofJson?, optional_of_lookup node, optional_of_lookup port,
    optional_of_lookup health, optional_of_lookup middle, optional_of_lookup registry,
    optional_of_lookup observability, optional_of_lookup services, text, number, healthy,
    registered, observed, seeded, Option.bind_eq_bind, Option.bind_some, Option.pure_def]

/-- What follows the reading of a printed configuration. It is any function here: the kernel would
run the decoder itself to see that it is not touched. -/
theorem bind_reread (c : Config) (next : Json → Option α) :
    (Json.reread c.toJson).bind next = (Json.rereadFloat c.loadBalancer.responseTimeAlpha).bind
      fun alpha => (Json.rereadFloat c.loadBalancer.minSuccessRate).bind fun rate =>
        next (configJson c (balancerJson c.loadBalancer alpha rate)) := by
  rw [reread_config, reread_balancer]
  cases Json.rereadFloat c.loadBalancer.responseTimeAlpha <;>
    cases Json.rereadFloat c.loadBalancer.minSuccessRate <;> rfl

/-- A configuration that is read from its text is the same, with its rates as they are read. -/
theorem read_pretty (c : Config) {after : String}
    (space : ∀ x ∈ after.toList, Json.isSpace x = true) :
    (Json.read? (Json.pretty c.toJson ++ after)).bind (ofJson? d) =
      (rereadRate c.loadBalancer.responseTimeAlpha).bind fun alpha =>
        (rereadRate c.loadBalancer.minSuccessRate).bind fun rate =>
          some { c with loadBalancer :=
            { c.loadBalancer with responseTimeAlpha := alpha, minSuccessRate := rate } } := by
  have fits : Json.Fits Json.Machine.depthLimit c.toJson := fits_toJson (n := 124) c
  rw [Json.pretty, Json.read?_render Json.Layout.blank_pretty fits space, bind_reread]
  simp only [rereadRate, ofJson?_configJson, balancer?_balancerJson]
  cases Json.rereadFloat c.loadBalancer.responseTimeAlpha with
  | none => rfl
  | some alpha =>
    cases Json.rereadFloat c.loadBalancer.minSuccessRate with
    | none => cases first : float? alpha <;> simp [first]
    | some rate =>
      cases first : float? alpha <;> cases last : float? rate <;> simp [first, last]

/-- The text that is shown is read back as the configuration exactly if its rates are read back from
their decimals. -/
theorem read_pretty_eq_some_iff {after : String}
    (space : ∀ x ∈ after.toList, Json.isSpace x = true) :
    (Json.read? (Json.pretty c.toJson ++ after)).bind (ofJson? d) = some c ↔
      rereadRate c.loadBalancer.responseTimeAlpha = some c.loadBalancer.responseTimeAlpha ∧
        rereadRate c.loadBalancer.minSuccessRate = some c.loadBalancer.minSuccessRate := by
  rw [read_pretty c space]
  constructor
  · intro back
    obtain ⟨alpha, first, back⟩ := Option.bind_eq_some_iff.mp back
    obtain ⟨rate, last, back⟩ := Option.bind_eq_some_iff.mp back
    have same := congrArg Config.loadBalancer (Option.some.inj back)
    rw [first, last, ← same]
    exact ⟨rfl, rfl⟩
  · rintro ⟨first, last⟩
    rw [first, Option.bind_some, last]
    rfl

/-- An accepted configuration comes back from its JSON form. Its rates are finite; its JSON
form, also after fields that hold their defaults were left out and unknown ones were added at any
depth, is decoded to the same configuration, which is accepted again. The text that is shown is
read as the same configuration with its rates as the reader makes out their decimals, and so as
the configuration itself exactly if both are read as they were. -/
theorem toJson_round_trip (c : Config) (accepted : c.check = .ok ()) :
    (c.loadBalancer.responseTimeAlpha.isFinite = true ∧
        c.loadBalancer.minSuccessRate.isFinite = true) ∧
      (ofJson? .json c.toJson = some c ∧
        ∀ v, Edited configSchema c.toJson v →
          ofJson? .json v = some c ∧ (ofJson? .json v).map Config.check = some (.ok ())) ∧
      ∀ (path : String) (draws : Draws), ∃ text,
        CommandLine.Command.show.output path c draws = .ok text ∧
          (∃ alpha rate, rereadRate c.loadBalancer.responseTimeAlpha = some alpha ∧
            rereadRate c.loadBalancer.minSuccessRate = some rate ∧
            (Json.read? text).bind (ofJson? .json) = some { c with loadBalancer :=
              { c.loadBalancer with responseTimeAlpha := alpha, minSuccessRate := rate } }) ∧
          ((Json.read? text).bind (ofJson? .json) = some c ↔
            rereadRate c.loadBalancer.responseTimeAlpha = some c.loadBalancer.responseTimeAlpha ∧
              rereadRate c.loadBalancer.minSuccessRate = some c.loadBalancer.minSuccessRate) := by
  obtain ⟨-, balancer⟩ := sections_of_check accepted
  obtain ⟨⟨pos, high⟩, low', high'⟩ := BalancerConfig.rates_of_check balancer
  have low := Decimal.le_of_lt pos
  have zero : (0.0 : Float).isFinite = true := by decide +kernel
  have one : (1.0 : Float).isFinite = true := by decide +kernel
  have law := outlasts_config (d := .json)
  have space : ∀ x ∈ "\n".toList, Json.isSpace x = true := by simp [Json.isSpace]
  refine ⟨⟨Decimal.isFinite_of_mem_range low high zero one,
    Decimal.isFinite_of_mem_range low' high' zero one⟩, ⟨law.undone c, ?_⟩, ?_⟩
  · intro v edit
    have back := law.decodes c v edit
    exact ⟨back, by rw [back, Option.map_some, accepted]⟩
  · intro path draws
    obtain ⟨alpha, first⟩ := exists_rereadRate low high
    obtain ⟨rate, last⟩ := exists_rereadRate low' high'
    have read := read_pretty (d := .json) c space
    rw [first, Option.bind_some, last] at read
    exact ⟨_, rfl, ⟨alpha, rate, first, last, read⟩, read_pretty_eq_some_iff space⟩

/-- A node with a name comes back from that name with a note beside it, and from the text that is
shown. -/
theorem toJson_round_trip_named : let c : Config := { nodeId := "a" }
    c.check = .ok () ∧
      ofJson? .json (.obj [("note", .null), ("node_id", .str "a")]) = some c ∧
      ∀ draws, ∃ text, CommandLine.Command.show.output "mesh.toml" c draws = .ok text ∧
        (Json.read? text).bind (ofJson? .json) = some c := by
  intro c
  have accepted : c.check = .ok () := by decide +kernel
  obtain ⟨-, ⟨-, edits⟩, shows⟩ := toJson_round_trip c accepted
  refine ⟨accepted, (edits _ (.obj ?_)).1, fun draws => ?_⟩
  · have unknown : ∀ f ∈ configSchema.fields, f.name ≠ "note" := by simp [configSchema]
    have others : ∀ f ∈ configSchema.fields.tail, f ∈ configSchema.fields :=
      fun f mem => List.mem_of_mem_tail mem
    exact .add unknown (.keep (.head _) rfl (.emptied others (by simp [configSchema, c])))
  · obtain ⟨text, shown, -, same⟩ := shows "mesh.toml" draws
    exact ⟨text, shown, same.mpr ⟨by decide +kernel, by decide +kernel⟩⟩

/-- A rate of sixteen digits that is shown as it is and read as its neighbour. -/
theorem exists_shown_otherwise : ∃ c : Config, c.check = .ok () ∧
    ∀ (path : String) (draws : Draws) (text : String),
      CommandLine.Command.show.output path c draws = .ok text →
        (Json.read? text).bind (ofJson? .json) ≠ some c := by
  refine ⟨{ loadBalancer := { responseTimeAlpha := 0.9427325973616213 } }, by decide +kernel, ?_⟩
  intro path draws text shown back
  cases shown
  have space : ∀ x ∈ "\n".toList, Json.isSpace x = true := by simp [Json.isSpace]
  have rates := (read_pretty_eq_some_iff space).mp back
  exact absurd rates.1 (by decide +kernel)

end Config

end ServiceMesh
