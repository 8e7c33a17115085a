import ServiceMesh.Proofs.Config.Rules
import ServiceMesh.Proofs.Coordinator.Attached
import ServiceMesh.Proofs.Coordinator.Posts

/-!
# Coming up

A node comes up by registering its seeds one after the other in an empty registry, and by
watching each of them. The rules for seeds were checked before. They make sure that names and
ids are written, that no id is there twice and that no weight is zero, so a registration can
only be refused for an endpoint that is blank, for which there is no rule.
-/

namespace ServiceMesh

namespace Seed

/-- The metadata of a seed whose metadata can be read. -/
def metadataValue (seed : Seed) : Json :=
  match seed.metadata with
  | none => .null
  | some text => (metadataOfText text).toOption.getD .null

/-- Whether the metadata of a seed can be read, where it has any. -/
def Readable (seed : Seed) : Prop :=
  ∀ text, seed.metadata = some text → ∃ value, metadataOfText text = .ok value

/-- The record of a seed when it is registered. -/
def planted (seed : Seed) (status : Status) : Record :=
  { serviceName := seed.name
    id := seed.id
    endpoint := seed.endpoint
    port := seed.port
    weight := seed.weight
    status
    metadata := seed.metadataValue }

theorem record_eq {seed : Seed} (readable : seed.Readable) :
    seed.record = .ok (seed.planted .unknown) := by
  rw [record, planted, metadataValue]
  cases given : seed.metadata with
  | none => rfl
  | some text =>
    obtain ⟨value, read⟩ := readable text given
    simp only [read]
    rfl

end Seed

namespace Monitor

private theorem defaults_endLoop (m : Monitor) (id : String) :
    (m.endLoop id).defaults = m.defaults := by
  unfold endLoop
  split <;> rfl

private theorem defaults_beginLoop (m : Monitor) (id : String) :
    (m.beginLoop id).defaults = m.defaults := by
  unfold beginLoop
  split <;> rfl

private theorem defaults_rewatched (m : Monitor) (id : String) (settings : HealthConfig) :
    (m.rewatched id settings).defaults = m.defaults := by
  unfold rewatched
  split
  · rw [defaults_beginLoop]
    exact m.defaults_endLoop id
  · exact m.defaults_endLoop id

end Monitor

namespace Coordinator

variable {c : Coordinator} {config : Config} {done rest : List Seed}

/-! ## Seeds one after the other -/

/-- The seeds that are registered and watched in a node that comes up. -/
structure Planted (config : Config) (done : List Seed) (c : Coordinator) : Prop where
  attached : c.mesh.Attached
  created : c.lifecycle = .created
  initial : c.initialStatus = config.registry.initialStatus
  defaults : c.mesh.monitor.defaults = config.healthCheck
  store : Represents c.mesh.store ⟨done.map fun seed => seed.planted config.registry.initialStatus⟩
  watched : ∀ id, c.mesh.monitor.settings? id =
    if id ∈ done.map Seed.id then some config.healthCheck else none

theorem planted_fresh (config : Config) (targets : Table Target) :
    Planted config [] ((fresh config).facing targets) where
  attached := attached_fresh config
  created := rfl
  initial := rfl
  defaults := rfl
  store := Represents.empty
  watched _ := rfl

/-- What the rules ask of a seed that is to come after some others. -/
structure Sound (done : List Seed) (seed : Seed) : Prop where
  name : Text.isBlank seed.name = false
  id : Text.isBlank seed.id = false
  weight : seed.weight ≠ 0
  new : seed.id ∉ done.map Seed.id

variable {seed : Seed}

theorem validate_planted (sound : Sound done seed) (status : Status) :
    (seed.planted status).validate =
      if Text.isBlank seed.endpoint then .error (.blank "endpoint") else .ok () := by
  have heavy : (seed.weight == 0) = false := beq_eq_false_iff_ne.mpr sound.weight
  simp only [Record.validate, Seed.planted, heavy]
  rw [Failure.requireText_of_written _ sound.name, Failure.requireText_of_written _ sound.id,
    Failure.requireText]
  split <;> rfl

/-- A seed with a blank endpoint cannot be registered. -/
theorem plant_of_blank (sound : Sound done seed) (readable : seed.Readable)
    (blank : Text.isBlank seed.endpoint = true) :
    c.plant (seed :: rest) = .error (.blank "endpoint") := by
  have refused : c.registered (seed.planted .unknown) = .error (.blank "endpoint") := by
    rw [registered, register, validate_planted sound, blank]
    rfl
  rw [plant, Seed.record_eq readable]
  simp only [bind, Except.bind, refused]

/-- The record of a new seed is appended to those of the others. -/
theorem represents_register (planted : Planted config done c) (sound : Sound done seed)
    (written : Text.isBlank seed.endpoint = false) :
    c.mesh.store.contains seed.id = false ∧
      Represents (c.mesh.store.register (seed.planted config.registry.initialStatus)).2
        ⟨(done ++ [seed]).map fun seed => seed.planted config.registry.initialStatus⟩ := by
  have absent : Roster.find? ⟨done.map fun seed => seed.planted config.registry.initialStatus⟩
      seed.id = none := by
    rw [Roster.find?_eq_none_iff]
    intro r there same
    obtain ⟨other, listed, rfl⟩ := List.mem_map.mp there
    exact sound.new (List.mem_map.mpr ⟨other, listed, same⟩)
  have valid : (seed.planted config.registry.initialStatus).validate = .ok () := by
    rw [validate_planted sound, written]
    rfl
  refine ⟨by rw [planted.store.contains_eq, absent]; rfl, ?_⟩
  have next := (planted.store.register (seed.planted config.registry.initialStatus)).2.1
  have absent' : Roster.find? ⟨done.map fun seed => seed.planted config.registry.initialStatus⟩
      (seed.planted config.registry.initialStatus).id = none := absent
  rw [Roster.register, valid, absent'] at next
  rw [List.map_append]
  exact next

/-- A request to watch a registered instance with sound settings is accepted. -/
theorem watch_of_contains {m : Monitor} {store : Store} {id : String} {settings : HealthConfig}
    (written : Text.isBlank id = false) (accepted : settings.check = .ok ())
    (there : store.contains id = true) :
    m.watch store id settings = .ok (m.rewatched id settings) := by
  rw [Monitor.watch, Failure.requireText_of_written _ written, accepted, Monitor.rewatched,
    ← m.running_endLoop id]
  simp only [bind, Except.bind, there, if_true]
  rfl

variable (rest) in
/-- A seed with an endpoint is registered and watched. -/
theorem plant_of_written (planted : Planted config done c) (sound : Sound done seed)
    (readable : seed.Readable) (written : Text.isBlank seed.endpoint = false)
    (accepted : config.healthCheck.check = .ok ()) :
    ∃ next, Planted config (done ++ [seed]) next ∧ c.plant (seed :: rest) = next.plant rest := by
  have valid (status : Status) : (seed.planted status).validate = .ok () := by
    rw [validate_planted sound, written]
    rfl
  obtain ⟨free, represents⟩ := represents_register planted sound written
  have registers := c.register_of_free (valid .unknown) free
  have attached : (c.setMesh (c.added (seed.planted .unknown))).mesh.Attached :=
    attached_call (.register _ (valid .unknown) free) planted.attached
  have store : (c.added (seed.planted .unknown)).store =
      (c.mesh.store.register (seed.planted config.registry.initialStatus)).2 := by
    rw [← planted.initial]
    rfl
  have there : (c.added (seed.planted .unknown)).store.contains seed.id = true := by
    have done := Store.register_ok (valid config.registry.initialStatus) free
    rw [store, Store.contains_register done, adding]
    simp [Seed.planted]
  have watches : (c.setMesh (c.added (seed.planted .unknown))).watch seed.id none =
      .ok ((c.setMesh (c.added (seed.planted .unknown))).setMonitor
        (c.mesh.monitor.rewatched seed.id config.healthCheck)) := by
    have accepts : c.mesh.monitor.watch (c.added (seed.planted .unknown)).store seed.id
        c.mesh.monitor.defaults = .ok (c.mesh.monitor.rewatched seed.id config.healthCheck) := by
      rw [planted.defaults]
      exact watch_of_contains sound.id accepted there
    change (c.mesh.monitor.watch (c.added (seed.planted .unknown)).store seed.id
      c.mesh.monitor.defaults >>= _) = _
    rw [accepts]
    rfl
  refine ⟨(c.setMesh (c.added (seed.planted .unknown))).setMonitor
    (c.mesh.monitor.rewatched seed.id config.healthCheck), ?_, ?_⟩
  · refine ⟨attached_call (call_of_watch watches) attached, planted.created, planted.initial,
      ?_, ?_, ?_⟩
    · exact (c.mesh.monitor.defaults_rewatched seed.id config.healthCheck).trans planted.defaults
    · exact store ▸ represents
    · intro id
      change (c.mesh.monitor.rewatched seed.id config.healthCheck).settings? id = _
      by_cases own : seed.id = id
      · subst own
        rw [Monitor.settings?_rewatched_self, if_pos (by simp)]
      · rw [Monitor.settings?_rewatched_ne _ own, planted.watched]
        simp [Ne.symm own]
  · rw [plant, Seed.record_eq readable]
    simp only [bind, Except.bind, registered, registers, watches]

/-- The seeds that are left are registered and watched one after the other, until one has a
blank endpoint. -/
theorem plant_cases (planted : Planted config done c) (accepted : config.healthCheck.check = .ok ())
    (sound : ∀ seed ∈ rest, Text.isBlank seed.name = false ∧ Text.isBlank seed.id = false ∧
      seed.weight ≠ 0) (unique : ((done ++ rest).map Seed.id).Nodup)
    (readable : ∀ seed ∈ rest, seed.Readable) :
    ((∃ seed ∈ rest, Text.isBlank seed.endpoint = true) →
      c.plant rest = .error (.blank "endpoint")) ∧
    ((∀ seed ∈ rest, Text.isBlank seed.endpoint = false) →
      ∃ next, c.plant rest = .ok next ∧ Planted config (done ++ rest) next) := by
  induction rest generalizing c done with
  | nil =>
    constructor
    · rintro ⟨seed, there, -⟩
      cases there
    · intro _
      exact ⟨c, rfl, by rwa [List.append_nil]⟩
  | cons seed rest ih =>
    obtain ⟨⟨name, id, weight⟩, others⟩ := List.forall_mem_cons.mp sound
    obtain ⟨reads, others_read⟩ := List.forall_mem_cons.mp readable
    have new : seed.id ∉ done.map Seed.id := by
      rw [List.map_append, List.nodup_append] at unique
      intro there
      exact unique.2.2 _ there _ List.mem_cons_self rfl
    have sound : Sound done seed := ⟨name, id, weight, new⟩
    cases written : Text.isBlank seed.endpoint with
    | true =>
      refine ⟨fun _ => plant_of_blank sound reads written, fun all => ?_⟩
      exact nomatch written.symm.trans (all seed List.mem_cons_self)
    | false =>
      obtain ⟨next, planted', step⟩ := plant_of_written rest planted sound reads written accepted
      have split : done ++ seed :: rest = done ++ [seed] ++ rest := by simp
      rw [split] at unique ⊢
      obtain ⟨stops, goes⟩ := ih planted' others unique others_read
      rw [step]
      refine ⟨fun accepts => stops ?_,
        fun all => goes fun s hs => all s (List.mem_cons_of_mem _ hs)⟩
      simpa [written] using accepts

/-! ## Nodes that come up -/

theorem bootstrap_eq (accepted : config.check = .ok ()) (targets : Table Target) :
    bootstrap config targets =
      ((fresh config).facing targets).plant config.services >>= fun c => .ok c.start := by
  rw [bootstrap, create, accepted]
  rfl

/-- A node with a configuration that is accepted, and with metadata that can be read, comes up
just if no seed has a blank endpoint, whatever its probes meet; with a blank endpoint it is
refused. When it has come up it is started, exactly its seeds are registered, in their order
and with the initial status, and exactly these are watched, with the default configuration,
and have a loop. -/
theorem bootstrap_of_check (config : Config) (targets : Table Target)
    (accepted : config.check = .ok ()) (readable : ∀ seed ∈ config.services, seed.Readable) :
    ((∃ seed ∈ config.services, Text.isBlank seed.endpoint = true) →
      bootstrap config targets = .error (.blank "endpoint")) ∧
    ((∀ seed ∈ config.services, Text.isBlank seed.endpoint = false) →
      ∃ c, bootstrap config targets = .ok c ∧ c.lifecycle = .started ∧
        (∀ name, c.mesh.store.members name =
          (config.services.filter (·.name == name)).map
            (·.planted config.registry.initialStatus)) ∧
        (∀ id, c.mesh.store.find? id =
          (config.services.find? (·.id == id)).map (·.planted config.registry.initialStatus)) ∧
        (∀ id, c.mesh.monitor.settings? id =
          if id ∈ config.services.map Seed.id then some config.healthCheck else none) ∧
        ∀ id, (c.mesh.monitor.post? id).isSome = c.mesh.monitor.isWatched id) := by
  obtain ⟨healthy, -⟩ := Config.sections_of_check accepted
  obtain ⟨sound, unique⟩ := Config.seeds_of_check accepted
  obtain ⟨stops, goes⟩ := plant_cases (planted_fresh config targets) healthy sound unique readable
  rw [bootstrap_eq accepted]
  constructor
  · intro blank
    rw [stops blank]
    rfl
  · intro written
    obtain ⟨c, done, planted⟩ := goes written
    rw [List.nil_append] at planted
    have begun : c.start = { c.setMonitor c.mesh.monitor.run with lifecycle := .started } :=
      if_neg (by simp [planted.created])
    refine ⟨c.start, by rw [done]; rfl, by rw [begun], ?_, ?_, ?_, ?_⟩
    · intro name
      rw [begun]
      exact (planted.store.members_eq name).trans List.filter_map
    · intro id
      rw [begun]
      exact (planted.store.find? id).trans List.find?_map
    · intro id
      rw [begun]
      exact (c.mesh.monitor.settings?_run id).trans (planted.watched id)
    · intro id
      rw [begun]
      change (c.mesh.monitor.run.post? id).isSome = c.mesh.monitor.run.isWatched id
      rw [Monitor.isSome_post?_run, Monitor.isWatched_eq, Monitor.isWatched_eq,
        Monitor.settings?_run]

/-- A configuration with one seed. -/
def seeded (endpoint : String) : Config :=
  { services := [{ name := "svc", id := "a", endpoint, port := 1 }] }

theorem bootstrap_of_check_seeded :
    (seeded "127.0.0.1").check = .ok () ∧ ∃ c, bootstrap (seeded "127.0.0.1") = .ok c ∧
      (c.mesh.store.members "svc").map Record.id = ["a"] ∧
      c.mesh.monitor.settings? "a" = some (seeded "127.0.0.1").healthCheck := by
  have accepted : (seeded "127.0.0.1").check = .ok () :=
    Problem.accept_eq_ok_iff.mpr (by decide +kernel)
  have readable : ∀ seed ∈ (seeded "127.0.0.1").services, seed.Readable := by
    simp [seeded, Seed.Readable]
  obtain ⟨c, up, -, members, -, watched, -⟩ :=
    (bootstrap_of_check (seeded "127.0.0.1") ∅ accepted readable).2 (by decide +kernel)
  refine ⟨accepted, c, up, ?_, watched "a"⟩
  rw [members]
  rfl

/-- No rule asks for an endpoint, and a seed without one keeps the node from coming up. -/
theorem accepted_seed_refused :
    (seeded " ").check = .ok () ∧ (∀ seed ∈ (seeded " ").services, seed.metadata = none) ∧
      bootstrap (seeded " ") = .error (.blank "endpoint") := by
  have accepted : (seeded " ").check = .ok () :=
    Problem.accept_eq_ok_iff.mpr (by decide +kernel)
  have sound : Sound [] { name := "svc", id := "a", endpoint := " ", port := 1 } :=
    ⟨by decide +kernel, by decide +kernel, by decide, List.not_mem_nil⟩
  have refused : ((fresh (seeded " ")).facing ∅).plant (seeded " ").services =
      .error (.blank "endpoint") := plant_of_blank sound nofun (by decide +kernel)
  refine ⟨accepted, by simp [seeded], ?_⟩
  rw [bootstrap_eq accepted, refused]
  rfl

end Coordinator

end ServiceMesh
