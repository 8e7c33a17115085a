import Mathlib.Data.List.Forall2
import Mathlib.Data.List.Nodup
import ServiceMesh.Config.Decode
import ServiceMesh.Config.Encode

/-!
# Edited configurations

The JSON form of a configuration may be edited before it is decoded: fields that hold their defaults
are left out, and fields that no section knows are added, on every level. What is decoded is the
configuration that was encoded. A schema names the fields of a section, their defaults and what may
become of their values, so that one law covers all sections.
-/

namespace ServiceMesh.Config

/-- A field of a section. -/
structure Field where
  name : String
  /-- what a field that is not written stands for -/
  default? : Option Json
  /-- what may be written in place of a value -/
  edited : Json → Json → Prop := Eq

/-- The fields of a section, in the order in which they are written. -/
structure Schema where
  fields : List Field
  distinct : (fields.map Field.name).Nodup

/-- The fields of a section after some that held their defaults were left out, and some that the
section does not know were added. -/
inductive EditedFields (schema : Schema) : List (String × Json) → List (String × Json) → Prop
  | done : EditedFields schema [] []
  | keep {f : Field} {v w : Json} {old new : List (String × Json)} (known : f ∈ schema.fields)
      (edited : f.edited v w) (rest : EditedFields schema old new) :
      EditedFields schema ((f.name, v) :: old) ((f.name, w) :: new)
  | leave {f : Field} {v : Json} {old new : List (String × Json)} (known : f ∈ schema.fields)
      (holds : f.default? = some v) (rest : EditedFields schema old new) :
      EditedFields schema ((f.name, v) :: old) new
  | add {name : String} {w : Json} {old new : List (String × Json)}
      (unknown : ∀ f ∈ schema.fields, f.name ≠ name) (rest : EditedFields schema old new) :
      EditedFields schema old ((name, w) :: new)

/-- A section after an edit of its fields. -/
inductive Edited (schema : Schema) : Json → Json → Prop
  | obj {old new : List (String × Json)} (fields : EditedFields schema old new) :
      Edited schema (.obj old) (.obj new)

/-- A list after an edit of each of its elements. -/
inductive EditedList (edited : Json → Json → Prop) : Json → Json → Prop
  | arr {old new : List Json} (each : List.Forall₂ edited old new) :
      EditedList edited (.arr old) (.arr new)

/-! ## Looking up fields -/

variable {schema : Schema} {f : Field} {old new : List (String × Json)} {v : Json}

theorem Schema.eq_of_name_eq {g : Field} (hf : f ∈ schema.fields) (hg : g ∈ schema.fields)
    (same : g.name = f.name) : g = f :=
  List.inj_on_of_nodup_map schema.distinct hg hf same

private theorem lookup_of_not_mem {name : String} {fields : List (String × Json)}
    (absent : name ∉ fields.map Prod.fst) : Json.lookup name fields = none := by
  induction fields with
  | nil => rfl
  | cons field fields ih =>
    obtain ⟨other, w⟩ := field
    simp only [List.map_cons, List.mem_cons, not_or] at absent
    rw [Json.lookup, if_neg (Ne.symm absent.1), ih absent.2]

namespace EditedFields

/-- A known field that was not there is not there after the edit. -/
theorem not_mem (edited : EditedFields schema old new) (known : f ∈ schema.fields)
    (absent : f.name ∉ old.map Prod.fst) : f.name ∉ new.map Prod.fst := by
  induction edited with
  | done => exact absent
  | keep _ _ _ ih =>
    simp only [List.map_cons, List.mem_cons, not_or] at absent ⊢
    exact ⟨absent.1, ih absent.2⟩
  | leave _ _ _ ih => exact ih fun mem => absent (List.mem_cons_of_mem _ mem)
  | add unknown _ ih =>
    simp only [List.map_cons, List.mem_cons, not_or]
    exact ⟨unknown f known, ih absent⟩

/-- A known field that was there is there with an edited value, or it was left out with its
default. -/
theorem lookup (edited : EditedFields schema old new) (once : (old.map Prod.fst).Nodup)
    (known : f ∈ schema.fields) (was : (f.name, v) ∈ old) :
    (∃ w, Json.lookup f.name new = some w ∧ f.edited v w) ∨
      Json.lookup f.name new = none ∧ f.default? = some v := by
  induction edited with
  | done => cases was
  | @keep g v' w' old new hg edit rest ih =>
    rw [List.map_cons, List.nodup_cons] at once
    rw [Json.lookup]
    by_cases same : g.name = f.name
    · cases schema.eq_of_name_eq known hg same
      rw [if_pos rfl]
      rcases List.mem_cons.mp was with first | later
      · cases first
        exact .inl ⟨w', rfl, edit⟩
      · exact absurd (List.mem_map_of_mem later) once.1
    · rw [if_neg same]
      refine ih once.2 ((List.mem_cons.mp was).resolve_left fun first => ?_)
      exact same (congrArg Prod.fst first).symm
  | @leave g v' old new hg holds rest ih =>
    rw [List.map_cons, List.nodup_cons] at once
    rcases List.mem_cons.mp was with first | later
    · obtain ⟨same, rfl⟩ := Prod.mk.inj first
      cases schema.eq_of_name_eq known hg same.symm
      exact .inr ⟨lookup_of_not_mem (rest.not_mem known once.1), holds⟩
    · exact ih once.2 later
  | @add name w old new unknown rest ih =>
    rw [Json.lookup, if_neg (Ne.symm (unknown f known))]
    exact ih once was

end EditedFields

/-! ## Values that outlast an edit -/

/-- A value is decoded from all that its encoding may become. -/
structure Outlasts (encode : α → Json) (edited : Json → Json → Prop) (decode : Json → Option α) :
    Prop where
  decodes : ∀ x w, edited (encode x) w → decode w = some x
  unedited : ∀ x, edited (encode x) (encode x)

variable {encode : α → Json} {edited : Json → Json → Prop} {decode : Json → Option α}

/-- Where nothing is edited, decoding has to undo encoding. -/
theorem Outlasts.of_eq (undone : ∀ x, decode (encode x) = some x) : Outlasts encode Eq decode where
  decodes x _ same := same ▸ undone x
  unedited _ := rfl

theorem Outlasts.undone (law : Outlasts encode edited decode) (x : α) :
    decode (encode x) = some x := law.decodes x _ (law.unedited x)

theorem Outlasts.injective (law : Outlasts encode edited decode) : Function.Injective encode := by
  intro x y same
  have both := law.undone x
  rw [same, law.undone y] at both
  exact (Option.some.inj both).symm

theorem Outlasts.list (law : Outlasts encode edited decode) :
    Outlasts (fun xs => .arr (xs.map encode)) (EditedList edited) (list? decode) where
  decodes xs w edit := by
    cases edit with
    | @arr _ new each =>
      show new.mapM decode = some xs
      induction xs generalizing new with
      | nil =>
        cases each
        rfl
      | cons x xs ih =>
        cases each with
        | cons first rest => rw [List.mapM_cons, law.decodes x _ first, ih rest]; rfl
  unedited xs := .arr (List.forall₂_same.mpr fun v mem => by
    obtain ⟨x, -, rfl⟩ := List.mem_map.mp mem
    exact law.unedited x)

namespace EditedFields

variable {x : α} {name : String}

/-- A field with a default is decoded from an edited section. -/
theorem optional (fields : EditedFields schema old new)
    (written : old.map Prod.fst = schema.fields.map Field.name) (position : Nat) (base : α)
    (known : schema.fields[position]? = some f) (named : f.name = name)
    (value : old[position]? = some (name, encode x)) (law : Outlasts encode f.edited decode)
    (default : f.default? = some (encode base)) :
    (Section.named new).optional position name base decode = some x := by
  subst named
  have found := fields.lookup (written ▸ schema.distinct) (List.mem_of_getElem? known)
    (List.mem_of_getElem? value)
  rw [Section.optional, Section.written?]
  obtain ⟨w, there, edit⟩ | ⟨absent, holds⟩ := found
  · rw [there]
    exact law.decodes x w edit
  · rw [absent]
    exact congrArg some (law.injective (Option.some.inj (default.symm.trans holds)))

/-- A field without a default is decoded from an edited section. -/
theorem required (fields : EditedFields schema old new)
    (written : old.map Prod.fst = schema.fields.map Field.name) (position : Nat)
    (known : schema.fields[position]? = some f) (named : f.name = name)
    (value : old[position]? = some (name, encode x)) (law : Outlasts encode f.edited decode)
    (needed : f.default? = none) :
    (Section.named new).required position name decode = some x := by
  subst named
  have found := fields.lookup (written ▸ schema.distinct) (List.mem_of_getElem? known)
    (List.mem_of_getElem? value)
  obtain ⟨w, there, edit⟩ | ⟨-, holds⟩ := found
  · rw [Section.required, Section.written?, there]
    exact law.decodes x w edit
  · cases needed.symm.trans holds

/-- Fields whose values may be kept are a section that was not edited. -/
theorem unedited {known : List Field} (part : ∀ f ∈ known, f ∈ schema.fields)
    (each : List.Forall₂ (fun f p => f.name = p.1 ∧ f.edited p.2 p.2) known old) :
    EditedFields schema old old := by
  induction each with
  | nil => exact .done
  | @cons f p _ _ first rest ih =>
    obtain ⟨name, v⟩ := p
    obtain ⟨rfl, kept⟩ := first
    obtain ⟨here, later⟩ := List.forall_mem_cons.mp part
    exact .keep here kept (ih later)

/-- Fields that hold their defaults may all be left out. -/
theorem emptied {known : List Field} (part : ∀ f ∈ known, f ∈ schema.fields)
    (each : List.Forall₂ (fun f p => f.name = p.1 ∧ f.default? = some p.2) known old) :
    EditedFields schema old [] := by
  induction each with
  | nil => exact .done
  | @cons f p _ _ first rest ih =>
    obtain ⟨name, v⟩ := p
    obtain ⟨rfl, holds⟩ := first
    obtain ⟨here, later⟩ := List.forall_mem_cons.mp part
    exact .leave here holds (ih later)

end EditedFields

theorem Edited.exists_new (edit : Edited schema (.obj old) v) :
    ∃ new, v = .obj new ∧ EditedFields schema old new := by
  cases edit with
  | obj fields => exact ⟨_, rfl, fields⟩

/-! ## Plain values -/

private theorem natBelow?_of_lt {n bound : Nat} (inside : n < bound) :
    natBelow? bound (.int n) = some n := by
  have small : (n : Int) < bound := by omega
  simp [natBelow?, small]

theorem outlasts_uint16 : Outlasts (fun n : UInt16 => .int n.toNat) Eq uint16? :=
  .of_eq fun n => by simp [uint16?, natBelow?_of_lt n.toNat_lt_size]

theorem outlasts_uint32 : Outlasts (fun n : UInt32 => .int n.toNat) Eq uint32? :=
  .of_eq fun n => by simp [uint32?, natBelow?_of_lt n.toNat_lt_size]

theorem outlasts_uint64 : Outlasts (fun n : UInt64 => .int n.toNat) Eq uint64? :=
  .of_eq fun n => by simp [uint64?, natBelow?_of_lt n.toNat_lt_size]

theorem outlasts_bool : Outlasts Json.bool Eq bool? := .of_eq fun _ => rfl

theorem outlasts_float : Outlasts Json.float Eq float? := .of_eq fun _ => rfl

theorem outlasts_text : Outlasts Json.str Eq Json.text? := .of_eq fun _ => rfl

theorem outlasts_optionalText :
    Outlasts (fun | none => .null | some text => .str text) Eq optionalText? :=
  .of_eq fun text => by cases text <;> rfl

theorem outlasts_algorithm (d : Dialect) :
    Outlasts (fun a : Algorithm => .str a.name) Eq (algorithm? d) := .of_eq Algorithm.ofName?_name

theorem outlasts_status (d : Dialect) :
    Outlasts (fun s : Status => .str s.name) Eq (status? d) := .of_eq Status.ofName?_name

/-! ## Sections -/

/-- The fields of a section all of which have defaults. -/
def optionalFields : Json → List Field
  | .obj fields => fields.map fun (name, value) => { name, default? := some value }
  | _ => []

def healthSchema : Schema :=
  { fields := optionalFields ({} : HealthConfig).toJson, distinct := by decide }

def balancerSchema : Schema :=
  { fields := optionalFields ({} : BalancerConfig).toJson, distinct := by decide }

def registrySchema : Schema :=
  { fields := optionalFields ({} : RegistryConfig).toJson, distinct := by decide }

def observabilitySchema : Schema :=
  { fields := optionalFields ({} : ObservabilityConfig).toJson, distinct := by decide }

/-- Seeds have defaults for the weight and the metadata only. -/
def seedSchema : Schema where
  fields :=
    [{ name := "name", default? := none },
     { name := "id", default? := none },
     { name := "endpoint", default? := none },
     { name := "port", default? := none },
     { name := "weight", default? := some (.int 1) },
     { name := "metadata", default? := some .null }]
  distinct := by decide

/-- The sections and the seeds of a configuration may be edited in turn. -/
def configSchema : Schema where
  fields :=
    [{ name := "node_id", default? := some (.str "") },
     { name := "listen_port", default? := some (.int 0) },
     { name := "health_check", default? := some ({} : HealthConfig).toJson,
       edited := Edited healthSchema },
     { name := "load_balancer", default? := some ({} : BalancerConfig).toJson,
       edited := Edited balancerSchema },
     { name := "registry", default? := some ({} : RegistryConfig).toJson,
       edited := Edited registrySchema },
     { name := "observability", default? := some ({} : ObservabilityConfig).toJson,
       edited := Edited observabilitySchema },
     { name := "services", default? := some (.arr []), edited := EditedList (Edited seedSchema) }]
  distinct := by decide

variable {d : Dialect}

theorem outlasts_health : Outlasts HealthConfig.toJson (Edited healthSchema) (health? d) where
  decodes c w edit := by
    obtain ⟨new, rfl, fields⟩ := Edited.exists_new edit
    have interval : (Section.named new).optional 0 "interval_ms" _ uint64? = some c.intervalMs :=
      fields.optional rfl 0 _ rfl rfl rfl outlasts_uint64 rfl
    have timeout : (Section.named new).optional 1 "timeout_ms" _ uint64? = some c.timeoutMs :=
      fields.optional rfl 1 _ rfl rfl rfl outlasts_uint64 rfl
    have failures : (Section.named new).optional 2 "max_failures" _ uint32? = some c.maxFailures :=
      fields.optional rfl 2 _ rfl rfl rfl outlasts_uint32 rfl
    have recovery :
        (Section.named new).optional 3 "recovery_checks" _ uint32? = some c.recoveryChecks :=
      fields.optional rfl 3 _ rfl rfl rfl outlasts_uint32 rfl
    simp [health?, Section.ofJson?, interval, timeout, failures, recovery]
  unedited c := .obj (.unedited (fun _ known => known) (by
    simp [healthSchema, optionalFields, HealthConfig.toJson]))

theorem outlasts_balancer :
    Outlasts BalancerConfig.toJson (Edited balancerSchema) (balancer? d) where
  decodes c w edit := by
    obtain ⟨new, rfl, fields⟩ := Edited.exists_new edit
    have algorithm : (Section.named new).optional 0 "algorithm" _ (algorithm? d) =
        some c.algorithm := fields.optional rfl 0 _ rfl rfl rfl (outlasts_algorithm d) rfl
    have enabled : (Section.named new).optional 1 "enable_circuit_breaker" _ bool? =
        some c.breakerEnabled := fields.optional rfl 1 _ rfl rfl rfl outlasts_bool rfl
    have threshold : (Section.named new).optional 2 "circuit_breaker_threshold" _ uint32? =
        some c.breakerThreshold := fields.optional rfl 2 _ rfl rfl rfl outlasts_uint32 rfl
    have timeout : (Section.named new).optional 3 "circuit_breaker_timeout_ms" _ uint64? =
        some c.breakerTimeoutMs := fields.optional rfl 3 _ rfl rfl rfl outlasts_uint64 rfl
    have replicas : (Section.named new).optional 4 "hash_replicas" _ uint32? =
        some c.hashReplicas := fields.optional rfl 4 _ rfl rfl rfl outlasts_uint32 rfl
    have weighted : (Section.named new).optional 5 "weighted_random" _ bool? =
        some c.weightedRandom := fields.optional rfl 5 _ rfl rfl rfl outlasts_bool rfl
    have alpha : (Section.named new).optional 6 "response_time_alpha" _ float? =
        some c.responseTimeAlpha := fields.optional rfl 6 _ rfl rfl rfl outlasts_float rfl
    have window : (Section.named new).optional 7 "success_window" _ uint64? =
        some c.successWindow := fields.optional rfl 7 _ rfl rfl rfl outlasts_uint64 rfl
    have rate : (Section.named new).optional 8 "min_success_rate" _ float? =
        some c.minSuccessRate := fields.optional rfl 8 _ rfl rfl rfl outlasts_float rfl
    simp [balancer?, Section.ofJson?, algorithm, enabled, threshold, timeout, replicas, weighted,
      alpha, window, rate]
  unedited c := .obj (.unedited (fun _ known => known) (by
    simp [balancerSchema, optionalFields, BalancerConfig.toJson]))

theorem outlasts_registry :
    Outlasts RegistryConfig.toJson (Edited registrySchema) (registryConfig? d) where
  decodes c w edit := by
    obtain ⟨new, rfl, fields⟩ := Edited.exists_new edit
    have initial : (Section.named new).optional 0 "initial_status" _ (status? d) =
        some c.initialStatus := fields.optional rfl 0 _ rfl rfl rfl (outlasts_status d) rfl
    simp [registryConfig?, Section.ofJson?, initial]
  unedited c := .obj (.unedited (fun _ known => known) (by
    simp [registrySchema, optionalFields, RegistryConfig.toJson]))

theorem outlasts_observability :
    Outlasts ObservabilityConfig.toJson (Edited observabilitySchema) (observability? d) where
  decodes c w edit := by
    obtain ⟨new, rfl, fields⟩ := Edited.exists_new edit
    have level : (Section.named new).optional 0 "log_level" _ Json.text? = some c.logLevel :=
      fields.optional rfl 0 _ rfl rfl rfl outlasts_text rfl
    have enabled : (Section.named new).optional 1 "metrics_enabled" _ bool? =
        some c.metricsEnabled := fields.optional rfl 1 _ rfl rfl rfl outlasts_bool rfl
    have address : (Section.named new).optional 2 "metrics_address" _ Json.text? =
        some c.metricsAddress := fields.optional rfl 2 _ rfl rfl rfl outlasts_text rfl
    simp [observability?, Section.ofJson?, level, enabled, address]
  unedited c := .obj (.unedited (fun _ known => known) (by
    simp [observabilitySchema, optionalFields, ObservabilityConfig.toJson]))

theorem outlasts_seed : Outlasts Seed.toJson (Edited seedSchema) (seed? d) where
  decodes s w edit := by
    obtain ⟨new, rfl, fields⟩ := Edited.exists_new edit
    have name : (Section.named new).required 0 "name" Json.text? = some s.name :=
      fields.required rfl 0 rfl rfl rfl outlasts_text rfl
    have id : (Section.named new).required 1 "id" Json.text? = some s.id :=
      fields.required rfl 1 rfl rfl rfl outlasts_text rfl
    have endpoint : (Section.named new).required 2 "endpoint" Json.text? = some s.endpoint :=
      fields.required rfl 2 rfl rfl rfl outlasts_text rfl
    have port : (Section.named new).required 3 "port" uint16? = some s.port :=
      fields.required rfl 3 rfl rfl rfl outlasts_uint16 rfl
    have weight : (Section.named new).optional 4 "weight" 1 uint32? = some s.weight :=
      fields.optional rfl 4 _ rfl rfl rfl outlasts_uint32 rfl
    have metadata : (Section.named new).optional 5 "metadata" none optionalText? =
        some s.metadata := fields.optional rfl 5 _ rfl rfl rfl outlasts_optionalText rfl
    simp [seed?, Section.ofJson?, name, id, endpoint, port, weight, metadata]
  unedited s := .obj (.unedited (fun _ known => known) (by simp [seedSchema]))

/-- A configuration outlasts every edit that leaves out fields that hold their defaults and adds
fields that nobody knows. -/
theorem outlasts_config : Outlasts Config.toJson (Edited configSchema) (ofJson? d) where
  decodes c w edit := by
    obtain ⟨new, rfl, fields⟩ := Edited.exists_new edit
    have node : (Section.named new).optional 0 "node_id" _ Json.text? = some c.nodeId :=
      fields.optional rfl 0 _ rfl rfl rfl outlasts_text rfl
    have port : (Section.named new).optional 1 "listen_port" 0 uint16? = some c.listenPort :=
      fields.optional rfl 1 _ rfl rfl rfl outlasts_uint16 rfl
    have health : (Section.named new).optional 2 "health_check" _ (health? d) =
        some c.healthCheck := fields.optional rfl 2 _ rfl rfl rfl outlasts_health rfl
    have balancer : (Section.named new).optional 3 "load_balancer" _ (balancer? d) =
        some c.loadBalancer := fields.optional rfl 3 _ rfl rfl rfl outlasts_balancer rfl
    have registry : (Section.named new).optional 4 "registry" _ (registryConfig? d) =
        some c.registry := fields.optional rfl 4 _ rfl rfl rfl outlasts_registry rfl
    have observability : (Section.named new).optional 5 "observability" _ (observability? d) =
        some c.observability := fields.optional rfl 5 _ rfl rfl rfl outlasts_observability rfl
    have services : (Section.named new).optional 6 "services" [] (list? (seed? d)) =
        some c.services := fields.optional rfl 6 _ rfl rfl rfl outlasts_seed.list rfl
    simp [ofJson?, Section.ofJson?, node, port, health, balancer, registry, observability, services]
  unedited c := by
    have health := (outlasts_health (d := d)).unedited c.healthCheck
    have balancer := (outlasts_balancer (d := d)).unedited c.loadBalancer
    have registry := (outlasts_registry (d := d)).unedited c.registry
    have observability := (outlasts_observability (d := d)).unedited c.observability
    have services := (outlasts_seed (d := d)).list.unedited c.services
    exact .obj (.unedited (fun _ known => known) (by
      simp [configSchema, health, balancer, registry, observability, services]))

end ServiceMesh.Config
