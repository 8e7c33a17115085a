import ServiceMesh.Proofs.Coordinator.Posts
import ServiceMesh.Proofs.Coordinator.Story

/-!
# Shares of a node

A share is a part of the ids and of the service names. Two nodes agree on a share if their tables
hold the same for it. What a part of a node does for an id or a name of the share depends on the
share only, and keeps such nodes in agreement; what it does for another one is not seen in the
share. There is a lemma of each kind for everything that a part of a node can do.
-/

namespace ServiceMesh

/-- Some ids and some service names. -/
structure Share where
  ids : String → Bool
  names : String → Bool

variable {σ : Share}

/-! ## Tables -/

/-- Two tables hold the same under some keys. -/
def Table.AgreeOn {α : Type} (keys : String → Bool) (t u : Table α) : Prop :=
  ∀ key, keys key = true → t[key]? = u[key]?

namespace Table.AgreeOn

variable {α : Type} {keys : String → Bool} {t u v : Table α} {key : String}

theorem refl (keys : String → Bool) (t : Table α) : AgreeOn keys t t := fun _ _ => rfl

theorem symm (h : AgreeOn keys t u) : AgreeOn keys u t := fun key own => (h key own).symm

theorem trans (h : AgreeOn keys t u) (h' : AgreeOn keys u v) : AgreeOn keys t v :=
  fun key own => (h key own).trans (h' key own)

/-- The keys of a set are not the others. -/
theorem ne_of_outside (outside : keys key = false) {other : String} (own : keys other = true) :
    key ≠ other := by
  rintro rfl
  exact nomatch outside.symm.trans own

/-- What is written under a key has to be the same only if the key counts. -/
theorem insert (h : AgreeOn keys t u) {x y : α} (same : keys key = true → x = y) :
    AgreeOn keys (t.insert key x) (u.insert key y) := by
  intro other own
  by_cases self : key = other
  · subst self
    rw [getElem?_insert_self, getElem?_insert_self, same own]
  · rw [getElem?_insert_ne _ self, getElem?_insert_ne _ self, h other own]

theorem erase (h : AgreeOn keys t u) (key : String) :
    AgreeOn keys (t.erase key) (u.erase key) := by
  intro other own
  by_cases self : key = other
  · subst self
    rw [getElem?_erase_self, getElem?_erase_self]
  · rw [getElem?_erase_ne _ self, getElem?_erase_ne _ self, h other own]

theorem update (h : AgreeOn keys t u) (key : String) (f : α → α) :
    AgreeOn keys (t.update key f) (u.update key f) := by
  intro other own
  by_cases self : key = other
  · subst self
    rw [getElem?_update_self, getElem?_update_self, h key own]
  · rw [getElem?_update_ne _ self, getElem?_update_ne _ self, h other own]

theorem insert_outside (outside : keys key = false) (t : Table α) (x : α) :
    AgreeOn keys t (t.insert key x) := fun _ own =>
  (getElem?_insert_ne t (ne_of_outside outside own) x).symm

theorem erase_outside (outside : keys key = false) (t : Table α) :
    AgreeOn keys t (t.erase key) := fun _ own =>
  (getElem?_erase_ne t (ne_of_outside outside own)).symm

theorem update_outside (outside : keys key = false) (t : Table α) (f : α → α) :
    AgreeOn keys t (t.update key f) := fun _ own =>
  (getElem?_update_ne t (ne_of_outside outside own) f).symm

end Table.AgreeOn

/-! ## The registry -/

/-- Two registries have the same records of the ids and the same lists of the names. -/
structure Store.Agree (σ : Share) (s t : Store) : Prop where
  records : Table.AgreeOn σ.ids s.records t.records
  names : Table.AgreeOn σ.names s.names t.names

namespace Store

variable {s t u : Store} {id : String} {r : Record}

theorem register_of_free (valid : r.validate = .ok ()) (free : s.contains r.id = false) :
    (s.register r).2 = { records := s.records.insert r.id r
                         names := (s.names.insert r.serviceName
                           (s.names[r.serviceName]?.getD [])).insert r.serviceName
                           (s.names[r.serviceName]?.getD [] ++ [r.id]) } := by
  simp [register, valid, free]

theorem removed_of_unregister (done : (s.unregister id).1 = .ok r) :
    s.find? id = some r ∧ ∃ ids, s.names[r.serviceName]? = some ids ∧
      (s.unregister id).2 = { records := s.records.erase id
                              names := dropEmpty (s.names.insert r.serviceName
                                (ids.filter (· != id))) r.serviceName } := by
  unfold unregister at done ⊢
  split at done
  · cases done
  · split at done
    · cases done
    case h_2 found =>
      split at done
      · cases done
      case h_2 ids listed =>
        cases done
        exact ⟨found, ids, listed, rfl⟩

namespace Agree

theorem refl (σ : Share) (s : Store) : s.Agree σ s := ⟨.refl _ _, .refl _ _⟩

theorem symm (h : s.Agree σ t) : t.Agree σ s := ⟨h.records.symm, h.names.symm⟩

theorem trans (h : s.Agree σ t) (h' : t.Agree σ u) : s.Agree σ u :=
  ⟨h.records.trans h'.records, h.names.trans h'.names⟩

theorem find? (h : s.Agree σ t) (own : σ.ids id = true) : s.find? id = t.find? id :=
  h.records id own

theorem contains (h : s.Agree σ t) (own : σ.ids id = true) : s.contains id = t.contains id := by
  rw [Store.contains, h.find? own, Store.contains]

theorem get (h : s.Agree σ t) (own : σ.ids id = true) : s.get id = t.get id := by
  unfold Store.get
  rw [h.find? own]

theorem modify (h : s.Agree σ t) (id : String) (f : Record → Record) :
    (s.modify id f).Agree σ (t.modify id f) :=
  ⟨h.records.update id f, h.names⟩

theorem modify_outside (outside : σ.ids id = false) (s : Store) (f : Record → Record) :
    s.Agree σ (s.modify id f) :=
  ⟨.update_outside outside _ f, .refl _ _⟩

theorem setMetadata (h : s.Agree σ t) (own : σ.ids id = true) (metadata : Json) :
    (∃ e, s.setMetadata id metadata = .error e ∧ t.setMetadata id metadata = .error e) ∨
    ∃ s' t', s.setMetadata id metadata = .ok s' ∧ t.setMetadata id metadata = .ok t' ∧
      s'.Agree σ t' := by
  unfold Store.setMetadata
  cases Failure.requireText id "service_id" with
  | error e => exact .inl ⟨e, rfl, rfl⟩
  | ok _ =>
    simp only [bind, Except.bind, h.contains own]
    split
    case isTrue => exact .inr ⟨_, _, rfl, rfl, h.modify id _⟩
    case isFalse => exact .inl ⟨_, rfl, rfl⟩

theorem register (h : s.Agree σ t) (own : σ.ids r.id = true) (valid : r.validate = .ok ())
    (free : s.contains r.id = false) : (s.register r).2.Agree σ (t.register r).2 := by
  rw [register_of_free valid free, register_of_free valid ((h.contains own).symm.trans free)]
  have listed : σ.names r.serviceName = true →
      s.names[r.serviceName]?.getD [] = t.names[r.serviceName]?.getD [] := by
    intro counts
    rw [h.names _ counts]
  refine ⟨h.records.insert fun _ => rfl, ?_⟩
  exact (h.names.insert listed).insert fun counts => by rw [listed counts]

theorem register_outside (outside : σ.ids r.id = false) (elsewhere : σ.names r.serviceName = false)
    (s : Store) (valid : r.validate = .ok ()) (free : s.contains r.id = false) :
    s.Agree σ (s.register r).2 := by
  rw [register_of_free valid free]
  exact ⟨.insert_outside outside _ _,
    (Table.AgreeOn.insert_outside elsewhere _ _).trans (.insert_outside elsewhere _ _)⟩

theorem unregister (h : s.Agree σ t) (removed : (s.unregister id).1 = .ok r)
    (removed' : (t.unregister id).1 = .ok r) : (s.unregister id).2.Agree σ (t.unregister id).2 := by
  obtain ⟨-, ids, listed, left⟩ := removed_of_unregister removed
  obtain ⟨-, ids', listed', left'⟩ := removed_of_unregister removed'
  rw [left, left']
  refine ⟨h.records.erase id, ?_⟩
  intro name counts
  rw [getElem?_dropEmpty_insert, getElem?_dropEmpty_insert]
  by_cases self : r.serviceName = name
  · subst self
    have same : ids = ids' := Option.some.inj (listed.symm.trans ((h.names _ counts).trans listed'))
    rw [same, if_pos rfl, if_pos rfl]
  · rw [if_neg self, if_neg self, h.names name counts]

theorem unregister_outside (outside : σ.ids id = false)
    (elsewhere : ∀ r, s.find? id = some r → σ.names r.serviceName = false)
    (removed : (s.unregister id).1 = .ok r) : s.Agree σ (s.unregister id).2 := by
  obtain ⟨found, ids, -, left⟩ := removed_of_unregister removed
  rw [left]
  refine ⟨.erase_outside outside _, ?_⟩
  intro name counts
  rw [getElem?_dropEmpty_insert,
    if_neg (Table.AgreeOn.ne_of_outside (elsewhere r found) counts)]

/-- The members of a name of the share are the same, if their ids are in the share. -/
theorem members (h : s.Agree σ t) {name : String} (counts : σ.names name = true)
    (own : ∀ id ∈ s.names[name]?.getD [], σ.ids id = true) : s.members name = t.members name := by
  rw [Store.members, Store.members, ← h.names name counts]
  exact List.filterMap_congr fun id listed => h.find? (own id listed)

end Agree

end Store

/-! ## Breakers -/

/-- Two banks have the same breakers of the ids. -/
def Bank.Agree (σ : Share) (b c : Bank) : Prop := Table.AgreeOn σ.ids b.breakers c.breakers

namespace Bank.Agree

variable {b c d : Bank} {id : String} {now : Moment}

theorem refl (σ : Share) (b : Bank) : b.Agree σ b := Table.AgreeOn.refl _ _

theorem symm (h : b.Agree σ c) : c.Agree σ b := Table.AgreeOn.symm h

theorem trans (h : b.Agree σ c) (h' : c.Agree σ d) : b.Agree σ d := Table.AgreeOn.trans h h'

theorem find? (h : b.Agree σ c) (own : σ.ids id = true) : b.find? id = c.find? id := h id own

theorem get (h : b.Agree σ c) (own : σ.ids id = true) : b.get id = c.get id := by
  unfold Bank.get
  rw [h.find? own]

theorem view (h : b.Agree σ c) (own : σ.ids id = true) (now : Moment) :
    b.view now id = c.view now id := by
  rw [Bank.view, h.find? own, Bank.view]

theorem put (h : b.Agree σ c) (id : String) (before after : Breaker) :
    (b.put id before after).Agree σ (c.put id before after) :=
  Table.AgreeOn.insert h fun _ => rfl

theorem put_outside (outside : σ.ids id = false) (b : Bank) (before after : Breaker) :
    b.Agree σ (b.put id before after) :=
  Table.AgreeOn.insert_outside outside _ _

theorem track (h : b.Agree σ c) (own : σ.ids id = true) (settings : BreakerSettings) :
    (b.track id settings).Agree σ (c.track id settings) := by
  unfold Bank.track
  rw [h.find? own]
  split
  · exact h
  · exact Table.AgreeOn.insert h fun _ => rfl

theorem track_outside (outside : σ.ids id = false) (b : Bank) (settings : BreakerSettings) :
    b.Agree σ (b.track id settings) := by
  unfold Bank.track
  split
  · exact .refl σ b
  · exact Table.AgreeOn.insert_outside outside _ _

theorem forget (h : b.Agree σ c) (id : String) : (b.forget id).Agree σ (c.forget id) :=
  Table.AgreeOn.erase h id

theorem forget_outside (outside : σ.ids id = false) (b : Bank) : b.Agree σ (b.forget id) :=
  Table.AgreeOn.erase_outside outside _

theorem reconfigure (h : b.Agree σ c) (settings : BreakerSettings) :
    (b.reconfigure settings).Agree σ (c.reconfigure settings) := by
  intro id own
  simp only [Bank.reconfigure, Std.ExtTreeMap.getElem?_map]
  rw [h id own]

theorem refresh (h : b.Agree σ c) (own : σ.ids id = true) (now : Moment) :
    (b.refresh id now).Agree σ (c.refresh id now) := by
  unfold Bank.refresh
  rw [h.find? own]
  split
  · exact h
  · exact h.put id _ _

theorem refresh_outside (outside : σ.ids id = false) (b : Bank) (now : Moment) :
    b.Agree σ (b.refresh id now) := by
  unfold Bank.refresh
  split
  · exact .refl σ b
  · exact put_outside outside b _ _

/-- The looks at members of the share. -/
theorem fit (h : b.Agree σ c) (useBreakers : Bool) (now : Moment) {members : List Record}
    (own : ∀ r ∈ members, σ.ids r.id = true) :
    (Balancer.fit useBreakers now members b).2.Agree σ
      (Balancer.fit useBreakers now members c).2 := by
  induction members generalizing b c with
  | nil => exact h
  | cons r rest ih =>
    obtain ⟨self, others⟩ := List.forall_mem_cons.mp own
    unfold Balancer.fit
    cases r.status.selectable with
    | false => exact ih h others
    | true =>
      cases useBreakers with
      | false => exact ih h others
      | true => exact ih (h.refresh self now) others

theorem fit_outside (useBreakers : Bool) (now : Moment) {members : List Record}
    (outside : ∀ r ∈ members, σ.ids r.id = false) (b : Bank) :
    b.Agree σ (Balancer.fit useBreakers now members b).2 := by
  induction members generalizing b with
  | nil => exact .refl σ b
  | cons r rest ih =>
    obtain ⟨self, others⟩ := List.forall_mem_cons.mp outside
    unfold Balancer.fit
    cases r.status.selectable with
    | false => exact ih others b
    | true =>
      cases useBreakers with
      | false => exact ih others b
      | true => exact (refresh_outside self b now).trans (ih others _)

end Bank.Agree

/-! ## The load balancer -/

/-- Two balancers have the same configuration, the same groups of the names and the same loads of
the ids. -/
structure Balancer.Agree (σ : Share) (b c : Balancer) : Prop where
  config : b.config = c.config
  revision : b.revision = c.revision
  groups : Table.AgreeOn σ.names b.groups c.groups
  loads : Table.AgreeOn σ.ids b.loads c.loads

namespace Balancer.Agree

variable {b c d : Balancer} {id name : String} {candidates : List Record} {request : Request}
  {draw : UInt64}

theorem refl (σ : Share) (b : Balancer) : b.Agree σ b := ⟨rfl, rfl, .refl _ _, .refl _ _⟩

theorem symm (h : b.Agree σ c) : c.Agree σ b :=
  ⟨h.config.symm, h.revision.symm, h.groups.symm, h.loads.symm⟩

theorem trans (h : b.Agree σ c) (h' : c.Agree σ d) : b.Agree σ d :=
  ⟨h.config.trans h'.config, h.revision.trans h'.revision, h.groups.trans h'.groups,
    h.loads.trans h'.loads⟩

theorem configure (h : b.Agree σ c) (config : BalancerConfig) :
    ({ b with config, revision := b.revision + 1 } : Balancer).Agree σ
      { c with config, revision := c.revision + 1 } :=
  ⟨rfl, congrArg (· + 1) h.revision, h.groups, h.loads⟩

theorem track (h : b.Agree σ c) (own : σ.ids id = true) : (b.track id).Agree σ (c.track id) := by
  unfold Balancer.track
  rw [h.loads id own]
  split
  · exact h
  · exact ⟨h.config, h.revision, h.groups, h.loads.insert fun _ => rfl⟩

theorem track_outside (outside : σ.ids id = false) (b : Balancer) : b.Agree σ (b.track id) := by
  unfold Balancer.track
  split
  · exact .refl σ b
  · exact ⟨rfl, rfl, .refl _ _, .insert_outside outside _ _⟩

theorem forget (h : b.Agree σ c) (id : String) : (b.forget id).Agree σ (c.forget id) :=
  ⟨h.config, h.revision, h.groups, h.loads.erase id⟩

theorem forget_outside (outside : σ.ids id = false) (b : Balancer) : b.Agree σ (b.forget id) :=
  ⟨rfl, rfl, .refl _ _, .erase_outside outside _⟩

theorem fail (h : b.Agree σ c) (reason : SelectionFailure) :
    (b.fail reason).Agree σ (c.fail reason) :=
  ⟨h.config, h.revision, h.groups, h.loads⟩

theorem fail_outside (b : Balancer) (reason : SelectionFailure) : b.Agree σ (b.fail reason) :=
  ⟨rfl, rfl, .refl _ _, .refl _ _⟩

theorem group (h : b.Agree σ c) (counts : σ.names name = true) : b.group name = c.group name := by
  unfold Balancer.group
  rw [h.groups name counts, h.config, h.revision]

theorem offered (h : b.Agree σ c) (own : ∀ r ∈ candidates, σ.ids r.id = true) :
    b.offered candidates = c.offered candidates := by
  apply List.map_congr_left
  intro r candidate
  rw [Balancer.load, h.loads r.id (own r candidate), Balancer.load]

theorem consult (h : b.Agree σ c) (counts : σ.names name = true)
    (own : ∀ r ∈ candidates, σ.ids r.id = true) :
    b.consult name candidates request draw = c.consult name candidates request draw := by
  rw [Balancer.consult, h.group counts, h.offered own, Balancer.consult]

/-- A choice among candidates of the share. -/
theorem choose (h : b.Agree σ c) (counts : σ.names name = true)
    (own : ∀ r ∈ candidates, σ.ids r.id = true) (request : Request) (draw : UInt64) :
    (b.choose name candidates request draw).1 = (c.choose name candidates request draw).1 ∧
      (b.choose name candidates request draw).2.Agree σ
        (c.choose name candidates request draw).2 := by
  have asked : b.consult name candidates request draw = c.consult name candidates request draw :=
    h.consult counts own
  cases chosen : (b.consult name candidates request draw).1.bind (candidates[·]?) with
  | none =>
    rw [choose_of_none chosen, choose_of_none (asked ▸ chosen), h.group counts, asked]
    exact ⟨rfl, h.config, h.revision, h.groups.insert fun _ => rfl, h.loads⟩
  | some r =>
    rw [choose_of_some chosen, choose_of_some (asked ▸ chosen), h.group counts, asked, h.config]
    exact ⟨rfl, rfl, h.revision, h.groups.insert fun _ => rfl, h.loads.update r.id _⟩

theorem choose_outside (elsewhere : σ.names name = false)
    (outside : ∀ r ∈ candidates, σ.ids r.id = false) (b : Balancer) :
    b.Agree σ (b.choose name candidates request draw).2 := by
  cases chosen : (b.consult name candidates request draw).1.bind (candidates[·]?) with
  | none =>
    rw [choose_of_none chosen]
    exact ⟨rfl, rfl, .insert_outside elsewhere _ _, .refl _ _⟩
  | some r =>
    obtain ⟨i, -, position⟩ := Option.bind_eq_some_iff.mp chosen
    rw [choose_of_some chosen]
    exact ⟨rfl, rfl, .insert_outside elsewhere _ _,
      .update_outside (outside r (List.mem_of_getElem? position)) _ _⟩

theorem reported (h : b.Agree σ c) (name id : String) (time : Duration) (success : Bool) :
    (b.reported name id time success).Agree σ (c.reported name id time success) := by
  unfold Balancer.reported
  rw [h.config]
  exact ⟨rfl, h.revision, h.groups.update name _, h.loads.update id _⟩

theorem reported_outside (elsewhere : σ.names name = false) (outside : σ.ids id = false)
    (b : Balancer) (time : Duration) (success : Bool) :
    b.Agree σ (b.reported name id time success) :=
  ⟨rfl, rfl, .update_outside elsewhere _ _, .update_outside outside _ _⟩

/-- A selection of a name of the share whose members are in the share. -/
theorem select (h : b.Agree σ c) {s t : Store} (stores : s.Agree σ t) {bank bank' : Bank}
    (banks : bank.Agree σ bank') (counts : σ.names name = true)
    (listed : ∀ id ∈ s.names[name]?.getD [], σ.ids id = true)
    (own : ∀ r ∈ s.members name, σ.ids r.id = true) (now : Moment) (client : Option String)
    (draw : UInt64) :
    (b.select s bank now name client draw).1 = (c.select t bank' now name client draw).1 ∧
    (b.select s bank now name client draw).2.1.Agree σ
      (c.select t bank' now name client draw).2.1 ∧
    (b.select s bank now name client draw).2.2.Agree σ
      (c.select t bank' now name client draw).2.2 := by
  have members : s.members name = t.members name := stores.members counts listed
  have looked := banks.fit b.config.breakerEnabled now own
  have candidates : (fit b.config.breakerEnabled now (s.members name) bank).1 =
      (fit b.config.breakerEnabled now (s.members name) bank').1 := by
    rw [fit_eq, fit_eq]
    apply List.filter_congr
    intro r member
    rw [decide_eq_decide, Fit, Fit, banks.view (own r member)]
  cases written : Text.isBlank name with
  | true =>
    rw [select_of_blank written, select_of_blank written]
    exact ⟨rfl, h, banks⟩
  | false =>
    by_cases empty : s.members name = []
    · rw [select_of_no_members written empty, select_of_no_members written (members ▸ empty)]
      exact ⟨rfl, h.fail _, banks⟩
    · rw [members, h.config] at looked candidates
      by_cases unfit : (fit b.config.breakerEnabled now (s.members name) bank).1 = []
      · rw [select_of_none_fit written empty unfit]
        rw [members, h.config] at unfit ⊢
        rw [select_of_none_fit written (members ▸ empty) (candidates ▸ unfit)]
        exact ⟨rfl, h.fail _, looked⟩
      · rw [select_of_fit written unfit]
        rw [members, h.config] at unfit ⊢
        rw [select_of_fit written (candidates ▸ unfit), ← candidates]
        have among : ∀ r ∈ (fit c.config.breakerEnabled now (t.members name) bank).1,
            σ.ids r.id = true := by
          intro r candidate
          rw [fit_eq] at candidate
          exact own r (members ▸ List.mem_of_mem_filter candidate)
        have chosen := h.choose counts among (requestFor client (t.members name)) draw
        exact ⟨chosen.1, chosen.2, looked⟩

/-- A selection of another name whose members are not in the share. -/
theorem select_outside (elsewhere : σ.names name = false) (s : Store)
    (outside : ∀ r ∈ s.members name, σ.ids r.id = false) (b : Balancer) (bank : Bank) (now : Moment)
    (client : Option String) (draw : UInt64) :
    b.Agree σ (b.select s bank now name client draw).2.1 ∧
    bank.Agree σ (b.select s bank now name client draw).2.2 := by
  have looked : bank.Agree σ (fit b.config.breakerEnabled now (s.members name) bank).2 :=
    .fit_outside b.config.breakerEnabled now outside bank
  cases written : Text.isBlank name with
  | true =>
    rw [select_of_blank written]
    exact ⟨.refl σ b, .refl σ bank⟩
  | false =>
    by_cases empty : s.members name = []
    · rw [select_of_no_members written empty]
      exact ⟨fail_outside b _, .refl σ bank⟩
    · by_cases unfit : (fit b.config.breakerEnabled now (s.members name) bank).1 = []
      · rw [select_of_none_fit written empty unfit]
        exact ⟨fail_outside b _, looked⟩
      · rw [select_of_fit written unfit]
        refine ⟨choose_outside elsewhere ?_ b, looked⟩
        intro r candidate
        rw [fit_eq] at candidate
        exact outside r (List.mem_of_mem_filter candidate)

end Balancer.Agree

end ServiceMesh
