import ServiceMesh.Proofs.Coordinator.Affinity

/-!
# The order of registration

The members of a name are the ids that were registered under it and have not been removed, in
the order of their registrations. Nothing else that happens to a node changes their list. The
candidates of a name are a part of it, in the same order.
-/

namespace ServiceMesh

/-! ## Rosters -/

namespace Roster

variable {l : Roster} {r : Record} {id : String}

/-- A record that is registered is the last one of its name. -/
theorem ids_named_register (done : (l.register r).1 = .ok ()) (name : String) :
    ((l.register r).2.named name).map Record.id =
      if r.serviceName = name then (l.named name).map Record.id ++ [r.id]
      else (l.named name).map Record.id := by
  unfold register at done ⊢
  cases valid : r.validate with
  | error => rw [valid] at done; cases done
  | ok _ =>
    cases found : l.find? r.id with
    | some => rw [valid, found] at done; cases done
    | none =>
      simp only [named, List.filter_append, List.map_append]
      by_cases own : r.serviceName = name <;> simp [own]

/-- A removal leaves the other records of a name in their order. -/
theorem ids_named_unregister (done : (l.unregister id).1 = .ok r) (name : String) :
    ((l.unregister id).2.named name).map Record.id =
      ((l.named name).map Record.id).filter (· != id) := by
  unfold unregister at done ⊢
  cases got : l.get id with
  | error => rw [got] at done; cases done
  | ok _ => simp only [named, List.filter_filter, List.filter_map, Function.comp_def, Bool.and_comm]

end Roster

/-- What no beat changes: the balancer, and who is registered under which name. -/
def Mesh.still (m : Mesh) : Balancer × Table (List String) := (m.balancer, m.store.names)

/-! ## Enrolments -/

/-- The ids that are enrolled under a name after an operation with its answer. -/
def Operation.enrols (name : String) (ids : List String) : Operation → Answer → List String
  | .register r, .done => if r.serviceName = name then ids ++ [r.id] else ids
  | .unregister id, .record _ => ids.filter (· != id)
  | _, _ => ids

namespace Coordinator

variable {c next : Coordinator} {name : String}

/-- The ids that are enrolled under a name after a happening. -/
def enrols (c : Coordinator) (name : String) (ids : List String) : Happening → List String
  | .act (.call op) => op.enrols name ids (c.perform op).1
  | _ => ids

/-- The ids that are enrolled under a name after a lifetime that begins with some of them. -/
def enrolled (c : Coordinator) (name : String) (ids : List String) :
    List Happening → List String
  | [] => ids
  | h :: rest => (c.happen h).enrolled name (c.enrols name ids h) rest

/-! ## What happens -/

/-- Loops and checks change neither the balancer nor who is registered under which name. -/
theorem still_beat {t : Timeline} (b : Beat c.timeline t) (attached : c.mesh.Attached) :
    t.mesh.still = c.mesh.still := by
  cases b with
  | aside same => rw [same]; rfl
  | setPhase | abandon | count => rfl
  | apply id outcome time config =>
    change (c.mesh.applyCheck id outcome time config false).2.still = _
    rcases attached.applyCheck_eq id outcome time config with
      ⟨-, e, -, refused⟩ | ⟨r, -, -, applied⟩
    · rw [refused]
      rfl
    · rw [applied, Mesh.still, Mesh.balancer_checked, Mesh.checked, Mesh.turned]
      cases time <;> split <;> rfl

/-! ## Members -/

theorem memberIds_eq (attached : c.mesh.Attached) (name : String) :
    c.memberIds name = (c.mesh.store.names[name]?).getD [] := by
  obtain ⟨l, represents⟩ := attached.store
  rw [memberIds, represents.members_eq, represents.idsOf?, Roster.getD_idsOf?]

theorem enrols_refused (name : String) (ids : List String) (op : Operation) (e : Failure) :
    op.enrols name ids (.refused e) = ids := by
  cases op <;> rfl

theorem memberIds_call {op : Operation} {answer : Answer} (made : Call c op answer next)
    (attached : c.mesh.Attached) (name : String) :
    next.memberIds name = op.enrols name (c.memberIds name) answer := by
  have after : next.mesh.Attached := attached_change (.call made) attached
  have same : next.mesh.store.names = c.mesh.store.names →
      next.memberIds name = c.memberIds name := by
    intro names
    rw [memberIds_eq after, memberIds_eq attached, names]
  cases made with
  | refused op e => rw [enrols_refused]
  | register r valid free =>
    obtain ⟨l, represents⟩ := attached.store
    have done : (c.mesh.store.register { r with status := c.initialStatus }).1 = .ok () :=
      Store.register_ok valid free
    obtain ⟨answers, later, -⟩ := represents.register { r with status := c.initialStatus }
    rw [memberIds, memberIds, represents.members_eq]
    change ((c.mesh.store.register _).2.members name).map Record.id = _
    rw [later.members_eq, Roster.ids_named_register (answers ▸ done)]
    rfl
  | unregister done =>
    obtain ⟨l, represents⟩ := attached.store
    obtain ⟨answers, later⟩ := represents.unregister _
    rw [memberIds, memberIds, represents.members_eq]
    change ((c.mesh.store.unregister _).2.members name).map Record.id = _
    rw [later.members_eq, Roster.ids_named_unregister (answers ▸ done)]
    rfl
  | select name client draw => exact same rfl
  | configure health balancer =>
    refine same ?_
    cases health <;> cases balancer <;> rfl
  | _ => exact same rfl

theorem memberIds_happen (attached : c.mesh.Attached) (h : Happening) (name : String) :
    (c.happen h).memberIds name = c.enrols name (c.memberIds name) h := by
  rcases happen_cases Mesh.still still_beat attached h with ⟨op, rfl, made⟩ | ⟨waits, same⟩
  · exact memberIds_call made attached name
  · rw [memberIds_eq (attached_happen attached h), (Prod.mk.inj same).2, ← memberIds_eq attached]
    cases h with
    | elapse => rfl
    | act a =>
      cases a with
      | call op =>
        have takes := waits op rfl
        cases op with
        | check | join | advance => rfl
        | _ => cases takes
      | _ => rfl

/-- The members of a name are those that are enrolled under it. -/
theorem memberIds_lived (attached : c.mesh.Attached) (life : List Happening) (name : String) :
    (c.lived life).memberIds name = c.enrolled name (c.memberIds name) life := by
  induction life generalizing c with
  | nil => rfl
  | cons h rest ih =>
    rw [lived_cons, ih (attached_happen attached h), memberIds_happen attached, enrolled]

/-- The candidates of a name are in the order of their registrations. -/
theorem candidateIds_sublist (config : Config) (life : List Happening) (name : String) :
    (((fresh config).lived life).candidateIds name).Sublist
      ((fresh config).enrolled name [] life) := by
  have listed := memberIds_lived (attached_fresh config) life name
  rw [memberIds_eq (attached_fresh config)] at listed
  exact listed ▸ List.filter_sublist.map Record.id

theorem nodup_candidateIds (attached : c.mesh.Attached) (name : String) :
    (c.candidateIds name).Nodup := by
  obtain ⟨l, represents⟩ := attached.store
  have members : (c.memberIds name).Nodup := by
    rw [memberIds, represents.members_eq]
    exact represents.unique.sublist (List.filter_sublist.map Record.id)
  exact members.sublist (List.filter_sublist.map Record.id)

end Coordinator

end ServiceMesh
