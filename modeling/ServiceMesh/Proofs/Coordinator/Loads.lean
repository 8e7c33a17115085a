import ServiceMesh.Proofs.Balancer.Desk
import ServiceMesh.Proofs.Coordinator.Isolation
import ServiceMesh.Proofs.Coordinator.Picks

/-!
# What becomes of a load

Only a few things that happen to a node do something to the load of an id: it is counted from the
registration of the id to its removal, a selection that gives the id out and a report on it are
counted. So an id that nobody has selected and nobody has reported on has its first load, and a
closed breaker.
-/

namespace ServiceMesh

namespace Balancer

variable {b : Balancer}

/-- A selection counts for the load of the instance that it gives out. -/
theorem loads_select (b : Balancer) (store : Store) (bank : Bank) (now : Moment) (name : String)
    (client : Option String) (draw : UInt64) :
    (b.select store bank now name client draw).2.1.loads =
      match (b.select store bank now name client draw).1 with
      | .error _ => b.loads
      | .ok r => b.loads.update r.id Load.start := by
  rcases (b.select_leaves store bank now name client draw).1 with
    ⟨e, refused, same⟩ | ⟨e, reason, refused, failed⟩ | ⟨candidates, request, answered, chosen⟩
  · rw [refused, same]
  · rw [refused, failed]
    rfl
  · rw [answered, chosen]
    cases found : (b.consult name candidates request draw).1.bind (candidates[·]?) with
    | none => rw [choose_of_none found]
    | some r => rw [choose_of_some found]

end Balancer

namespace Coordinator

variable {c next : Coordinator} {id name : String}

/-- The load that is counted for an id. -/
def load? (c : Coordinator) (id : String) : Option Load := c.mesh.balancer.loads[id]?

/-- What becomes of the load of an id when something happens. -/
inductive Freight (c : Coordinator) (id : String) : Happening → Option Load → Prop
  | kept {h : Happening} : Freight c id h (c.load? id)
  | given {client : Option String} {draw : UInt64} {name : String} {r : Record}
      (chosen : (c.select name client draw).1 = .ok r) (own : r.id = id) :
      Freight c id (.act (.call (.select name client draw))) ((c.load? id).map Load.start)
  | reported {time : Duration} {success : Bool} (left : Option Load) :
      Freight c id (.act (.call (.report id time success))) left
  | dropped : Freight c id (.act (.call (.unregister id))) none
  | begun {r : Record} (own : r.id = id) (absent : c.load? id = none) :
      Freight c id (.act (.call (.register r))) (some {})

theorem Freight.of_eq {h : Happening} {left : Option Load} (same : left = c.load? id) :
    c.Freight id h left :=
  same ▸ .kept

theorem freight_call {op : Operation} {answer : Answer} (made : Call c op answer next) :
    c.Freight id (.act (.call op)) (next.load? id) := by
  cases made with
  | register r valid free =>
    change c.Freight id _ (c.mesh.balancer.track r.id).loads[id]?
    unfold Balancer.track
    split
    case h_1 => exact .kept
    case h_2 absent =>
      by_cases own : r.id = id
      · subst own
        rw [Table.getElem?_insert_self]
        exact .begun rfl absent
      · exact .of_eq (Table.getElem?_insert_ne _ own _)
  | @unregister other r done =>
    change c.Freight id _ (c.mesh.balancer.loads.erase other)[id]?
    by_cases own : other = id
    · subst own
      rw [Table.getElem?_erase_self]
      exact .dropped
    · exact .of_eq (Table.getElem?_erase_ne _ own)
  | select name client draw =>
    have loads := c.mesh.balancer.loads_select c.mesh.store c.mesh.bank c.timeline.moment name
      client draw
    change (c.select name client draw).2.mesh.balancer.loads =
      match (c.select name client draw).1 with
      | .error _ => c.mesh.balancer.loads
      | .ok r => c.mesh.balancer.loads.update r.id Load.start at loads
    rw [load?, loads]
    cases chosen : (c.select name client draw).1 with
    | error => exact .kept
    | ok r =>
      simp only
      by_cases own : r.id = id
      · rw [own, Table.getElem?_update_self]
        exact .given chosen own
      · exact .of_eq (Table.getElem?_update_ne _ own _)
  | @report other r time success =>
    by_cases own : other = id
    · subst own
      exact .reported _
    · exact .of_eq (Table.getElem?_update_ne _ own _)
  | configure health balancer => cases health <;> cases balancer <;> exact .kept
  | _ => exact .kept

variable (id) in
/-- The freight of an id when something happens. -/
theorem freight (attached : c.mesh.Attached) (h : Happening) :
    c.Freight id h ((c.happen h).load? id) := by
  rcases happen_cases Mesh.still still_beat attached h with ⟨op, rfl, made⟩ | ⟨-, same⟩
  · exact freight_call made
  · exact .of_eq (congrArg (fun b : Balancer => b.loads[id]?) (Prod.mk.inj same).1)

/-! ## Members -/

theorem mem_memberIds_iff (attached : c.mesh.Attached) :
    id ∈ c.memberIds name ↔ ∃ r, c.mesh.store.find? id = some r ∧ r.serviceName = name := by
  rw [memberIds, List.mem_map]
  constructor
  · rintro ⟨r, member, rfl⟩
    exact ⟨r, (mem_members_iff attached).mp member⟩
  · rintro ⟨r, found, named⟩
    obtain ⟨-, rfl⟩ := attached.find?_eq_some found
    exact ⟨r, (mem_members_iff attached).mpr ⟨found, named⟩, rfl⟩

theorem contains_of_member (attached : c.mesh.Attached) (member : id ∈ c.memberIds name) :
    c.mesh.store.contains id = true := by
  obtain ⟨r, found, -⟩ := (mem_memberIds_iff attached).mp member
  exact Option.isSome_of_eq_some found

theorem load?_eq_none (attached : c.mesh.Attached) (free : c.mesh.store.contains id = false) :
    c.load? id = none :=
  attached.balancer.loads_eq_none free

theorem isSome_load? (attached : c.mesh.Attached) (member : id ∈ c.memberIds name) :
    (c.load? id).isSome = true :=
  (attached.balancer id).trans (contains_of_member attached member)

theorem load?_eq_some (attached : c.mesh.Attached) (member : id ∈ c.memberIds name) :
    c.load? id = some (c.mesh.balancer.load id) := by
  obtain ⟨l, counted⟩ := Option.isSome_iff_exists.mp (isSome_load? attached member)
  rw [Balancer.load, counted]
  exact congrArg (some <| ·.getD {}) counted.symm

/-- A name gives out its own members only. -/
theorem name_of_selected (attached : c.mesh.Attached) (coherent : c.mesh.balancer.Coherent)
    {asked : String} {client : Option String} {draw : UInt64} {r : Record}
    (chosen : (c.select asked client draw).1 = .ok r) (member : r.id ∈ c.memberIds name) :
    asked = name := by
  have candidate := Selects.candidate (chosen ▸ selects_of_coherent coherent asked client draw)
  obtain ⟨found, rfl⟩ := (mem_members_iff attached).mp (List.mem_of_mem_filter candidate)
  obtain ⟨r', found', named⟩ := (mem_memberIds_iff attached).mp member
  rw [← named, Option.some.inj (found.symm.trans found')]

/-- A new member of a name was registered just now. -/
theorem mem_enrols {ids : List String} {h : Happening} (member : id ∈ c.enrols name ids h) :
    id ∈ ids ∨ c.mesh.store.contains id = false := by
  unfold enrols at member
  split at member
  case h_2 => exact .inl member
  case h_1 op =>
    cases op with
    | register r =>
      rcases c.register_eq r with ⟨e, refused⟩ | ⟨-, free, -⟩
      · rw [perform, refused] at member
        exact .inl member
      · unfold Operation.enrols at member
        split at member
        case h_1 same _ =>
          cases same
          split at member
          · rcases List.mem_append.mp member with old | new
            · exact .inl old
            · rw [List.mem_singleton.mp new]
              exact .inr free
          · exact .inl member
        case h_2 same _ => cases same
        case h_3 => exact .inl member
    | unregister other =>
      unfold Operation.enrols at member
      split at member
      case h_1 same _ => cases same
      case h_2 => exact .inl (List.mem_of_mem_filter member)
      case h_3 => exact .inl member
    | _ => exact .inl member

theorem lasting_call {part : Record → α} (lasting : Mesh.Lasting part) {op : Operation}
    {answer : Answer} (made : Call c op answer next) (before : c.mesh.store.contains id = true)
    (after : next.mesh.store.contains id = true) :
    (next.mesh.store.find? id).map part = (c.mesh.store.find? id).map part := by
  cases made with
  | register r valid free =>
    have differ : r.id ≠ id := by
      rintro rfl
      exact nomatch free.symm.trans before
    exact congrArg (Option.map part) (c.mesh.store.find?_register_ne differ)
  | @unregister other r done =>
    have differ : other ≠ id := by
      rintro rfl
      change (c.mesh.store.unregister other).2.contains other = true at after
      rw [Store.contains_unregister done, removing, bne_self_eq_false, Bool.false_and] at after
      cases after
    exact congrArg (Option.map part) (c.mesh.store.find?_unregister_ne differ)
  | setMetadata other metadata =>
    exact c.mesh.store.map_find?_modify other id fun r => lasting.metadata r metadata
  | @report other =>
    exact c.mesh.store.map_find?_modify other id fun r => lasting.response r _
  | configure health balancer => cases health <;> cases balancer <;> rfl
  | _ => rfl

/-- What lasts of a record is the same as long as its id is registered. -/
theorem lasting_happen {α : Type} {part : Record → α} (lasting : Mesh.Lasting part)
    (attached : c.mesh.Attached) {h : Happening} (before : c.mesh.store.contains id = true)
    (after : (c.happen h).mesh.store.contains id = true) :
    ((c.happen h).mesh.store.find? id).map part = (c.mesh.store.find? id).map part := by
  rcases happen_cases (fun m => (m.store.find? id).map part)
    (fun b attached => lasting_beat lasting b attached id) attached h with
    ⟨op, rfl, made⟩ | ⟨-, same⟩
  · exact lasting_call lasting made before after
  · exact same

/-! ## Ids that nobody has used -/

/-- The breaker of an id, if there is one, is closed. -/
def Unbroken (c : Coordinator) (id : String) : Prop :=
  ∀ x, c.mesh.bank.find? id = some x → x.state = .closed

/-- An id has its first load, if it is a member of a name. -/
def Unloaded (c : Coordinator) (name id : String) : Prop :=
  id ∈ c.memberIds name → ∀ l, c.load? id = some l → l = {}

/-- Only a report breaks a breaker. -/
theorem unbroken_happen (attached : c.mesh.Attached) {h : Happening}
    (unreported : h.reportsOn id = false) (unbroken : c.Unbroken id) :
    (c.happen h).Unbroken id := by
  cases reconfigures : h.reconfigures with
  | true =>
    unfold Happening.reconfigures at reconfigures
    split at reconfigures
    case h_2 => cases reconfigures
    case h_1 health config =>
      intro x found
      change (c.configure health (some config)).2.mesh.bank.find? id = some x at found
      rcases c.configure_eq health (some config) with ⟨e, refused⟩ | taken
      · rw [refused] at found
        exact unbroken x found
      · rw [taken] at found
        change ((configured c.mesh health (some config)).bank.find? id) = some x at found
        have renewed : (configured c.mesh health (some config)).bank =
            c.mesh.bank.reconfigure config.breakerSettings := by
          cases health <;> rfl
        rw [renewed, Bank.find?, Bank.reconfigure, Std.ExtTreeMap.getElem?_map] at found
        obtain ⟨old, there, rfl⟩ := Option.map_eq_some_iff.mp found
        exact unbroken old there
  | false =>
    have fate := fate id attached reconfigures
    rw [Unbroken]
    generalize c.mark? id h = mark at fate
    generalize (c.happen h).mesh.bank.find? id = after at fate ⊢
    intro x found
    cases fate with
    | kept => exact unbroken x found
    | @glanced y there =>
      cases found
      have closed := unbroken y there
      rwa [Breaker.refresh_of_ne_open (by simp [closed])]
    | recorded reports => simp [reports, Happening.reportsOn] at unreported
    | reset resets there =>
      cases found
      rfl
    | dropped => cases found
    | tracked =>
      cases found
      rfl

/-- Only a selection and a report count for a load. -/
theorem unloaded_happen (attached : c.mesh.Attached) (coherent : c.mesh.balancer.Coherent)
    {h : Happening} (unreported : h.reportsOn id = false) (unpicked : c.pick? name h = none)
    (unloaded : c.Unloaded name id) : (c.happen h).Unloaded name id := by
  intro member l counted
  rw [memberIds_happen attached] at member
  have was : (c.load? id).isSome = true → id ∈ c.memberIds name := by
    intro tracked
    refine (mem_enrols member).resolve_right fun free => ?_
    rw [load?_eq_none attached free] at tracked
    cases tracked
  have freight := freight id attached h
  generalize (c.happen h).load? id = left at freight counted
  cases freight with
  | kept => exact unloaded (was (Option.isSome_of_eq_some counted)) l counted
  | @given client draw asked r chosen own =>
    obtain ⟨old, there, -⟩ := Option.map_eq_some_iff.mp counted
    have among := was (Option.isSome_of_eq_some there)
    have named := name_of_selected attached coherent chosen (own ▸ among)
    subst named
    rw [pick?, if_pos rfl, chosen] at unpicked
    cases unpicked
  | reported => simp [Happening.reportsOn] at unreported
  | dropped => cases counted
  | begun =>
    cases counted
    rfl

/-- An id that nobody has reported on is not used as long as its name is not selected. -/
theorem unused_lived (attached : c.mesh.Attached) (coherent : c.mesh.balancer.Coherent)
    {life : List Happening} (unreported : ∀ h ∈ life, h.reportsOn id = false)
    (unpicked : c.picks name life = []) (unbroken : c.Unbroken id)
    (unloaded : c.Unloaded name id) :
    (c.lived life).Unbroken id ∧ (c.lived life).Unloaded name id := by
  induction life generalizing c with
  | nil => exact ⟨unbroken, unloaded⟩
  | cons h rest ih =>
    obtain ⟨first, others⟩ := List.forall_mem_cons.mp unreported
    obtain ⟨now, later⟩ := List.append_eq_nil_iff.mp unpicked
    exact ih (attached_happen attached h) (coherent_happen attached coherent h) others later
      (unbroken_happen attached first unbroken)
      (unloaded_happen attached coherent first (Option.toList_eq_nil_iff.mp now) unloaded)

end Coordinator

end ServiceMesh
