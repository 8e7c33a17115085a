import ServiceMesh.Proofs.Coordinator.Share
import ServiceMesh.Proofs.Coordinator.Story

/-!
# Announcements

The service subscriber is told of registrations and removals, and of nothing else. Whether an
operation changes who is registered is told by its answer, so what the subscribers should have
heard is read off the answers, and what they did hear off the log of the notifier. The two are
compared act by act; the set of registered ids ties both to the registry.
-/

namespace ServiceMesh

/-! ## Changes of membership -/

namespace MembershipChange

/-- The record that came or went. -/
def record : MembershipChange → Record
  | registered r | unregistered r => r

/-- Whether the record came. -/
def joins : MembershipChange → Bool
  | registered _ => true
  | unregistered _ => false

/-- Whether an id came or went, if the change is one of that id. -/
def turn? (id : String) (change : MembershipChange) : Option Bool :=
  if change.record.id = id then some change.joins else none

theorem turn?_eq_some_iff {change : MembershipChange} {id : String} {b : Bool} :
    change.turn? id = some b ↔ change.record.id = id ∧ change.joins = b := by
  unfold turn?
  split <;> simp_all

theorem turn?_eq_none_iff {change : MembershipChange} {id : String} :
    change.turn? id = none ↔ change.record.id ≠ id := by
  unfold turn?
  split <;> simp_all

end MembershipChange

/-- The change of membership that an operation makes when it is answered so, on a node that
gives an initial status to what it registers. -/
def Operation.change? (initial : Status) : Operation → Answer → Option MembershipChange
  | .register r, .done => some (.registered { r with status := initial })
  | .unregister _, .record r => some (.unregistered r)
  | _, _ => none

/-- A change of membership, if there is one, as a step from one set of ids to another. Only what
is absent comes and only what is there goes. -/
inductive Moves (before after : String → Bool) : Option MembershipChange → Prop
  | still (same : after = before) : Moves before after none
  | joined {r : Record} (absent : before r.id = false) (grown : after = adding r.id before) :
      Moves before after (some (.registered r))
  | left {r : Record} (there : before r.id = true) (shrunk : after = removing r.id before) :
      Moves before after (some (.unregistered r))

namespace Moves

variable {before after : String → Bool} {change : Option MembershipChange} {id : String}

/-- An id that comes or goes is turned around. -/
theorem of_turn (moves : Moves before after change) {b : Bool}
    (turn : change.bind (MembershipChange.turn? id) = some b) : before id ≠ b ∧ after id = b := by
  cases moves with
  | still => cases turn
  | @joined r absent grown =>
    obtain ⟨rfl, rfl⟩ : r.id = id ∧ true = b := MembershipChange.turn?_eq_some_iff.mp turn
    rw [grown, adding, absent, beq_self_eq_true, Bool.true_or]
    exact ⟨by decide, rfl⟩
  | @left r there shrunk =>
    obtain ⟨rfl, rfl⟩ : r.id = id ∧ false = b := MembershipChange.turn?_eq_some_iff.mp turn
    rw [shrunk, removing, there, bne_self_eq_false, Bool.false_and]
    exact ⟨by decide, rfl⟩

/-- An id that neither comes nor goes stays what it is. -/
theorem of_no_turn (moves : Moves before after change)
    (unturned : change.bind (MembershipChange.turn? id) = none) : after id = before id := by
  cases moves with
  | still same => rw [same]
  | @joined r _ grown =>
    have other : r.id ≠ id := MembershipChange.turn?_eq_none_iff.mp unturned
    rw [grown, adding, beq_eq_false_iff_ne.mpr other, Bool.false_or]
  | @left r _ shrunk =>
    have other : r.id ≠ id := MembershipChange.turn?_eq_none_iff.mp unturned
    rw [shrunk, removing, bne_iff_ne.mpr other, Bool.true_and]

end Moves

/-! ## What the subscribers are told -/

/-- Who listens to the services is told of the change and nobody else is. -/
theorem Notifier.reverse_membershipChanged (n : Notifier) (change : MembershipChange) :
    (n.membershipChanged change).membershipChanges.reverse =
      n.membershipChanges.reverse ++ n.serviceListener.toList.map (·, change) := by
  unfold membershipChanged
  cases n.serviceListener with
  | none => exact (List.append_nil _).symm
  | some l => exact List.reverse_cons

theorem Notifier.serviceListener_membershipChanged (n : Notifier) (change : MembershipChange) :
    (n.membershipChanged change).serviceListener = n.serviceListener := by
  unfold membershipChanged
  split
  · rfl
  · rfl

namespace Coordinator

variable {c next : Coordinator}

/-- Who is told of registrations and removals. -/
def serviceListener (c : Coordinator) : Option String := c.mesh.notifier.serviceListener

/-- What the service subscribers were told, oldest first, and which of them. -/
def announced (c : Coordinator) : List (String × MembershipChange) :=
  c.mesh.notifier.membershipChanges.reverse

/-- What is delivered of a change: one event to who listens. -/
def delivery (c : Coordinator) (change : MembershipChange) : List (String × MembershipChange) :=
  c.serviceListener.toList.map (·, change)

/-- The change of membership that an act makes, by its answer. -/
def change? (c : Coordinator) : Act → Option MembershipChange
  | .call op => op.change? c.initialStatus (c.perform op).1
  | _ => none

/-- The changes of membership that acts make, in their order. -/
def changes (c : Coordinator) : List Act → List MembershipChange
  | [] => []
  | a :: rest => (c.change? a).toList ++ (c.act a).changes rest

/-- Whether somebody listens to the services whenever one of the acts happens. -/
def heard (c : Coordinator) : List Act → Bool
  | [] => true
  | a :: rest => c.serviceListener.isSome && (c.act a).heard rest

/-! ## One act -/

theorem announced_announce (c : Coordinator) {m : Mesh} (same : m.notifier = c.mesh.notifier)
    (change : MembershipChange) :
    (c.setMesh (announce m change)).announced = c.announced ++ c.delivery change := by
  show (m.notifier.membershipChanged change).membershipChanges.reverse = _
  rw [same]
  exact c.mesh.notifier.reverse_membershipChanged change

theorem announced_call {op : Operation} {answer : Answer} (made : Call c op answer next) :
    next.announced =
      c.announced ++ (op.change? c.initialStatus answer).elim [] c.delivery := by
  have quiet : c.announced = c.announced ++ [] := (List.append_nil _).symm
  cases made with
  | register | unregister => exact c.announced_announce rfl _
  | refused op e => cases op <;> exact quiet
  | configure health balancer => cases health <;> cases balancer <;> exact quiet
  | _ => exact quiet

theorem serviceListener_call {op : Operation} {answer : Answer} (made : Call c op answer next)
    (kept : ∀ listener, op ≠ .listenServices listener) :
    next.serviceListener = c.serviceListener := by
  cases made with
  | register | unregister => exact c.mesh.notifier.serviceListener_membershipChanged _
  | configure health balancer => cases health <;> cases balancer <;> rfl
  | listenServices listener => exact absurd rfl (kept listener)
  | _ => rfl

theorem moves_call (attached : c.mesh.Attached) {op : Operation} {answer : Answer}
    (made : Call c op answer next) :
    Moves c.mesh.store.contains next.mesh.store.contains (op.change? c.initialStatus answer) := by
  cases made with
  | register r valid free =>
    exact .joined free (Store.contains_register (Store.register_ok valid free))
  | @unregister id r done =>
    have found := (Store.removed_of_unregister done).1
    obtain ⟨-, rfl⟩ := attached.find?_eq_some found
    exact .left (Option.isSome_of_eq_some found) (Store.contains_unregister done)
  | refused op e => cases op <;> exact .still rfl
  | setMetadata id metadata => exact .still (c.mesh.store.contains_modify id _)
  | report => exact .still (c.mesh.store.contains_modify _ _)
  | configure health balancer => cases health <;> cases balancer <;> exact .still rfl
  | _ => exact .still rfl

/-- Loops and checks tell the service subscriber nothing and do not replace it. -/
theorem services_beat {t : Timeline} (b : Beat c.timeline t) (attached : c.mesh.Attached) :
    (t.mesh.notifier.membershipChanges, t.mesh.notifier.serviceListener) =
      (c.mesh.notifier.membershipChanges, c.mesh.notifier.serviceListener) := by
  cases b with
  | aside same => rw [same]; rfl
  | setPhase | abandon | count => rfl
  | apply id outcome time config =>
    show ((c.mesh.applyCheck id outcome time config false).2.notifier.membershipChanges,
      (c.mesh.applyCheck id outcome time config false).2.notifier.serviceListener) = _
    obtain ⟨-, e, -, refused⟩ | ⟨r, -, -, applied⟩ := attached.applyCheck_eq id outcome time config
    · rw [refused]
      rfl
    · rw [applied, Mesh.notifier_checked]
      split
      · rfl
      · unfold Notifier.statusChanged
        split <;> rfl

theorem change?_of_waits {op : Operation} (takes : op.waits = true) (answer : Answer) :
    op.change? c.initialStatus answer = none := by
  cases op with
  | check | join | advance => rfl
  | _ => cases takes

/-- An act that is no call changes nobody's membership and does not speak of it. -/
theorem act_cases (attached : c.mesh.Attached) (a : Act) :
    (∃ op, a = .call op ∧ Call c op (c.perform op).1 (c.act a)) ∨
    (c.change? a = none ∧ (c.act a).announced = c.announced ∧
      (c.act a).serviceListener = c.serviceListener ∧
      (c.act a).mesh.store.contains = c.mesh.store.contains) := by
  obtain ⟨op, rfl, -, made⟩ | ⟨op, rfl, takes, still⟩ | timed := c.act_kinds a
  · exact .inl ⟨op, rfl, made⟩
  · rw [change?, change?_of_waits takes, still]
    exact .inr ⟨rfl, rfl, rfl, rfl⟩
  · have left := act_leaves (fun m => (m.notifier.membershipChanges, m.notifier.serviceListener))
      services_beat attached timed
    refine .inr ⟨?_, congrArg List.reverse (Prod.mk.inj left).1, (Prod.mk.inj left).2, ?_⟩
    · cases a with
      | call op => exact absurd rfl (timed op)
      | _ => rfl
    · exact funext fun other => contains_step attached timed other

/-- The service subscribers are told of what an act changes and of nothing else. -/
theorem announced_act (attached : c.mesh.Attached) (a : Act) :
    (c.act a).announced = c.announced ++ (c.change? a).elim [] c.delivery := by
  obtain ⟨op, rfl, made⟩ | ⟨silent, same, -, -⟩ := act_cases attached a
  · exact announced_call made
  · rw [silent, same]
    exact (List.append_nil _).symm

/-- Only a call that replaces the service subscriber does so. -/
theorem serviceListener_act (attached : c.mesh.Attached) {a : Act}
    (kept : ∀ listener, a ≠ .call (.listenServices listener)) :
    (c.act a).serviceListener = c.serviceListener := by
  obtain ⟨op, rfl, made⟩ | ⟨-, -, same, -⟩ := act_cases attached a
  · exact serviceListener_call made fun listener same => kept listener (congrArg Act.call same)
  · exact same

/-- The registered ids take the step that the change of an act says. -/
theorem moves_act (attached : c.mesh.Attached) (a : Act) :
    Moves c.mesh.store.contains (c.act a).mesh.store.contains (c.change? a) := by
  obtain ⟨op, rfl, made⟩ | ⟨silent, -, -, same⟩ := act_cases attached a
  · exact moves_call attached made
  · rw [silent]
    exact .still same

theorem change?_eq_none {a : Act}
    (registers : ∀ r, a = .call (.register r) → (c.register r).1 ≠ .ok ())
    (removes : ∀ id r, a = .call (.unregister id) → (c.unregister id).1 ≠ .ok r) :
    c.change? a = none := by
  cases a with
  | call op =>
    cases op with
    | register r =>
      show (Operation.register r).change? _ (answerOf _ (c.register r).1) = none
      cases answered : (c.register r).1 with
      | ok => exact absurd answered (registers r rfl)
      | error => rfl
    | unregister id =>
      show (Operation.unregister id).change? _ (answerOf _ (c.unregister id).1) = none
      cases answered : (c.unregister id).1 with
      | ok r => exact absurd answered (removes id r rfl)
      | error => rfl
    | _ => rfl
  | _ => rfl

/-! ## Acts that follow one another -/

/-- While somebody listens, what the subscribers are told is what changes. -/
theorem announced_acted (attached : c.mesh.Attached) {acts : List Act}
    (heard : c.heard acts = true) :
    (c.acted acts).announced.map Prod.snd = c.announced.map Prod.snd ++ c.changes acts := by
  induction acts generalizing c with
  | nil => exact (List.append_nil _).symm
  | cons a rest ih =>
    obtain ⟨listener, others⟩ := Bool.and_eq_true_iff.mp heard
    obtain ⟨l, present⟩ := Option.isSome_iff_exists.mp listener
    have told : ((c.change? a).elim [] c.delivery).map Prod.snd = (c.change? a).toList := by
      cases c.change? a with
      | none => rfl
      | some change => rw [Option.elim_some, delivery, present]; rfl
    rw [acted_cons, ih (attached_act attached a) others, announced_act attached a, List.map_append,
      told, List.append_assoc]
    rfl

/-- Whoever listens, nobody is told anything while nothing changes. -/
theorem announced_of_unchanged (attached : c.mesh.Attached) {acts : List Act}
    (unchanged : c.changes acts = []) : (c.acted acts).announced = c.announced := by
  induction acts generalizing c with
  | nil => rfl
  | cons a rest ih =>
    obtain ⟨silent, others⟩ := List.append_eq_nil_iff.mp unchanged
    have told := announced_act attached a
    rw [Option.toList_eq_nil_iff.mp silent] at told
    rw [acted_cons, ih (attached_act attached a) others, told]
    exact List.append_nil _

/-- The comings and goings of an id. -/
def turns (c : Coordinator) (id : String) (acts : List Act) : List Bool :=
  (c.changes acts).filterMap (MembershipChange.turn? id)

theorem turns_cons (c : Coordinator) (id : String) (a : Act) (rest : List Act) :
    c.turns id (a :: rest) =
      ((c.change? a).bind (MembershipChange.turn? id)).toList ++ (c.act a).turns id rest := by
  rw [turns, changes, List.filterMap_append]
  cases c.change? a with
  | none => rfl
  | some change =>
    show [change].filterMap _ ++ _ = (change.turn? id).toList ++ _
    rw [List.filterMap_cons]
    cases change.turn? id <;> rfl

/-- An id comes and goes in turns, beginning with what it is not, and what it did last is what
it is. -/
theorem turns_alternate (attached : c.mesh.Attached) (id : String) (acts : List Act) :
    (c.mesh.store.contains id :: c.turns id acts).IsChain (· ≠ ·) ∧
      (c.turns id acts).getLastD (c.mesh.store.contains id) =
        (c.acted acts).mesh.store.contains id := by
  -- What the id is before the acts heads the line, so the step of one act links it to the rest.
  induction acts generalizing c with
  | nil => exact ⟨.singleton _, rfl⟩
  | cons a rest ih =>
    obtain ⟨chain, last⟩ := ih (attached_act attached a)
    have moves := moves_act attached a
    rw [turns_cons, acted_cons]
    cases turn : (c.change? a).bind (MembershipChange.turn? id) with
    | none =>
      rw [moves.of_no_turn turn] at chain last
      exact ⟨chain, last⟩
    | some b =>
      obtain ⟨turned, now⟩ := moves.of_turn turn
      rw [now] at chain last
      refine ⟨.cons_cons turned chain, ?_⟩
      show (b :: (c.act a).turns id rest).getLastD _ = _
      rw [List.getLastD_cons]
      exact last

/-- Every registration and every removal is announced once, to who listens then, and nothing else
is announced. A registered instance is announced with the initial status, a removed one as it was.
The listener is the one that was set last. While somebody listens, the announcements to all
listeners together are the changes of membership in their order; if nothing changed before, the
announcements of each id alternate, beginning with its registration, and the last one tells
whether the id is registered. -/
theorem announcements_exact (config : Config) (before stretch : List Act) :
    let c := (fresh config).acted before
    let later := c.acted stretch
    (∀ r, (c.register r).1 = .ok () → (c.register r).2.announced = c.announced ++
      c.serviceListener.toList.map
        (·, .registered { r with status := config.registry.initialStatus })) ∧
    (∀ id r, (c.unregister id).1 = .ok r → c.mesh.store.find? id = some r ∧
      (c.unregister id).2.announced =
        c.announced ++ c.serviceListener.toList.map (·, .unregistered r)) ∧
    (∀ a, (∀ r, a = .call (.register r) → (c.register r).1 ≠ .ok ()) →
      (∀ id r, a = .call (.unregister id) → (c.unregister id).1 ≠ .ok r) →
      (c.act a).announced = c.announced) ∧
    (∀ listener, (c.act (.call (.listenServices listener))).serviceListener = listener) ∧
    (∀ a, (∀ listener, a ≠ .call (.listenServices listener)) →
      (c.act a).serviceListener = c.serviceListener) ∧
    (c.heard stretch = true →
      later.announced.map Prod.snd = c.announced.map Prod.snd ++ c.changes stretch) ∧
    (c.heard stretch = true → (fresh config).changes before = [] → ∀ id,
      let turns := (later.announced.map Prod.snd).filterMap (MembershipChange.turn? id)
      turns.IsChain (· ≠ ·) ∧ turns.head? ≠ some false ∧
        turns.getLastD false = later.mesh.store.contains id) := by
  intro c later
  have attached : c.mesh.Attached := attached_acted (attached_fresh config) before
  have initial : c.initialStatus = config.registry.initialStatus :=
    initialStatus_changes (acted_changes (fresh config) before)
  refine ⟨?_, ?_, ?_, fun _ => rfl, fun _ => serviceListener_act attached, announced_acted attached,
    ?_⟩
  · intro r done
    have told := announced_call (c.register_call r)
    rw [done, initial] at told
    exact told
  · intro id r done
    have told := announced_call (c.unregister_call id)
    rw [done] at told
    obtain ⟨e, refused⟩ | ⟨_, taken, removed⟩ := c.unregister_eq id
    · rw [refused] at done
      cases done
    · rw [removed] at done
      cases done
      exact ⟨(Store.removed_of_unregister taken).1, told⟩
  · intro a registers removes
    have told := announced_act attached a
    rw [change?_eq_none registers removes] at told
    exact told.trans (List.append_nil _)
  · intro heard unchanged id turns
    have untold : (fresh config).turns id before = [] := by
      rw [Coordinator.turns, unchanged]
      rfl
    have absent : c.mesh.store.contains id = false := by
      have last := (turns_alternate (attached_fresh config) id before).2
      rw [untold] at last
      exact last.symm
    have line : turns = c.turns id stretch := by
      show (later.announced.map Prod.snd).filterMap _ = _
      rw [announced_acted attached heard,
        announced_of_unchanged (attached_fresh config) unchanged]
      rfl
    obtain ⟨chain, last⟩ := turns_alternate attached id stretch
    rw [absent, ← line] at chain last
    obtain ⟨begins, alternates⟩ := List.isChain_cons.mp chain
    exact ⟨alternates, fun left => begins false left rfl, last⟩

/-- A subscriber is replaced by another one between a registration and the removal. A registration
of an id that is taken and a removal of an id that is not there are refused and not announced. -/
def handover : List Act :=
  let r : Record := { serviceName := "svc", id := "a", endpoint := "127.0.0.1", port := 8080 }
  [.call (.register { r with status := .unhealthy }), .call (.register r),
    .call (.listenServices (some "second")), .call (.unregister "b"), .call (.unregister "a"),
    .call (.register r)]

/-- The first subscriber hears of the registration and the second one of the removal and of the
registration after it. -/
theorem announcements_exact_of_handover :
    let before : List Act := [.call (.listenServices (some "first"))]
    let c := (fresh {}).acted before
    let later := c.acted handover
    let told := later.announced.map fun p => (p.1, p.2.joins, p.2.record.id, p.2.record.status)
    let turns := (later.announced.map Prod.snd).filterMap (MembershipChange.turn? "a")
    let r : Record := { serviceName := "svc", id := "a", endpoint := "127.0.0.1", port := 8080 }
    (c.register r).1 = .ok () ∧
    (c.register r).2.announced = [("first", .registered { r with status := .healthy })] ∧
    told = [("first", true, "a", .healthy), ("second", false, "a", .healthy),
      ("second", true, "a", .healthy)] ∧
    c.heard handover = true ∧ (fresh {}).changes before = [] ∧
    turns.IsChain (· ≠ ·) ∧ turns.getLastD false = later.mesh.store.contains "a" := by
  intro before c later told turns r
  have registered : (c.register r).1 = .ok () := by decide +kernel
  have heard : c.heard handover = true := by decide +kernel
  have unchanged : (fresh {}).changes before = [] := rfl
  obtain ⟨joined, -, -, -, -, -, alternate⟩ := announcements_exact {} before handover
  obtain ⟨chain, -, last⟩ := alternate heard unchanged "a"
  exact ⟨registered, joined r registered, by decide +kernel, heard, unchanged, chain, last⟩

end Coordinator

end ServiceMesh
