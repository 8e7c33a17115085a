import ServiceMesh.Proofs.Coordinator.Concern

/-!
# Service names do not interfere

If the ids that are used under some names are used under no other name, whatever happens to other
names and to their ids could as well not have happened. The operations on those names and on their
ids are answered alike without it, and what can be read of them is the same.
-/

namespace ServiceMesh

variable {σ : Share}

/-- Whether a happening concerns a share. -/
def Happening.concerns (σ : Share) : Happening → Bool
  | .act a => a.concerns σ
  | .elapse _ => true

namespace Coordinator

variable {c d next : Coordinator}

theorem now_happen (c : Coordinator) (h : Happening) :
    (c.happen h).timeline.now =
      match h with
      | .act (.clock now) => now
      | _ => c.timeline.now := by
  cases h with
  | elapse => rfl
  | act a => cases a <;> exact c.now_act _

/-! ## The names of ids -/

/-- The name that an id is registered under. -/
def nameOf? (c : Coordinator) (id : String) : Option String :=
  (c.mesh.store.find? id).map Record.serviceName

/-- Each registered id is in the share if its name is, and is not if its name is not. -/
def Splits (σ : Share) (c : Coordinator) : Prop :=
  ∀ id name, c.nameOf? id = some name → σ.ids id = σ.names name

theorem lasting_serviceName : Mesh.Lasting Record.serviceName :=
  ⟨fun _ _ => rfl, fun _ _ => rfl, fun _ _ => rfl⟩

theorem splits_call {op : Operation} {answer : Answer} (made : Call c op answer next)
    (splits : c.Splits σ)
    (registers : ∀ r, op = .register r → σ.ids r.id = σ.names r.serviceName) :
    next.Splits σ := by
  have same : (∀ id, next.nameOf? id = c.nameOf? id) → next.Splits σ := by
    intro kept id name named
    exact splits id name (kept id ▸ named)
  cases made with
  | register r valid free =>
    intro id name named
    have done : (c.mesh.store.register { r with status := c.initialStatus }).1 = .ok () :=
      Store.register_ok valid free
    change ((c.mesh.store.register _).2.find? id).map _ = _ at named
    by_cases self : r.id = id
    · subst self
      rw [Store.find?_register_self done, Option.map_some] at named
      rw [registers r rfl, Option.some.inj named]
    · rw [Store.find?_register_ne (r := { r with status := c.initialStatus }) _ self] at named
      exact splits id name named
  | @unregister removed r done =>
    intro id name named
    change ((c.mesh.store.unregister removed).2.find? id).map _ = _ at named
    by_cases self : removed = id
    · subst self
      have gone := Store.contains_unregister done
      obtain ⟨r', found, -⟩ := Option.map_eq_some_iff.mp named
      have there : (c.mesh.store.unregister removed).2.contains removed = true :=
        Option.isSome_of_eq_some found
      rw [gone, removing, bne_self_eq_false, Bool.false_and] at there
      cases there
    · rw [Store.find?_unregister_ne _ self] at named
      exact splits id name named
  | setMetadata | report =>
    exact same fun id => c.mesh.store.map_find?_modify _ id fun _ => rfl
  | configure health balancer =>
    refine same fun id => ?_
    cases health <;> cases balancer <;> rfl
  | _ => exact same fun _ => rfl

theorem splits_beats {t : Timeline} (chain : Beats c.timeline t) (attached : c.mesh.Attached)
    (splits : c.Splits σ) : ({ c with timeline := t } : Coordinator).Splits σ := by
  induction chain with
  | refl => exact splits
  | @tail middle last before b ih =>
    have between : ({ c with timeline := middle } : Coordinator).mesh.Attached :=
      attached_changes (changes_of_beats before) attached
    intro id name named
    have kept := lasting_beat (c := { c with timeline := middle }) lasting_serviceName b between id
    exact ih id name (kept.symm.trans named)

theorem splits_happen (attached : c.mesh.Attached) (splits : c.Splits σ) {h : Happening}
    (registers : ∀ r, h = .act (.call (.register r)) → σ.ids r.id = σ.names r.serviceName) :
    (c.happen h).Splits σ := by
  cases h with
  | elapse => exact splits
  | act a =>
    cases a with
    | call op =>
      rw [happen, act]
      split
      case isTrue => exact splits
      case isFalse atOnce =>
        refine splits_call (c.perform_call (Bool.eq_false_iff.mpr atOnce)) splits ?_
        rintro r rfl
        exact registers r rfl
    | clock => exact splits
    | loop id => exact splits_beats (c.timeline.stepLoop_beats id) attached splits
    | spawned k => exact splits_beats (c.timeline.stepSpawned_beats k) attached splits
    | finish id probe config =>
      exact splits_beats (c.timeline.endProbe_beats id probe config) attached splits

theorem splits_lived (attached : c.mesh.Attached) (splits : c.Splits σ) {life : List Happening}
    (registers : ∀ r, .act (.call (.register r)) ∈ life → σ.ids r.id = σ.names r.serviceName) :
    (c.lived life).Splits σ := by
  induction life generalizing c with
  | nil => exact splits
  | cons h rest ih =>
    apply ih (attached_happen attached h)
    · apply splits_happen attached splits
      rintro r rfl
      exact registers r List.mem_cons_self
    · intro r member
      exact registers r (List.mem_cons_of_mem h member)

theorem Splits.find? (splits : c.Splits σ) {id : String} {r : Record}
    (found : c.mesh.store.find? id = some r) : σ.ids id = σ.names r.serviceName :=
  splits id r.serviceName (by rw [nameOf?, found, Option.map_some])

theorem Splits.members (splits : c.Splits σ) (attached : c.mesh.Attached) {name : String}
    {r : Record} (member : r ∈ c.mesh.store.members name) : σ.ids r.id = σ.names name := by
  obtain ⟨found, named⟩ := (mem_members_iff attached).mp member
  rw [splits.find? found, named]

/-- The members of a name of the share are in the share. -/
theorem Splits.own (splits : c.Splits σ) (attached : c.mesh.Attached) (name : String)
    (counts : σ.names name = true) : ∀ r ∈ c.mesh.store.members name, σ.ids r.id = true := by
  intro r member
  rw [splits.members attached member, counts]

/-! ## Replies -/

/-- The answer to a check that cannot begin. -/
def refusal? (c : Coordinator) (id : String) : Option Answer :=
  match c.timeline.checkConfig id with
  | .error e => some (.refused e)
  | .ok _ => none

/-- What is answered when something happens. An operation that takes no time is answered at once,
and so is a check that cannot begin. Any other check is answered when its probe ends. -/
def reply? (c : Coordinator) : Happening → Option Answer
  | .act (.call (.check id)) => c.refusal? id
  | .act (.call op) => if op.waits then none else some (c.perform op).1
  | .act (.spawned k) =>
    match k.phase with
    | .fresh => c.refusal? k.id
    | .probing probe config => some (answerOf .status (c.timeline.endProbe k.id probe config).1)
    | .finished _ => none
  | .act (.finish id probe config) =>
    some (answerOf .status (c.timeline.endProbe id probe config).1)
  | .act (.clock _) | .act (.loop _) | .elapse _ => none

/-- What is answered in a lifetime when something happens that concerns a share. -/
def replies (σ : Share) (c : Coordinator) : List Happening → List (Option Answer)
  | [] => []
  | h :: rest =>
    if h.concerns σ then c.reply? h :: (c.happen h).replies σ rest
    else (c.happen h).replies σ rest

theorem Agree.refusal? (agree : c.Agree σ d) {id : String} (own : σ.ids id = true) :
    c.refusal? id = d.refusal? id := by
  rw [Coordinator.refusal?, agree.timeline.checkConfig own, Coordinator.refusal?]

theorem Agree.answered (agree : c.Agree σ d) (left : c.mesh.Attached) (right : d.mesh.Attached)
    {id : String} (own : σ.ids id = true) (probe : Probe) (config : HealthConfig) :
    answerOf .status (c.timeline.endProbe id probe config).1 =
      answerOf .status (d.timeline.endProbe id probe config).1 := by
  rw [(agree.timeline.endProbe left right own probe config).1]

/-- What happens to a share is answered alike by two nodes that agree on it. -/
theorem Agree.reply? (agree : c.Agree σ d) (left : c.mesh.Attached) (right : d.mesh.Attached)
    (splits : c.Splits σ) {h : Happening} (concerns : h.concerns σ = true) :
    c.reply? h = d.reply? h := by
  cases h with
  | elapse => rfl
  | act a =>
    cases a with
    | call op =>
      have atOnce : (if op.waits then none else some (c.perform op).1) =
          (if op.waits then none else some (d.perform op).1) := by
        split
        case isTrue => rfl
        case isFalse atOnce =>
          exact congrArg some (agree.perform left right (Bool.eq_false_iff.mpr atOnce) concerns
            (splits.own left)).1
      cases op with
      | check id => exact agree.refusal? concerns
      | _ => exact atOnce
    | clock | loop => rfl
    | spawned k =>
      obtain ⟨handle, serial, id, phase⟩ := k
      cases phase with
      | fresh => exact agree.refusal? concerns
      | probing probe config =>
        exact congrArg some (agree.answered left right concerns probe config)
      | finished => rfl
    | finish id probe config =>
      exact congrArg some (agree.answered left right concerns probe config)

/-- What happens to a share keeps nodes in agreement on it. -/
theorem Agree.happen (agree : c.Agree σ d) (sameTime : c.timeline.now = d.timeline.now)
    (left : c.mesh.Attached) (right : d.mesh.Attached) (splits : c.Splits σ) {h : Happening}
    (concerns : h.concerns σ = true) : (c.happen h).Agree σ (d.happen h) := by
  cases h with
  | elapse nanoseconds =>
    have later : c.timeline.moment + nanoseconds = d.timeline.moment + nanoseconds := by
      rw [agree.timeline.moment]
    exact agree.setTimeline ⟨agree.mesh, agree.timeline.targets, later⟩
  | act a =>
    cases a with
    | call op =>
      rw [Coordinator.happen, act, Coordinator.happen, act]
      split
      case isTrue => exact agree
      case isFalse atOnce =>
        exact (agree.perform left right (Bool.eq_false_iff.mpr atOnce) concerns
          (splits.own left)).2
    | clock =>
      exact agree.setTimeline ⟨agree.mesh, agree.timeline.targets, agree.timeline.moment⟩
    | loop => exact agree.setTimeline (agree.timeline.stepLoop sameTime left right concerns)
    | spawned => exact agree.setTimeline (agree.timeline.stepSpawned left right concerns)
    | finish id probe config =>
      exact agree.setTimeline (agree.timeline.endProbe left right concerns probe config).2

/-- What does not concern a share is not seen in it. -/
theorem Agree.happen_outside (attached : c.mesh.Attached) (splits : c.Splits σ) {h : Happening}
    (outside : h.concerns σ = false)
    (registers : ∀ r, h = .act (.call (.register r)) → σ.ids r.id = σ.names r.serviceName) :
    c.Agree σ (c.happen h) := by
  cases h with
  | elapse => cases outside
  | act a =>
    cases a with
    | call op =>
      rw [Coordinator.happen, act]
      split
      case isTrue => exact .refl σ c
      case isFalse atOnce =>
        refine perform_outside (Bool.eq_false_iff.mpr atOnce) outside ?_ ?_ ?_
        · rintro r rfl
          exact (registers r rfl).symm.trans outside
        · intro id r found away
          exact (splits.find? found).symm.trans away
        · rintro name client draw rfl r member
          exact (splits.members attached member).trans outside
    | clock => cases outside
    | loop id => exact setTimeline_outside c (.stepLoop_outside attached outside)
    | spawned k => exact setTimeline_outside c (.stepSpawned_outside attached outside)
    | finish id probe config =>
      exact setTimeline_outside c (.endProbe_outside attached outside probe config)

theorem now_happen_outside {h : Happening} (outside : h.concerns σ = false) :
    (c.happen h).timeline.now = c.timeline.now := by
  rw [now_happen]
  split
  · cases outside
  · rfl

/-- A lifetime is answered as it would be without what does not concern the share. -/
theorem Agree.lived (agree : c.Agree σ d) (sameTime : c.timeline.now = d.timeline.now)
    (left : c.mesh.Attached) (right : d.mesh.Attached) (splits : c.Splits σ)
    {life : List Happening}
    (registers : ∀ r, .act (.call (.register r)) ∈ life → σ.ids r.id = σ.names r.serviceName) :
    c.replies σ life = d.replies σ (life.filter fun h => h.concerns σ) ∧
      (c.lived life).Agree σ (d.lived (life.filter fun h => h.concerns σ)) := by
  induction life generalizing c d with
  | nil => exact ⟨rfl, agree⟩
  | cons h rest ih =>
    have here : ∀ r, h = .act (.call (.register r)) → σ.ids r.id = σ.names r.serviceName := by
      rintro r rfl
      exact registers r List.mem_cons_self
    have later : ∀ r, .act (.call (.register r)) ∈ rest → σ.ids r.id = σ.names r.serviceName :=
      fun r member => registers r (List.mem_cons_of_mem h member)
    have left' := attached_happen left h
    have splits' := splits_happen left splits here
    cases concerns : h.concerns σ with
    | true =>
      have reply := agree.reply? left right splits concerns
      have agree' := agree.happen sameTime left right splits concerns
      have sameTime' : (c.happen h).timeline.now = (d.happen h).timeline.now := by
        rw [now_happen, now_happen, sameTime]
      obtain ⟨replies, ends⟩ :=
        ih agree' sameTime' left' (attached_happen right h) splits' later
      rw [List.filter_cons_of_pos (p := fun h : Happening => h.concerns σ) concerns]
      simp only [Coordinator.replies, concerns, if_true, reply, replies]
      exact ⟨trivial, ends⟩
    | false =>
      have agree' := (happen_outside left splits concerns here).symm.trans agree
      have sameTime' : (c.happen h).timeline.now = d.timeline.now :=
        (now_happen_outside concerns).trans sameTime
      obtain ⟨replies, ends⟩ := ih agree' sameTime' left' right splits' later
      rw [List.filter_cons_of_neg (p := fun h : Happening => h.concerns σ) (by simp [concerns])]
      simp only [Coordinator.replies, concerns, Bool.false_eq_true, if_false, replies]
      exact ⟨trivial, ends⟩

/-! ## What can be read of a share -/

/-- The same can be read of the names and the ids of a share at two nodes. -/
structure ReadAlike (σ : Share) (c d : Coordinator) : Prop where
  discover : ∀ name, σ.names name = true → c.discover name = d.discover name
  weights : ∀ name, σ.names name = true → c.mesh.store.weights name = d.mesh.store.weights name
  statistics : ∀ name, σ.names name = true →
    c.mesh.balancer.statistics name = d.mesh.balancer.statistics name
  health : ∀ id, σ.ids id = true → c.serviceHealth id = d.serviceHealth id
  history : ∀ id, σ.ids id = true →
    c.mesh.monitor.history c.mesh.store id = d.mesh.monitor.history d.mesh.store id
  breaker : ∀ id, σ.ids id = true →
    (c.perform (.readBreaker id)).1 = (d.perform (.readBreaker id)).1
  load : ∀ id, σ.ids id = true → c.mesh.balancer.load id = d.mesh.balancer.load id
  /-- a check begins with the same settings, or is refused alike -/
  check : ∀ id, σ.ids id = true → c.timeline.checkConfig id = d.timeline.checkConfig id

theorem Agree.list (agree : c.Agree σ d) (attached : c.mesh.Attached) (splits : c.Splits σ)
    {name : String} (counts : σ.names name = true) :
    c.mesh.store.list name = d.mesh.store.list name := by
  have own : ∀ id ∈ c.mesh.store.names[name]?.getD [], σ.ids id = true := by
    intro id listed
    obtain ⟨r, member, rfl⟩ := member_of_listed attached listed
    exact splits.own attached name counts r member
  rw [Store.list, agree.mesh.store.members counts own, Store.list]

/-- Nodes that agree on a share read alike. -/
theorem Agree.readAlike (agree : c.Agree σ d) (attached : c.mesh.Attached)
    (splits : c.Splits σ) : c.ReadAlike σ d where
  discover name counts := by
    rw [discover, agree.list attached splits counts, discover]
  weights name counts := by
    rw [Store.weights, agree.list attached splits counts, Store.weights]
  statistics name counts := by
    rw [Balancer.statistics, agree.mesh.balancer.groups name counts, Balancer.statistics]
  health id own := by
    rw [serviceHealth, agree.mesh.store.get own, serviceHealth]
  history id own := by
    rw [Monitor.history, agree.mesh.store.contains own, agree.mesh.monitor.slots id own,
      Monitor.history]
  breaker id own := (agree.readBreaker own).1
  load id own := by
    rw [Balancer.load, agree.mesh.balancer.loads id own, Balancer.load]
  check id own := agree.timeline.checkConfig own

/-! ## Service names do not interfere -/

theorem splits_fresh (config : Config) (σ : Share) : (fresh config).Splits σ := by
  intro id name named
  cases named

/-- If the ids that are registered under the names of a share are the registered ids of the share,
all that concerns only other names and other ids could as well not have happened in a lifetime.
Everything else is answered as it would be without it, and at the end the same can be read of the
names and the ids of the share, and a check of one of these begins with the same settings. -/
theorem names_do_not_interfere (config : Config) (σ : Share) (life : List Happening)
    (apart : ∀ r, .act (.call (.register r)) ∈ life → σ.ids r.id = σ.names r.serviceName) :
    (fresh config).replies σ life =
        (fresh config).replies σ (life.filter fun h => h.concerns σ) ∧
      ((fresh config).lived life).ReadAlike σ
        ((fresh config).lived (life.filter fun h => h.concerns σ)) := by
  have attached := attached_fresh config
  have splits := splits_fresh config σ
  obtain ⟨replies, ends⟩ := (Agree.refl σ (fresh config)).lived rfl attached attached splits apart
  exact ⟨replies, ends.readAlike (attached_of_lived attached life)
    (splits_lived attached splits apart)⟩

/-- Two instances of a name take turns, whether or not an instance of another name is registered,
selected and reported on in between. -/
theorem names_do_not_interfere_of_two :
    let register (name id : String) : Happening := .act (.call (.register
      { serviceName := name, id, endpoint := "127.0.0.1", port := 8080 }))
    let select (name : String) : Happening := .act (.call (.select name none 0))
    let failure : Happening := .act (.call (.report "c" (.ofMillis 5) false))
    let σ : Share := { ids := fun id => id == "a" || id == "b", names := fun name => name == "svc" }
    let busy := [register "svc" "a", register "web" "c", register "svc" "b", select "svc",
      select "web", failure, select "svc"]
    let quiet := [register "svc" "a", register "svc" "b", select "svc", select "svc"]
    let chosen (reply : Option Answer) : Option String :=
      match reply with
      | some (.record r) => some r.id
      | _ => none
    ((fresh {}).replies σ busy).filterMap chosen = ["a", "b"] ∧
      (fresh {}).replies σ busy = (fresh {}).replies σ quiet ∧
      ((fresh {}).lived busy).ReadAlike σ ((fresh {}).lived quiet) := by
  intro register select failure σ busy quiet chosen
  have apart : ∀ r, .act (.call (.register r)) ∈ busy → σ.ids r.id = σ.names r.serviceName := by
    simp [busy, register, select, failure, σ]
  have filtered : (busy.filter fun h => h.concerns σ) = quiet := by rfl
  have alike := names_do_not_interfere {} σ busy apart
  rw [filtered] at alike
  refine ⟨?_, alike⟩
  rw [alike.1]
  decide +kernel

end Coordinator

end ServiceMesh
