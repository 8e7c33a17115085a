import ServiceMesh.Proofs.Coordinator.Abreast
import ServiceMesh.Proofs.Coordinator.Concern
import ServiceMesh.Proofs.Coordinator.Probings
import ServiceMesh.Proofs.Coordinator.Story

/-!
# Nodes that are twins but for one id

Two nodes whose probes meet the same targets but for one id can differ in what is known of that id
and in where its probes stand, and in nothing else. What is asked of both keeps them so, as long as
nobody asks for an instance of a name. A step for that id does so to either, and a step for another
id to both, and the probes of other ids begin and end alike.
-/

namespace ServiceMesh

/-- All ids but one, and no names. -/
def Share.without (id : String) : Share :=
  { ids := fun other => other != id, names := fun _ => false }

theorem Share.ids_without {id other : String} (differ : other ≠ id) :
    (Share.without id).ids other = true :=
  bne_iff_ne.mpr differ

theorem Share.ids_without_self (id : String) : (Share.without id).ids id = false :=
  bne_self_eq_false id

/-- A spawned check, without where it stands if it is of an id. -/
def SpawnedCheck.hushed (id : String) (k : SpawnedCheck) : SpawnedCheck :=
  if k.id = id then { k with phase := .fresh } else k

/-- Whether an operation leaves alone who is registered, watched and checked by hand, and who is
told. -/
def Operation.isAside : Operation → Bool
  | .register _ | .unregister _ | .watch .. | .unwatch _ | .spawn .. | .start | .stop
  | .listenHealth _ => false
  | _ => true

namespace Coordinator

variable {c d e next : Coordinator} {id other : String}

/-! ## Nodes alongside each other -/

/-- Two nodes have the same instances, loops, spawned checks and health subscriber, and have told
the same of other ids, wherever the probes of an id stand. -/
structure Alongside (id : String) (c d : Coordinator) : Prop where
  contains : ∀ other, c.mesh.store.contains other = d.mesh.store.contains other
  monitor : c.mesh.monitor.Abreast d.mesh.monitor
  spawned : c.timeline.spawned.map (SpawnedCheck.hushed id) =
    d.timeline.spawned.map (SpawnedCheck.hushed id)
  listener : c.listener = d.listener
  told : ∀ other, other ≠ id → c.told other = d.told other

namespace Alongside

theorem refl (id : String) (c : Coordinator) : c.Alongside id c :=
  ⟨fun _ => rfl, .refl _, rfl, rfl, fun _ _ => rfl⟩

theorem symm (h : c.Alongside id d) : d.Alongside id c :=
  ⟨fun other => (h.contains other).symm, h.monitor.symm, h.spawned.symm, h.listener.symm,
    fun other differ => (h.told other differ).symm⟩

theorem trans (h : c.Alongside id d) (h' : d.Alongside id e) : c.Alongside id e :=
  ⟨fun other => (h.contains other).trans (h'.contains other), h.monitor.trans h'.monitor,
    h.spawned.trans h'.spawned, h.listener.trans h'.listener,
    fun other differ => (h.told other differ).trans (h'.told other differ)⟩

/-- The spawned checks of other ids are the same. -/
theorem spawned_filter (h : c.Alongside id d) :
    (c.timeline.spawned.filter fun k => k.id != id) =
      d.timeline.spawned.filter fun k => k.id != id := by
  have hushed : ∀ checks : List SpawnedCheck,
      (checks.map (SpawnedCheck.hushed id)).filter (fun k => k.id != id) =
        checks.filter fun k => k.id != id := by
    intro checks
    induction checks with
    | nil => rfl
    | cons k rest ih => by_cases own : k.id = id <;> simp [SpawnedCheck.hushed, own, ih]
  rw [← hushed, h.spawned, hushed]

/-! ### Operations -/

theorem setMonitor (h : c.Alongside id d) {m n : Monitor} (abreast : m.Abreast n) :
    (c.setMonitor m).Alongside id (d.setMonitor n) :=
  ⟨h.contains, abreast, h.spawned, h.listener, h.told⟩

theorem of_aside {op : Operation} {answer : Answer} (made : Call c op answer next)
    (aside : op.isAside = true) (id : String) : c.Alongside id next := by
  cases made with
  | setMetadata changed metadata =>
    refine ⟨fun other => ?_, .refl _, rfl, rfl, fun _ _ => rfl⟩
    exact (congrFun (c.mesh.store.contains_modify changed _) other).symm
  | @report reported _ _ _ _ _ _ _ =>
    refine ⟨fun other => ?_, .refl _, rfl, rfl, fun _ _ => rfl⟩
    exact (congrFun (c.mesh.store.contains_modify reported _) other).symm
  | configure health balancer =>
    cases health <;> cases balancer <;>
      exact ⟨fun _ => rfl, .of_same rfl rfl rfl, rfl, rfl, fun _ _ => rfl⟩
  | refused | select | readBreaker | resetBreaker | startAgain | stopAgain | listenServices
  | setTarget | wait => exact ⟨fun _ => rfl, .refl _, rfl, rfl, fun _ _ => rfl⟩
  | register | unregister | watch | unwatch | spawn | start | stop | listenHealth => cases aside

/-- Whoever is told of a change of the registry, nobody is told of a status. -/
theorem announce (h : c.Alongside id d) {m n : Mesh} (change change' : MembershipChange)
    (contains : ∀ other, m.store.contains other = n.store.contains other)
    (monitor : m.monitor.Abreast n.monitor) (left : m.notifier = c.mesh.notifier)
    (right : n.notifier = d.mesh.notifier) :
    (c.setMesh (Coordinator.announce m change)).Alongside id
      (d.setMesh (Coordinator.announce n change')) := by
  have listeners : ∀ (notifier : Notifier) change,
      (notifier.membershipChanged change).healthListener = notifier.healthListener := by
    intro notifier change
    rw [Notifier.membershipChanged]
    split <;> rfl
  refine ⟨contains, monitor, h.spawned, ?_, fun other differ => ?_⟩
  · change (m.notifier.membershipChanged change).healthListener =
      (n.notifier.membershipChanged change').healthListener
    rw [listeners, listeners, left, right]
    exact h.listener
  · rw [told_setMesh_announce c m change left, told_setMesh_announce d n change' right]
    exact h.told other differ

theorem register (h : c.Alongside id d) (r : Record) :
    (c.register r).2.Alongside id (d.register r).2 := by
  rcases register_alike (h.contains r.id) with ⟨e, refused, refused'⟩ | ⟨valid, free, done, done'⟩
  · rwa [refused, refused']
  · have added : ∀ {c : Coordinator}, c.mesh.store.contains r.id = false → ∀ other,
        (c.mesh.store.register { r with status := c.initialStatus }).2.contains other =
          (r.id == other || c.mesh.store.contains other) := by
      intro c free other
      exact congrFun (Store.contains_register (r := { r with status := c.initialStatus })
        (Store.register_ok valid free)) other
    have free' : d.mesh.store.contains r.id = false := h.contains r.id ▸ free
    rw [done, done']
    refine h.announce _ _ (fun other => ?_) h.monitor rfl rfl
    exact (added free other).trans ((h.contains other ▸ rfl : _ = _).trans (added free' other).symm)

theorem unregister (h : c.Alongside id d) (left : c.mesh.Attached) (right : d.mesh.Attached)
    (removed : String) : (c.unregister removed).2.Alongside id (d.unregister removed).2 := by
  rcases unregister_alike left right (h.contains removed) with
    ⟨e, refused, refused'⟩ | ⟨r, r', gone, gone', done, done'⟩
  · rwa [refused, refused']
  · rw [done, done']
    refine h.announce _ _ (fun other => ?_) (h.monitor.forget removed) rfl rfl
    change (c.mesh.store.unregister removed).2.contains other =
      (d.mesh.store.unregister removed).2.contains other
    rw [Store.contains_unregister gone, Store.contains_unregister gone', removing, removing,
      h.contains]

theorem settle (h : c.Alongside id d) {x y : Except Failure Coordinator}
    (alike : (∃ e, x = .error e ∧ y = .error e) ∨
      ∃ c' d', x = .ok c' ∧ y = .ok d' ∧ c'.Alongside id d') :
    (c.settle x).2.Alongside id (d.settle y).2 := by
  rcases alike with ⟨e, rfl, rfl⟩ | ⟨c', d', rfl, rfl, alongside⟩
  · exact h
  · exact alongside

theorem spawn (h : c.Alongside id d) (handle checked : String) :
    (c.perform (.spawn handle checked)).2.Alongside id (d.perform (.spawn handle checked)).2 := by
  have number := h.monitor.begun
  refine ⟨h.contains, ⟨h.monitor.settings, h.monitor.posts, h.monitor.running, ?_⟩, ?_, h.listener,
    h.told⟩
  · exact congrArg (· + 1) number
  · change (c.timeline.spawned ++ [_]).map _ = (d.timeline.spawned ++ [_]).map _
    rw [List.map_append, List.map_append, h.spawned]
    change _ ++ [SpawnedCheck.hushed id ⟨handle, c.mesh.monitor.begun, checked, .fresh⟩] = _
    rw [number]
    rfl

/-- What takes no time keeps two nodes alongside each other. -/
theorem perform (h : c.Alongside id d) (lifecycle : c.lifecycle = d.lifecycle)
    (defaults : c.mesh.monitor.defaults = d.mesh.monitor.defaults) (left : c.mesh.Attached)
    (right : d.mesh.Attached) {op : Operation} (atOnce : op.waits = false) :
    (c.perform op).2.Alongside id (d.perform op).2 := by
  by_cases aside : op.isAside = true
  · have onLeft := of_aside (c.perform_call atOnce) aside id
    have onRight := of_aside (d.perform_call atOnce) aside id
    exact onLeft.symm.trans (h.trans onRight)
  cases op with
  | register r => exact h.register r
  | unregister removed => exact h.unregister left right removed
  | watch watched config =>
    apply h.settle
    rcases watch_alike defaults (h.contains watched) config with
      refused | ⟨settings, done, done'⟩
    · exact .inl refused
    · exact .inr ⟨_, _, done, done', h.setMonitor (h.monitor.rewatched watched settings)⟩
  | unwatch watched =>
    apply h.settle
    rcases unwatch_alike c d watched with refused | ⟨done, done'⟩
    · exact .inl refused
    · exact .inr ⟨_, _, done, done', h.setMonitor (h.monitor.drop watched)⟩
  | spawn handle checked => exact h.spawn handle checked
  | start =>
    change c.start.Alongside id d.start
    rw [Coordinator.start, Coordinator.start, ← lifecycle]
    split
    · exact h
    · exact ⟨h.contains, h.monitor.run, h.spawned, h.listener, h.told⟩
  | stop =>
    change c.stop.Alongside id d.stop
    rw [Coordinator.stop, Coordinator.stop, ← lifecycle]
    split
    · exact ⟨h.contains, h.monitor.halt, h.spawned, h.listener, h.told⟩
    · exact h
  | listenHealth => exact ⟨h.contains, h.monitor, h.spawned, rfl, h.told⟩
  | _ => exact absurd rfl aside

end Alongside

/-! ## Twins -/

/-- Two nodes differ in nothing but what is known of an id and where its probes stand. -/
structure Twins (id : String) (c d : Coordinator) : Prop extends c.Alongside id d where
  agree : c.Agree (.without id) d
  clock : c.timeline.now = d.timeline.now

namespace Twins

theorem refl (id : String) (c : Coordinator) : c.Twins id c := ⟨.refl id c, .refl _ c, rfl⟩

theorem symm (h : c.Twins id d) : d.Twins id c :=
  ⟨h.toAlongside.symm, h.agree.symm, h.clock.symm⟩

theorem trans (h : c.Twins id d) (h' : d.Twins id e) : c.Twins id e :=
  ⟨h.toAlongside.trans h'.toAlongside, h.agree.trans h'.agree, h.clock.trans h'.clock⟩

theorem watch_eq (h : c.Twins id d) (differ : other ≠ id) :
    c.mesh.monitor.watches[other]? = d.mesh.monitor.watches[other]? :=
  Monitor.watch_eq_of_abreast h.monitor
    (h.agree.mesh.monitor.stances other (Share.ids_without differ))

/-- An operation that takes no time keeps twins, unless it asks for an instance of a name. -/
theorem perform (h : c.Twins id d) (left : c.mesh.Attached) (right : d.mesh.Attached)
    {op : Operation} (atOnce : op.waits = false)
    (unselected : ∀ name client draw, op ≠ .select name client draw) :
    (c.perform op).2.Twins id (d.perform op).2 := by
  have outside : op.concerns (.without id) = false → ∀ c : Coordinator,
      c.Agree (.without id) (c.perform op).2 := by
    intro outside c
    apply Agree.perform_outside atOnce outside
    · intro r _
      rfl
    · intro other r _ _
      rfl
    · intro name client draw same
      exact absurd same (unselected name client draw)
  refine ⟨?_, ?_, ?_⟩
  · exact h.toAlongside.perform h.agree.lifecycle h.agree.mesh.monitor.defaults left right atOnce
  · cases concerns : op.concerns (.without id) with
    | true =>
      refine (h.agree.perform left right atOnce concerns ?_).2
      intro name named
      cases named
    | false => exact (outside concerns c).symm.trans (h.agree.trans (outside concerns d))
  · rw [now_call (c.perform_call atOnce), now_call (d.perform_call atOnce), h.clock]

end Twins

/-! ## Steps -/

theorem id_of_endingOfLoop? {t : Timeline} {e : Ending} (ending : t.endingOfLoop? id = some e) :
    e.id = id := by
  unfold Timeline.endingOfLoop? at ending
  split at ending
  · cases ending
    rfl
  · cases ending

theorem id_of_ending? {k : SpawnedCheck} {e : Ending} (ending : k.ending? = some e) :
    e.id = k.id := by
  unfold SpawnedCheck.ending? at ending
  split at ending
  · cases ending
    rfl
  · cases ending

/-- What is told of an id in a step is told of it by the end of the probe. -/
theorem told_step {a : Act} (timed : ∀ op, a ≠ .call op) (other : String) :
    (c.act a).told other = (c.endedBy (c.ending? a)).told other :=
  ((c.endedBy_untouched timed).keeps other).told

/-- A step for an id is not seen alongside it. -/
theorem alongside_step (attached : c.mesh.Attached) {a : Act} (timed : ∀ op, a ≠ .call op)
    (monitor : c.mesh.monitor.Abreast (c.act a).mesh.monitor)
    (spawned : c.timeline.spawned.map (SpawnedCheck.hushed id) =
      (c.act a).timeline.spawned.map (SpawnedCheck.hushed id))
    (own : ∀ e, c.ending? a = some e → e.id = id) : c.Alongside id (c.act a) := by
  have listener : (c.act a).listener = c.listener :=
    listener_act attached fun l => timed (.listenHealth l)
  refine ⟨fun other => (contains_step attached timed other).symm, monitor, spawned, listener.symm,
    fun other differ => ?_⟩
  rw [told_step timed]
  cases ending : c.ending? a with
  | none => rfl
  | some e =>
    have elsewhere : e.id ≠ other := own e ending ▸ differ.symm
    exact (ended_keeps attached elsewhere).told.symm

namespace Twins

/-- The probe of another id ends alike, and the same is told. -/
theorem told_ended (h : c.Twins id d) (left : c.mesh.Attached) (right : d.mesh.Attached)
    {e : Ending} (own : e.id ≠ id) (differ : other ≠ id) :
    (c.ended e).told other = (d.ended e).told other := by
  by_cases self : e.id = other
  · subst self
    have counts := Share.ids_without own
    have found := h.agree.mesh.store.find? counts
    cases there : c.mesh.store.find? e.id with
    | none =>
      rw [there] at found
      rw [((ended_untouched left there).keeps e.id).told,
        ((ended_untouched right found.symm).keeps e.id).told, h.told e.id differ]
    | some r =>
      rw [there] at found
      have finding : c.finding e = d.finding e := h.agree.timeline.finding counts e.probe
      have same := (left.find?_eq_some there).2
      have check : c.checkOf r e = d.checkOf r e := by
        rw [checkOf, checkOf, finding, h.agree.mesh.verdict (same ▸ counts)]
      rw [(ended_takes left there).told, (ended_takes right found.symm).told, check,
        h.told e.id differ, Coordinator.notice, h.listener, Coordinator.notice]
  · rw [(ended_keeps left self).told, (ended_keeps right self).told, h.told other differ]

/-- The end of a probe, or none, is alike for twins. -/
theorem told_act (h : c.Twins id d) (left : c.mesh.Attached) (right : d.mesh.Attached) {a : Act}
    (timed : ∀ op, a ≠ .call op) (ending : c.ending? a = d.ending? a)
    (own : ∀ e, c.ending? a = some e → e.id ≠ id) (differ : other ≠ id) :
    (c.act a).told other = (d.act a).told other := by
  rw [told_step timed, told_step timed, ← ending]
  cases found : c.ending? a with
  | none => exact h.told other differ
  | some e => exact h.told_ended left right (own e found) differ

theorem alongside_act (h : c.Twins id d) (left : c.mesh.Attached) (right : d.mesh.Attached)
    {a : Act} (timed : ∀ op, a ≠ .call op) (ending : c.ending? a = d.ending? a)
    (own : ∀ e, c.ending? a = some e → e.id ≠ id)
    (onLeft : c.mesh.monitor.Abreast (c.act a).mesh.monitor)
    (onRight : d.mesh.monitor.Abreast (d.act a).mesh.monitor)
    (spawned : (c.act a).timeline.spawned.map (SpawnedCheck.hushed id) =
      (d.act a).timeline.spawned.map (SpawnedCheck.hushed id)) :
    (c.act a).Alongside id (d.act a) := by
  refine ⟨fun other => ?_, onLeft.symm.trans (h.monitor.trans onRight), spawned, ?_,
    fun other differ => h.told_act left right timed ending own differ⟩
  · rw [contains_step left timed, contains_step right timed, h.contains]
  · rw [listener_act left fun l => timed (.listenHealth l),
      listener_act right fun l => timed (.listenHealth l), h.listener]

/-! ### Steps for the id -/

theorem of_loop (attached : c.mesh.Attached) (id : String) : c.Twins id (c.act (.loop id)) := by
  refine ⟨alongside_step attached (by simp) (Timeline.abreast_stepLoop attached id) ?_
    fun e => id_of_endingOfLoop?, ?_, ?_⟩
  · rw [act, Timeline.spawned_stepLoop]
  · exact Agree.setTimeline_outside c (.stepLoop_outside attached (Share.ids_without_self id))
  · exact (c.timeline.now_stepLoop id).symm

theorem of_spawned (orderly : c.Orderly) {k : SpawnedCheck} (there : k ∈ c.timeline.spawned)
    (unfinished : ∀ result, k.phase ≠ .finished result) :
    c.Twins k.id (c.act (.spawned k)) := by
  have attached := orderly.attached
  refine ⟨alongside_step attached (by simp) (Timeline.abreast_stepSpawned attached k) ?_
    fun e => id_of_ending?, ?_, ?_⟩
  · rw [act, Timeline.spawned_stepSpawned _ unfinished, Timeline.setSpawned, List.map_map]
    apply List.map_congr_left
    intro j member
    rw [Function.comp_apply]
    split
    case isTrue same =>
      rw [SpawnedCheck.eq_of_serial orderly.ascend member there same]
      simp [SpawnedCheck.hushed]
    case isFalse => rfl
  · exact Agree.setTimeline_outside c (.stepSpawned_outside attached (Share.ids_without_self k.id))
  · exact (c.timeline.now_stepSpawned k).symm

/-- What the probes of the id meet is not seen elsewhere. -/
theorem of_setTarget (c : Coordinator) (id : String) (change : Target → Target) :
    c.Twins id (c.perform (.setTarget id change)).2 :=
  ⟨⟨fun _ => rfl, .refl _, rfl, rfl, fun _ _ => rfl⟩,
    Agree.setTimeline_outside c (.setTarget_outside (Share.ids_without_self id) _ change), rfl⟩

/-! ### Steps for other ids -/

theorem beginProbe_eq (h : c.Twins id d) (differ : other ≠ id) (config : HealthConfig) :
    (c.timeline.beginProbe other config).1 = (d.timeline.beginProbe other config).1 := by
  rw [Timeline.beginProbe, Timeline.beginProbe, h.clock,
    h.agree.timeline.target (Share.ids_without differ)]

theorem begins_eq (h : c.Twins id d) (other : String) : c.begins other = d.begins other := by
  funext probe
  rw [begins, h.clock, begins]

theorem ends_eq (h : c.Twins id d) {e : Ending} (differ : e.id ≠ id) : c.ends e = d.ends e := by
  rw [ends, ends, h.clock, finding, h.agree.timeline.finding (Share.ids_without differ), finding]

theorem beginningOfLoop?_eq (h : c.Twins id d) (differ : other ≠ id) :
    c.timeline.beginningOfLoop? other = d.timeline.beginningOfLoop? other := by
  have watch : c.timeline.mesh.monitor.watches[other]? = d.timeline.mesh.monitor.watches[other]? :=
    h.watch_eq differ
  have there : c.timeline.mesh.store.contains other = d.timeline.mesh.store.contains other :=
    h.contains other
  unfold Timeline.beginningOfLoop?
  rw [watch, there]
  split
  · rw [h.beginProbe_eq differ]
  · rw [h.beginProbe_eq differ]
  · rfl

theorem beginningOfCheck?_eq (h : c.Twins id d) (differ : other ≠ id) :
    c.timeline.beginningOfCheck? other = d.timeline.beginningOfCheck? other := by
  rw [Timeline.beginningOfCheck?, h.agree.timeline.checkConfig (Share.ids_without differ),
    Timeline.beginningOfCheck?]
  congr 1
  funext config
  exact h.beginProbe_eq differ config

theorem endingOfLoop?_eq (h : c.Twins id d) (differ : other ≠ id) :
    c.timeline.endingOfLoop? other = d.timeline.endingOfLoop? other := by
  have watch : c.timeline.mesh.monitor.watches[other]? = d.timeline.mesh.monitor.watches[other]? :=
    h.watch_eq differ
  unfold Timeline.endingOfLoop?
  rw [watch]

theorem loop (h : c.Twins id d) (left : c.mesh.Attached) (right : d.mesh.Attached)
    (differ : other ≠ id) :
    c.probing? (.loop other) = d.probing? (.loop other) ∧
      (c.act (.loop other)).Twins id (d.act (.loop other)) := by
  have ending := h.endingOfLoop?_eq differ
  constructor
  · rw [probing?, probing?, h.beginningOfLoop?_eq differ, h.begins_eq, ← ending]
    cases found : c.timeline.endingOfLoop? other with
    | none => rfl
    | some e =>
      have own : e.id ≠ id := id_of_endingOfLoop? found ▸ differ
      rw [Option.map_some, Option.map_some, h.ends_eq own]
  · refine ⟨?_, ?_, ?_⟩
    · refine h.alongside_act left right (by simp) ending ?_ (Timeline.abreast_stepLoop left other)
        (Timeline.abreast_stepLoop right other) ?_
      · intro e found
        exact id_of_endingOfLoop? found ▸ differ
      · rw [act, act, Timeline.spawned_stepLoop, Timeline.spawned_stepLoop, h.spawned]
    · exact h.agree.setTimeline
        (h.agree.timeline.stepLoop h.clock left right (Share.ids_without differ))
    · rw [act, act, Timeline.now_stepLoop, Timeline.now_stepLoop, h.clock]

theorem nextSpawnPhase_eq (h : c.Twins id d) (left : c.mesh.Attached) (right : d.mesh.Attached)
    {k : SpawnedCheck} (differ : k.id ≠ id) :
    c.timeline.nextSpawnPhase k = d.timeline.nextSpawnPhase k := by
  have own := Share.ids_without differ
  unfold Timeline.nextSpawnPhase
  rw [h.agree.timeline.checkConfig own]
  split
  · split
    · rfl
    · rw [h.beginProbe_eq differ]
  · rw [(h.agree.timeline.endProbe left right own _ _).1]
  · rfl

/-- A new phase of a spawned check keeps the others hushed. -/
theorem hushed_setSpawned {t u : Timeline} (same : t.spawned.map (SpawnedCheck.hushed id) =
      u.spawned.map (SpawnedCheck.hushed id)) (serial : Nat) (phase : SpawnPhase) :
    (t.setSpawned serial phase).spawned.map (SpawnedCheck.hushed id) =
      (u.setSpawned serial phase).spawned.map (SpawnedCheck.hushed id) := by
  have commutes : ∀ checks : List SpawnedCheck,
      (checks.map fun k => if k.serial = serial then { k with phase } else k).map
        (SpawnedCheck.hushed id) =
      ((checks.map (SpawnedCheck.hushed id)).map fun k =>
        if k.serial = serial then { k with phase } else k).map (SpawnedCheck.hushed id) := by
    intro checks
    rw [List.map_map, List.map_map, List.map_map]
    apply List.map_congr_left
    intro k _
    simp only [Function.comp_apply, SpawnedCheck.hushed]
    by_cases own : k.id = id <;> by_cases numbered : k.serial = serial <;> simp [own, numbered]
  rw [Timeline.setSpawned, Timeline.setSpawned, commutes, same, ← commutes]

theorem spawnedCheck (h : c.Twins id d) (left : c.mesh.Attached) (right : d.mesh.Attached)
    {k : SpawnedCheck} (differ : k.id ≠ id) :
    c.probing? (.spawned k) = d.probing? (.spawned k) ∧
      (c.act (.spawned k)).Twins id (d.act (.spawned k)) := by
  constructor
  · have beginning : c.timeline.beginningOfSpawned? k = d.timeline.beginningOfSpawned? k := by
      unfold Timeline.beginningOfSpawned?
      rw [h.beginningOfCheck?_eq differ]
    rw [probing?, probing?, beginning, h.begins_eq]
    cases found : k.ending? with
    | none => rfl
    | some e =>
      have own : e.id ≠ id := id_of_ending? found ▸ differ
      rw [Option.map_some, Option.map_some, h.ends_eq own]
  · refine ⟨?_, ?_, ?_⟩
    · refine h.alongside_act left right (by simp) rfl ?_ (Timeline.abreast_stepSpawned left k)
        (Timeline.abreast_stepSpawned right k) ?_
      · intro e found
        exact id_of_ending? found ▸ differ
      · by_cases done : ∃ result, k.phase = .finished result
        · obtain ⟨result, phase⟩ := done
          rw [act, act, Timeline.stepSpawned, Timeline.stepSpawned, phase]
          exact h.spawned
        · have unfinished : ∀ result, k.phase ≠ .finished result :=
            fun result same => done ⟨result, same⟩
          rw [act, act, Timeline.spawned_stepSpawned _ unfinished,
            Timeline.spawned_stepSpawned _ unfinished, h.nextSpawnPhase_eq left right differ]
          exact hushed_setSpawned h.spawned _ _
    · exact h.agree.setTimeline
        (h.agree.timeline.stepSpawned left right (Share.ids_without differ))
    · rw [act, act, Timeline.now_stepSpawned, Timeline.now_stepSpawned, h.clock]

theorem finish (h : c.Twins id d) (left : c.mesh.Attached) (right : d.mesh.Attached)
    (differ : other ≠ id) (probe : Probe) (config : HealthConfig) :
    c.probing? (.finish other probe config) = d.probing? (.finish other probe config) ∧
      (c.act (.finish other probe config)).Twins id (d.act (.finish other probe config)) := by
  constructor
  · rw [probing?, probing?, h.ends_eq differ]
  · refine ⟨?_, ?_, ?_⟩
    · refine h.alongside_act left right (by simp) rfl ?_
        (Timeline.abreast_endProbe left other probe config)
        (Timeline.abreast_endProbe right other probe config) ?_
      · rintro e ⟨⟩
        exact differ
      · rw [act, act, Timeline.spawned_endProbe, Timeline.spawned_endProbe, h.spawned]
    · exact h.agree.setTimeline
        (h.agree.timeline.endProbe left right (Share.ids_without differ) probe config).2
    · rw [act, act, Timeline.now_endProbe, Timeline.now_endProbe, h.clock]

/-- Clocks that are set alike. -/
theorem setClock (h : c.Twins id d) (now : Nat) : (c.setClock now).Twins id (d.setClock now) :=
  ⟨⟨h.contains, h.monitor, h.spawned, h.listener, h.told⟩,
    h.agree.setTimeline ⟨h.agree.mesh, h.agree.timeline.targets, h.agree.timeline.moment⟩, rfl⟩

end Twins

end Coordinator

end ServiceMesh
