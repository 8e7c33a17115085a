import ServiceMesh.Proofs.Coordinator.Story
import ServiceMesh.Proofs.Metrics

/-!
# The health metric

The health of an id is recorded when a check turns an instance to another status, and at no other
time. A registration gives a status too, and a removal takes it away, and neither is recorded. So
the metric is about an id and not about an instance: it shows the status that a check turned any
instance of that id to last. While no check has turned the instance that has the id now, this is a
status of an instance that is gone.
-/

namespace ServiceMesh

/-- What the health metric shows for a status. -/
def Status.level (s : Status) : Nat := if s.selectable then 1 else 0

/-! ## What leaves the record alone -/

namespace Monitor

variable (m : Monitor) (id : String)

private theorem gauge_beginLoop : (m.beginLoop id).gauge = m.gauge := by
  unfold beginLoop
  split <;> rfl

private theorem gauge_endLoop : (m.endLoop id).gauge = m.gauge := by
  unfold endLoop
  split <;> rfl

private theorem gauge_run : m.run.gauge = m.gauge :=
  foldl_keeps Monitor.gauge gauge_beginLoop { m with running := true } _

private theorem gauge_halt : m.halt.gauge = m.gauge :=
  foldl_keeps Monitor.gauge gauge_endLoop { m with running := false } _

private theorem gauge_watch {next : Monitor} {store : Store} {config : HealthConfig}
    (done : m.watch store id config = .ok next) : next.gauge = m.gauge := by
  obtain ⟨-, rfl⟩ := watch_eq done
  have renewed : ((m.endLoop id).renewed id config).gauge = m.gauge := m.gauge_endLoop id
  unfold rewatched
  split
  · rw [gauge_beginLoop, renewed]
  · exact renewed

end Monitor

namespace Timeline

variable (t : Timeline) (id : String)

private theorem gauge_probed (probe : Probe) :
    (t.probed probe).monitor.gauge = t.mesh.monitor.gauge := by
  unfold probed
  split <;> rfl

theorem gauge_tick (config : HealthConfig) (due : Nat) :
    (t.tick id config due).mesh.monitor.gauge = t.mesh.monitor.gauge := by
  unfold tick
  split <;> rfl

end Timeline

theorem Mesh.gauge_checked (m : Mesh) (r : Record) (outcome : Outcome) (time : Option Duration)
    (config : HealthConfig) :
    (m.checked r outcome time config).monitor.gauge =
      if (m.verdict r outcome config).1 = r.status then m.monitor.gauge
      else m.monitor.gauge.insert r.id (m.verdict r outcome config).1.selectable := by
  have noted : ((m.slotted r.id (m.checkedSlot r outcome time config)).noted r.id outcome
      time).monitor.gauge = m.monitor.gauge := by
    cases time <;> rfl
  unfold checked turned
  split
  · exact noted
  · rw [noted]

namespace Coordinator

variable {c next : Coordinator} {id : String}

/-- What was recorded last of the health of an id. -/
def gauge? (c : Coordinator) (id : String) : Option Bool := c.mesh.monitor.gauge[id]?

/-- What the health metric shows of an id, if it was ever recorded. -/
def shown (c : Coordinator) (id : String) : List Nat :=
  c.mesh.numbers "mesh_service_health" (· == [("service_id", id)])

theorem shown_eq (c : Coordinator) (id : String) :
    c.shown id = ((c.gauge? id).map fun selectable => if selectable then 1 else 0).toList :=
  c.mesh.numbers_health id

/-- No call records the health of anyone. -/
theorem gauge_call {op : Operation} {answer : Answer} (made : Call c op answer next) :
    next.mesh.monitor.gauge = c.mesh.monitor.gauge := by
  cases made with
  | unregister => exact c.mesh.monitor.gauge_endLoop _
  | watch done => exact Monitor.gauge_watch _ _ done
  | unwatch dropped => exact c.mesh.monitor.gauge_endLoop dropped
  | configure health balancer => cases health <;> cases balancer <;> rfl
  | start => exact c.mesh.monitor.gauge_run
  | stop => exact c.mesh.monitor.gauge_halt
  | _ => rfl

/-- An act that is no call records what the end of its probe does. -/
theorem gauge_endedBy (c : Coordinator) {a : Act} (timed : ∀ op, a ≠ .call op) :
    (c.act a).mesh.monitor.gauge = (c.endedBy (c.ending? a)).mesh.monitor.gauge := by
  cases a with
  | call op => exact absurd rfl (timed op)
  | clock | finish => rfl
  | loop id =>
    change (c.timeline.stepLoop id).mesh.monitor.gauge =
      (c.endedBy (c.timeline.endingOfLoop? id)).mesh.monitor.gauge
    unfold Timeline.stepLoop Timeline.endingOfLoop?
    cases c.timeline.mesh.monitor.watches[id]? with
    | none => rfl
    | some w =>
      obtain ⟨config, loop⟩ := w
      cases loop with
      | none => rfl
      | some l =>
        obtain ⟨serial, phase⟩ := l
        cases phase with
        | fresh => exact c.timeline.gauge_tick id config c.timeline.now
        | waiting due => exact c.timeline.gauge_tick id config due
        | probing probe due =>
          simp only [endedBy, ended]
          cases c.timeline.endProbe id probe config with
          | mk result t =>
            cases result with
            | ok => rfl
            | error e => cases e <;> rfl
  | spawned k =>
    change (c.timeline.stepSpawned k).mesh.monitor.gauge = (c.endedBy k.ending?).mesh.monitor.gauge
    unfold Timeline.stepSpawned SpawnedCheck.ending?
    cases k.phase with
    | fresh =>
      simp only
      cases c.timeline.checkConfig k.id <;> rfl
    | probing | finished => rfl

/-! ## Turns -/

/-- The status that an act turns an instance to, if it is another one than the instance has. -/
def turn? (c : Coordinator) (id : String) (a : Act) : Option Status :=
  ((c.applied id a).map Check.status).filter fun s => c.status? id ≠ some s

/-- The statuses that acts turn the instances of an id to, in their order. -/
def turnsOf (c : Coordinator) (id : String) : List Act → List Status
  | [] => []
  | a :: rest => (c.turn? id a).toList ++ (c.act a).turnsOf id rest

theorem turn?_call (c : Coordinator) (id : String) (op : Operation) :
    c.turn? id (.call op) = none := rfl

theorem turn?_of_absent (absent : c.status? id = none) (a : Act) : c.turn? id a = none := by
  have gone : c.mesh.store.find? id = none := Option.map_eq_none_iff.mp absent
  have unchecked : c.applied id a = none := by
    rw [applied, gone]
    cases c.ending? a with
    | none => rfl
    | some e => rw [Option.bind_some, Option.map_none, ite_self]
  rw [turn?, unchecked]
  rfl

/-- The end of a probe records the status that it turns its instance to. -/
theorem gauge?_ended (attached : c.mesh.Attached) {a : Act} {e : Ending}
    (ending : c.ending? a = some e) :
    (c.ended e).gauge? id = ((c.turn? id a).map Status.selectable).or (c.gauge? id) := by
  have applied : c.applied id a =
      if e.id = id then (c.mesh.store.find? id).map fun r => c.checkOf r e else none := by
    rw [Coordinator.applied, ending, Option.bind_some]
  have still : (c.timeline.probed e.probe).monitor.gauge[id]? = c.gauge? id := by
    rw [Timeline.gauge_probed]
    rfl
  rcases mesh_ended_cases attached e with ⟨gone, vacated⟩ | ⟨r, there, same, checked⟩
  · have unturned : c.turn? id a = none := by
      rw [turn?, applied]
      split
      case isTrue same =>
        rw [← same, gone]
        rfl
      case isFalse => rfl
    rw [unturned, gauge?, vacated]
    exact still
  · rw [gauge?, checked, Mesh.gauge_checked, probed_verdict]
    by_cases own : e.id = id
    · subst own
      have turned : c.turn? e.id a = if (c.checkOf r e).status = r.status then none
          else some (c.checkOf r e).status := by
        rw [turn?, applied, if_pos rfl, there, status?, there, Option.map_some, Option.map_some,
          Option.map_some, Option.filter_some]
        by_cases unchanged : (c.checkOf r e).status = r.status
        · simp [unchanged]
        · simp [unchanged, Ne.symm unchanged]
      rw [turned]
      change (if (c.checkOf r e).status = r.status then _ else _)[e.id]? = _
      split
      case isTrue => exact still
      case isFalse =>
        rw [← same, Table.getElem?_insert_self]
        rfl
    · have unturned : c.turn? id a = none := by
        rw [turn?, applied, if_neg own]
        rfl
      rw [unturned]
      split
      case isTrue => exact still
      case isFalse =>
        rw [same, Table.getElem?_insert_ne _ own]
        exact still

/-- An act records the status that it turns an instance to, and nothing else. -/
theorem gauge?_act (attached : c.mesh.Attached) (a : Act) :
    (c.act a).gauge? id = ((c.turn? id a).map Status.selectable).or (c.gauge? id) := by
  obtain ⟨op, rfl, -, made⟩ | ⟨op, rfl, -, still⟩ | timed := c.act_kinds a
  · rw [turn?_call, gauge?, gauge_call made]
    rfl
  · rw [turn?_call, still]
    rfl
  · rw [gauge?, c.gauge_endedBy timed]
    cases ending : c.ending? a with
    | some e => exact gauge?_ended attached ending
    | none =>
      have unturned : c.turn? id a = none := by
        rw [turn?, applied, ending]
        rfl
      rw [unturned]
      rfl

/-- An instance that stays registered has the status that an act turns it to, or its own. -/
theorem status?_act (attached : c.mesh.Attached) {s : Status} (known : c.status? id = some s)
    {a : Act} (lasts : a ≠ .call (.unregister id)) :
    (c.act a).status? id = some ((c.turn? id a).getD s) := by
  obtain ⟨r, there, rfl⟩ := status?_eq_some_iff.mp known
  have step := act_continues attached there lasts
  rw [turn?]
  cases took : c.applied id a with
  | none =>
    rw [took] at step
    exact step.status.trans known
  | some k =>
    rw [took] at step
    rw [step.status, known, Option.map_some, Option.filter_some]
    by_cases same : r.status = k.status
    · simp [same]
    · simp [same]

/-! ## Any acts -/

theorem gauge?_acted (attached : c.mesh.Attached) (acts : List Act) :
    (c.acted acts).gauge? id =
      ((c.turnsOf id acts).getLast?.map Status.selectable).or (c.gauge? id) := by
  induction acts generalizing c with
  | nil => rfl
  | cons a rest ih =>
    have first : (c.turn? id a).toList.getLast? = c.turn? id a := by
      cases c.turn? id a <;> rfl
    rw [acted_cons, ih (attached_act attached a), gauge?_act attached, turnsOf,
      List.getLast?_append, first, Option.map_or, Option.or_assoc]

theorem status?_acted (attached : c.mesh.Attached) {s : Status} (known : c.status? id = some s)
    {acts : List Act} (lasts : ∀ a ∈ acts, a ≠ .call (.unregister id)) :
    (c.acted acts).status? id = some ((c.turnsOf id acts).getLastD s) := by
  induction acts generalizing c s with
  | nil => exact known
  | cons a rest ih =>
    obtain ⟨first, others⟩ := List.forall_mem_cons.mp lasts
    rw [acted_cons, ih (attached_act attached a) (status?_act attached known first) others, turnsOf]
    cases c.turn? id a with
    | none => rfl
    | some turned => rw [Option.toList_some, List.singleton_append, List.getLastD_cons]; rfl

/-! ## Registrations -/

theorem status?_unregister (attached : c.mesh.Attached) (id : String) :
    (c.unregister id).2.status? id = none := by
  rw [status?, Option.map_eq_none_iff]
  rcases c.unregister_eq id with ⟨e, refused⟩ | ⟨r, done, removed⟩
  · cases found : (c.unregister id).2.mesh.store.find? id with
    | none => rfl
    | some r =>
      rw [refused] at found
      obtain ⟨old, removed⟩ := unregister_of_contains attached (Option.isSome_of_eq_some found)
      cases (congrArg Prod.fst refused).symm.trans (congrArg Prod.fst removed)
  · have gone : (c.mesh.store.unregister id).2.contains id = false := by
      rw [Store.contains_unregister done, removing, bne_self_eq_false, Bool.false_and]
    rw [removed]
    exact Option.isNone_iff_eq_none.mp (Option.isSome_eq_false_iff.mp gone)

/-- An id becomes registered by a call that registers it. -/
theorem registered_of_call {op : Operation} {answer : Answer} (made : Call c op answer next)
    (free : c.mesh.store.contains id = false) (taken : next.mesh.store.contains id = true) :
    ∃ r, op = .register r ∧ r.id = id ∧ (c.register r).1 = .ok () := by
  have same : next.mesh.store.contains = c.mesh.store.contains → False := by
    intro same
    rw [same, free] at taken
    cases taken
  cases made with
  | register r valid new =>
    have done : (c.mesh.store.register { r with status := c.initialStatus }).1 = .ok () :=
      Store.register_ok valid new
    change (c.mesh.store.register _).2.contains id = true at taken
    rw [Store.contains_register done, adding, free, Bool.or_false] at taken
    exact ⟨r, rfl, eq_of_beq taken, by rw [c.register_of_free valid new]⟩
  | unregister done =>
    change (c.mesh.store.unregister _).2.contains id = true at taken
    rw [Store.contains_unregister done, removing, free, Bool.and_false] at taken
    cases taken
  | setMetadata changed metadata => exact (same (c.mesh.store.contains_modify changed _)).elim
  | report _ _ => exact (same (c.mesh.store.contains_modify _ _)).elim
  | configure health balancer => cases health <;> cases balancer <;> exact (same rfl).elim
  | _ => exact (same rfl).elim

/-- An id becomes registered by an act that registers it. -/
theorem registered_of_act (attached : c.mesh.Attached) (absent : c.status? id = none) {a : Act}
    {s : Status} (known : (c.act a).status? id = some s) :
    ∃ r, a = .call (.register r) ∧ r.id = id ∧ (c.register r).1 = .ok () := by
  have free : c.mesh.store.contains id = false := by
    rw [Store.contains, Option.map_eq_none_iff.mp absent]
    rfl
  have taken : (c.act a).mesh.store.contains id = true := by
    obtain ⟨r, there, -⟩ := status?_eq_some_iff.mp known
    exact Option.isSome_of_eq_some there
  obtain ⟨op, rfl, -, made⟩ | ⟨op, rfl, -, still⟩ | timed := c.act_kinds a
  · obtain ⟨r, rfl, same, accepted⟩ := registered_of_call made free taken
    exact ⟨r, rfl, same, accepted⟩
  · rw [still] at taken
    cases free.symm.trans taken
  · rw [contains_step attached timed] at taken
    cases free.symm.trans taken

/-- No check turns anyone of an id that nobody has. -/
theorem turnsOf_of_absent (attached : c.mesh.Attached) {acts : List Act}
    (lasts : ∀ a ∈ acts, a ≠ .call (.unregister id))
    (absent : (c.acted acts).status? id = none) : c.turnsOf id acts = [] := by
  induction acts generalizing c with
  | nil => rfl
  | cons a rest ih =>
    have before : c.status? id = none := by
      cases known : c.status? id with
      | none => rfl
      | some s => exact nomatch absent.symm.trans (status?_acted attached known lasts)
    rw [turnsOf, turn?_of_absent before,
      ih (attached_act attached a) (List.forall_mem_cons.mp lasts).2 absent]
    rfl

/-- The latest registration of an id among acts that happen to a new node, with what happens
before and since. -/
structure Tenure (config : Config) (id : String) (acts : List Act) where
  before : List Act
  record : Record
  since : List Act
  whole : acts = before ++ .call (.register record) :: since
  own : record.id = id
  accepted : (((fresh config).acted before).register record).1 = .ok ()
  lasts : ∀ a ∈ since, a ≠ .call (.unregister id)

namespace Tenure

variable {config : Config} {acts : List Act}

/-- The node at the beginning of a registration. -/
def begun (t : Tenure config id acts) : Coordinator :=
  (((fresh config).acted t.before).register t.record).2

/-- The statuses that checks turned the instances of the id to before the registration. -/
def earlier (t : Tenure config id acts) : List Status := (fresh config).turnsOf id t.before

/-- The statuses that checks turned the instance to since the registration. -/
def turns (t : Tenure config id acts) : List Status := t.begun.turnsOf id t.since

/-- One more act that does not end a registration. -/
def snoc (t : Tenure config id acts) {a : Act} (lasts : a ≠ .call (.unregister id)) :
    Tenure config id (acts ++ [a]) where
  before := t.before
  record := t.record
  since := t.since ++ [a]
  whole := (congrArg (· ++ [a]) t.whole).trans (List.append_assoc _ _ _)
  own := t.own
  accepted := t.accepted
  lasts := List.forall_mem_append.mpr ⟨t.lasts, List.forall_mem_singleton.mpr lasts⟩

end Tenure

variable {config : Config} {acts : List Act}

/-- Whoever is registered was registered at some time and has not been removed since. -/
theorem tenure_of_registered {s : Status}
    (known : ((fresh config).acted acts).status? id = some s) :
    Nonempty (Tenure config id acts) := by
  induction acts using List.reverseRecOn generalizing s with
  | nil =>
    obtain ⟨r, there, -⟩ := status?_eq_some_iff.mp known
    have empty : (fresh config).mesh.store.find? id = none := by
      rw [Store.find?]
      exact Std.ExtTreeMap.getElem?_empty
    cases empty.symm.trans there
  | append_singleton acts a ih =>
    have attached := attached_acted (attached_fresh config) acts
    rw [acted_append, acted_cons, acted_nil] at known
    cases before : ((fresh config).acted acts).status? id with
    | none =>
      obtain ⟨r, rfl, own, accepted⟩ := registered_of_act attached before known
      exact ⟨acts, r, [], rfl, own, accepted, by simp⟩
    | some previous =>
      obtain ⟨t⟩ := ih before
      refine ⟨t.snoc ?_⟩
      rintro rfl
      cases (status?_unregister attached id).symm.trans known

/-- An id that is registered was not registered before. -/
theorem Tenure.absent (t : Tenure config id acts) :
    ((fresh config).acted t.before).status? id = none := by
  have free : ((fresh config).acted t.before).mesh.store.contains t.record.id = false := by
    have accepted := t.accepted
    rcases ((fresh config).acted t.before).register_eq t.record with ⟨e, refused⟩ | ⟨-, new, -⟩
    · rw [refused] at accepted
      cases accepted
    · exact new
  rw [t.own, Store.contains, Option.isSome_eq_false_iff, Option.isNone_iff_eq_none] at free
  exact Option.map_eq_none_iff.mpr free

theorem Tenure.acted_eq (t : Tenure config id acts) :
    (fresh config).acted acts = t.begun.acted t.since := by
  have whole := congrArg (fresh config).acted t.whole
  rw [acted_append] at whole
  exact whole

/-- The status of a registered id is the initial one, or what checks since made of it. -/
theorem Tenure.status?_eq (t : Tenure config id acts) :
    ((fresh config).acted acts).status? id =
      some (t.turns.getLastD config.registry.initialStatus) := by
  have attached : t.begun.mesh.Attached :=
    attached_changes (.single (.call (Coordinator.register_call _ _)))
      (attached_acted (attached_fresh config) t.before)
  have known : t.begun.status? t.record.id = some config.registry.initialStatus := by
    rw [begun, status?_register t.accepted,
      initialStatus_changes (acted_changes (fresh config) t.before)]
    rfl
  rw [t.own] at known
  rw [t.acted_eq]
  exact status?_acted attached known t.lasts

/-- What is recorded of an id since its registration is what the checks since turned the instance
to last, or what was recorded before. -/
theorem Tenure.gauge?_eq (t : Tenure config id acts) :
    ((fresh config).acted acts).gauge? id =
      (t.turns.getLast?.map Status.selectable).or (((fresh config).acted t.before).gauge? id) := by
  have whole := congrArg (fresh config).acted t.whole
  rw [acted_append] at whole
  rw [whole, gauge?_acted (attached_acted (attached_fresh config) t.before), turnsOf, turn?_call]
  rfl

/-- What is recorded of an id is what any check turned an instance of it to last. -/
theorem gauge?_of_fresh (config : Config) (acts : List Act) (id : String) :
    ((fresh config).acted acts).gauge? id =
      ((fresh config).turnsOf id acts).getLast?.map Status.selectable := by
  have unrecorded : (fresh config).gauge? id = none := Std.ExtTreeMap.getElem?_empty
  rw [gauge?_acted (attached_fresh config), unrecorded, Option.or_none]

theorem shown_of_gauge? {last : Option Status}
    (recorded : c.gauge? id = last.map Status.selectable) :
    c.shown id = (last.map Status.level).toList := by
  rw [shown_eq, recorded, Option.map_map]
  rfl

/-- What the health metric shows of a registered id, whatever happened before. When a check has
turned the instance since its registration, the metric shows its status. Otherwise the instance
has the initial status, and the metric shows what it showed when the instance was registered: the
status that a check turned an earlier instance of the id to last, if there was one. So the metric
and the status can differ only for an id that was removed and registered anew. -/
theorem health_shown (config : Config) (acts : List Act) (id : String) (s : Status)
    (known : ((fresh config).acted acts).status? id = some s) :
    ∃ t : Tenure config id acts,
      (t.turns ≠ [] → ((fresh config).acted acts).shown id = [s.level]) ∧
      (t.turns = [] → s = config.registry.initialStatus ∧
        ((fresh config).acted acts).shown id = (t.earlier.getLast?.map Status.level).toList ∧
        ((fresh config).acted acts).shown id = ((fresh config).acted t.before).shown id) ∧
      ((∀ a ∈ t.before, a ≠ .call (.unregister id)) →
        ∀ n ∈ ((fresh config).acted acts).shown id, n = s.level) := by
  obtain ⟨t⟩ := tenure_of_registered known
  have status : s = t.turns.getLastD config.registry.initialStatus :=
    Option.some.inj (known.symm.trans t.status?_eq)
  have turned : t.turns ≠ [] → ((fresh config).acted acts).shown id = [s.level] := by
    intro moved
    obtain ⟨init, last, ends⟩ := (List.eq_nil_or_concat' t.turns).resolve_left moved
    have recorded : ((fresh config).acted acts).gauge? id =
        (Option.some last).map Status.selectable := by
      rw [t.gauge?_eq, ends, List.getLast?_concat]
      rfl
    rw [status, ends, List.getLastD_concat]
    exact shown_of_gauge? recorded
  have unturned : t.turns = [] → ((fresh config).acted acts).gauge? id =
      t.earlier.getLast?.map Status.selectable := by
    intro still
    rw [t.gauge?_eq, still, gauge?_of_fresh]
    rfl
  refine ⟨t, turned, fun still => ⟨?_, shown_of_gauge? (unturned still), ?_⟩, ?_⟩
  · rw [status, still, List.getLastD_nil]
  · rw [shown_of_gauge? (unturned still), shown_of_gauge? (gauge?_of_fresh config t.before id)]
    rfl
  · intro kept n shows
    have first : t.earlier = [] := turnsOf_of_absent (attached_fresh config) kept t.absent
    by_cases still : t.turns = []
    · rw [shown_of_gauge? (unturned still), first] at shows
      cases shows
    · rw [turned still] at shows
      exact List.mem_singleton.mp shows

/-- An instance that does not answer is checked, removed and registered anew. -/
def relisted : List Operation :=
  let r : Record := { serviceName := "svc", id := "a", endpoint := "127.0.0.1", port := 8080 }
  [.setTarget "a" fun t => { t with steady := some .down },
    .register r, .check "a", .unregister "a", .register r]

/-- The metric shows that the instance is not healthy, and it is. -/
theorem metric_outlives_registration :
    let c := (fresh impatient).run relisted
    c.status? "a" = some .healthy ∧ Status.level .healthy = 1 ∧ c.shown "a" = [0] := by
  decide +kernel

/-- The registration in force has seen no check, and the metric shows what it showed before it,
which takes a removal. -/
theorem health_shown_of_relisted :
    let acts := (fresh impatient).history (relisted.map .operation)
    ((fresh impatient).acted acts).status? "a" = some .healthy ∧
    ∃ t : Tenure impatient "a" acts, t.turns = [] ∧
      ((fresh impatient).acted t.before).shown "a" = [0] ∧
      ∃ a ∈ t.before, a = .call (.unregister "a") := by
  intro acts
  have known : ((fresh impatient).acted acts).status? "a" = some .healthy := by decide +kernel
  have shows : ((fresh impatient).acted acts).shown "a" = [0] := by decide +kernel
  obtain ⟨t, turned, unturned, kept⟩ := health_shown impatient acts "a" .healthy known
  have still : t.turns = [] := by
    by_contra moved
    have level := shows.symm.trans (turned moved)
    cases level
  refine ⟨known, t, still, (unturned still).2.2.symm.trans shows, ?_⟩
  by_contra never
  have lasts : ∀ a ∈ t.before, a ≠ .call (.unregister "a") :=
    fun a there same => never ⟨a, there, same⟩
  have level := kept lasts 0 (shows ▸ List.mem_singleton_self 0)
  cases level

end Coordinator

end ServiceMesh
