import ServiceMesh.Proofs.Coordinator.Act
import ServiceMesh.Proofs.Coordinator.Selection

/-!
# What a refused operation leaves behind

An operation that is refused has done nothing, with a few exceptions that each have a reason.
A selection looks at breakers before it can fail, and looking is what makes a breaker that
has waited long enough half open; it is counted when it fails. One that fails at the ring has
brought the group of its name up to the configuration in force. A check that timed out is an
observation, and a caller that waits lets others go on.
-/

namespace ServiceMesh

/-! ## Looks at breakers -/

/-- The second bank is the first one after looks at the breakers of some ids: one of them that
was open and has waited long enough may be half open. -/
def Bank.Glanced (b next : Bank) (now : Moment) (ids : List String) : Prop :=
  ∀ id, next.find? id = b.find? id ∨
    id ∈ ids ∧ ∃ x, b.find? id = some x ∧ x.state = .open ∧ x.hasWaited now = true ∧
      next.find? id = some { x with state := .halfOpen }

/-- A breaker that is looked at becomes half open, or stays as it is. -/
theorem Breaker.refresh_cases (b : Breaker) (now : Moment) :
    (b.state = .open ∧ b.hasWaited now = true ∧ b.refresh now = { b with state := .halfOpen }) ∨
    b.refresh now = b := by
  by_cases due : b.state = .open ∧ b.hasWaited now
  · exact .inl ⟨due.1, due.2, if_pos due⟩
  · exact .inr (if_neg due)

namespace Balancer

variable {b : Balancer} {name : String} {candidates : List Record} {request : Request}
  {draw : UInt64}

/-- The ids of the members of a name whose breakers a selection looks at. -/
def lookedAt (members : List Record) : List String :=
  (members.filter fun r => r.status.selectable).map Record.id

/-- The breakers of selectable members are looked at if breakers are in use, and no other
breaker is. -/
theorem find?_fit (useBreakers : Bool) (now : Moment) (members : List Record) (bank : Bank)
    (id : String) : (fit useBreakers now members bank).2.find? id =
      if useBreakers = true ∧ id ∈ lookedAt members then bank.view now id else bank.find? id := by
  induction members generalizing bank with
  | nil => simp [fit, lookedAt]
  | cons r rest ih =>
    unfold fit
    cases selectable : r.status.selectable with
    | false =>
      have same : lookedAt (r :: rest) = lookedAt rest := by simp [lookedAt, selectable]
      rw [same]
      exact ih bank
    | true =>
      cases useBreakers with
      | false => exact (ih bank).trans (by simp)
      | true =>
        have looked : lookedAt (r :: rest) = r.id :: lookedAt rest := by
          simp [lookedAt, selectable]
        have later := ih (bank.refresh r.id now)
        simp only [if_true, Bank.isOpen_eq, looked, List.mem_cons, true_and] at later ⊢
        rw [later, Bank.view_refresh]
        by_cases own : r.id = id
        · subst own
          rw [Bank.find?_refresh_self, ite_self, if_pos (Or.inl rfl)]
        · rw [Bank.find?_refresh_ne bank own]
          simp [Ne.symm own]

theorem glanced_fit (useBreakers : Bool) (now : Moment) (members : List Record) (bank : Bank) :
    bank.Glanced (fit useBreakers now members bank).2 now (lookedAt members) := by
  intro id
  rw [find?_fit]
  split
  case isTrue looked =>
    rw [Bank.view]
    cases found : bank.find? id with
    | none => exact .inl rfl
    | some x =>
      rw [Option.map_some]
      rcases x.refresh_cases now with ⟨isOpen, waited, half⟩ | same
      · exact .inr ⟨looked.2, x, rfl, isOpen, waited, congrArg some half⟩
      · exact .inl (congrArg some same)
  case isFalse => exact .inl rfl

/-! ## Selectors that find nothing -/

/-- A group in step with the configuration in force and with the members of its name. Its
selector has walked the ring of all of them, and its statistics are those of before. -/
structure Synced (b : Balancer) (name : String) (members : List String) (g : Group) : Prop where
  revision : g.revision = b.revision
  config : g.config = b.config
  selector : g.selector = .consistentHash b.config.hashReplicas
    (Ring.build members b.config.hashReplicas)
  statistics : g.statistics = b.statistics? name

/-- A choice that finds nothing has brought the group of the name up to date. -/
theorem choose_refused (h : b.Coherent) (nonempty : candidates ≠ [])
    (members : request.members ≠ []) {e : Failure}
    (refused : (b.choose name candidates request draw).1 = .error e) :
    e = .internal ("selector returned no instance for '" ++ name ++ "'") ∧
    ∃ g, b.Synced name request.members g ∧
      (b.choose name candidates request draw).2 = { b with groups := b.groups.insert name g } := by
  have hashing : b.config.algorithm = .consistentHash := by
    rcases @choose_answer b name candidates request draw h nonempty members with
      ⟨hashing, -⟩ | ⟨-, r, -, chosen⟩
    · exact hashing
    · exact nomatch refused.symm.trans chosen
  have someOffered : b.offered candidates ≠ [] := by simpa [offered] using nonempty
  obtain ⟨revision, config, suits⟩ := h.group name
  cases chosen : (b.consult name candidates request draw).1.bind (candidates[·]?) with
  | some r =>
    rw [choose_of_some chosen] at refused
    cases refused
  | none =>
    rw [choose_of_none chosen] at refused ⊢
    cases refused
    refine ⟨rfl, { b.group name with selector := (b.consult name candidates request draw).2 },
      ⟨revision, config, ?_, b.statistics_group name⟩, rfl⟩
    exact suits.ring_of_choose hashing someOffered members draw

end Balancer

/-! ## Probes that fail -/

namespace Coordinator

variable {c next : Coordinator}

/-- How a probe fails that comes to its end. One whose instance is gone is thrown away. One
that timed out is applied as a single outcome of down, without a response time. -/
inductive Fails (c : Coordinator) (e : Ending) : Failure → Coordinator → Prop
  | gone {failure : Failure} {next : Coordinator} (absent : c.mesh.store.find? e.id = none)
      (other : ∀ limit, failure ≠ .timeout limit) (lifecycle : next.lifecycle = c.lifecycle)
      (mesh : next.mesh = c.timeline.probed e.probe) : Fails c e failure next
  | late {r : Record} {next : Coordinator} (there : c.mesh.store.find? e.id = some r)
      (lifecycle : next.lifecycle = c.lifecycle)
      (mesh : next.mesh = (c.timeline.probed e.probe).checked r .down none e.config)
      (lands : c.Lands next r .down none e.config) : Fails c e (.timeout e.config.timeout) next

/-- Nothing takes time in the registry. -/
theorem get_ne_timeout (s : Store) (id : String) (limit : Duration) :
    s.get id ≠ .error (.timeout limit) := by
  unfold Store.get Failure.requireText
  split
  · exact nofun
  · cases s.find? id <;> exact nofun

/-- A probe that ends answers what comes of it. One that timed out answers so. -/
theorem answer_endProbe (attached : c.mesh.Attached) (e : Ending) :
    (c.mesh.store.find? e.id = none ∧ ∃ failure, c.mesh.store.get e.id = .error failure ∧
      (c.timeline.endProbe e.id e.probe e.config).1 = .error failure) ∨
    ∃ r status, c.mesh.store.find? e.id = some r ∧
      (c.timeline.endProbe e.id e.probe e.config).1 =
        if e.probe.timedOut then .error (.timeout e.config.timeout) else .ok status := by
  have store : (c.timeline.probed e.probe).store = c.mesh.store := probed_store c.timeline e.probe
  rw [Timeline.answer_endProbe]
  rcases (attached_probed attached e.probe).applyCheck_eq e.id (c.finding e).1 (c.finding e).2
      e.config with
    ⟨gone, failure, got, refused⟩ | ⟨r, there, -, applied⟩
  · rw [store] at gone got
    rw [Store.contains, Option.isSome_eq_false_iff, Option.isNone_iff_eq_none] at gone
    change ((c.timeline.probed e.probe).applyCheck e.id (c.timeline.finding e.id e.probe).1
      (c.timeline.finding e.id e.probe).2 e.config false) = _ at refused
    rw [refused]
    exact .inl ⟨gone, failure, got, rfl⟩
  · rw [store] at there
    change ((c.timeline.probed e.probe).applyCheck e.id (c.timeline.finding e.id e.probe).1
      (c.timeline.finding e.id e.probe).2 e.config false) = _ at applied
    rw [applied]
    exact .inr ⟨r, _, there, rfl⟩

/-- The slot of an id that is gone is not there, so nothing is lost with it. -/
theorem mesh_ended_of_absent (attached : c.mesh.Attached) {e : Ending}
    (absent : c.mesh.store.find? e.id = none) : (c.ended e).mesh = c.timeline.probed e.probe := by
  rcases mesh_ended_cases attached e with ⟨-, vacated⟩ | ⟨r, there, -⟩
  · have unregistered : c.mesh.store.contains e.id = false := by
      rw [Store.contains, absent, Option.isSome_none]
    have free : (c.timeline.probed e.probe).monitor.slots[e.id]? = none := by
      rw [probed_slots]
      exact attached.monitor.slots_eq_none unregistered
    rw [vacated, Mesh.vacated, Table.erase_of_absent free]
  · rw [absent] at there
    cases there

/-- A probe that ends and fails leaves what one of the two ways leaves. -/
theorem ended_fails (attached : c.mesh.Attached) {e : Ending} {failure : Failure}
    (refused : (c.timeline.endProbe e.id e.probe e.config).1 = .error failure) :
    c.Fails e failure (c.ended e) := by
  rcases answer_endProbe attached e with ⟨absent, other, got, answer⟩ | ⟨r, status, there, answer⟩
  · refine .gone absent ?_ rfl (mesh_ended_of_absent attached absent)
    rintro limit rfl
    rw [refused] at answer
    cases answer
    exact get_ne_timeout _ _ _ got
  · rw [refused] at answer
    split at answer
    case isFalse => cases answer
    case isTrue late =>
      cases answer
      have found : c.finding e = (.down, none) := if_pos late
      have lands := ended_lands attached there
      rw [found] at lands
      refine .late there rfl ?_ lands
      rcases mesh_ended_cases attached e with ⟨absent, -⟩ | ⟨r', seen, -, checked⟩
      · exact nomatch there.symm.trans absent
      · rw [checked, found, Option.some.inj (seen.symm.trans there)]

/-! ## Refused operations -/

/-- What an operation leaves behind that was refused. -/
inductive Refusal (c : Coordinator) : Operation → Failure → Coordinator → Prop
  /-- nothing has happened -/
  | unchanged (op : Operation) (e : Failure) : Refusal c op e c
  /-- the failed selection is counted -/
  | unknown (name : String) (client : Option String) (draw : UInt64) :
      Refusal c (.select name client draw) (.unknownName name)
        (c.setMesh { c.mesh with balancer := c.mesh.balancer.fail .serviceNotFound })
  /-- and breakers were looked at -/
  | unfit (name : String) (client : Option String) (draw : UInt64) {bank : Bank}
      (glanced : c.mesh.bank.Glanced bank c.timeline.moment
        (Balancer.lookedAt (c.mesh.store.members name))) :
      Refusal c (.select name client draw) (.noneHealthy name)
        (c.setMesh { c.mesh with bank, balancer := c.mesh.balancer.fail .noHealthyInstances })
  /-- breakers were looked at, and the group of the name is up to date -/
  | ringless (name : String) (client : Option String) (draw : UInt64) {bank : Bank} {g : Group}
      (glanced : c.mesh.bank.Glanced bank c.timeline.moment
        (Balancer.lookedAt (c.mesh.store.members name)))
      (synced : c.mesh.balancer.Synced name ((c.mesh.store.members name).map Record.id) g) :
      Refusal c (.select name client draw)
        (.internal ("selector returned no instance for '" ++ name ++ "'"))
        (c.setMesh { c.mesh with
          bank
          balancer := { c.mesh.balancer with groups := c.mesh.balancer.groups.insert name g } })
  /-- a probe of the instance was begun and failed when others had gone on for a while -/
  | check {id : String} {config : HealthConfig} {probe : Probe} {others : List Act} {e : Failure}
      {next : Coordinator} (begun : c.timeline.checkConfig id = .ok config)
      (scheduled : ∀ a ∈ others, a.scheduled = true)
      (fails : Fails ((c.act (.call (.setTarget id Target.called))).acted others)
        ⟨id, probe, config⟩ e next) : Refusal c (.check id) e next
  /-- others have gone on, the check that was waited for among them -/
  | join {handle : String} {others : List Act} {e : Failure}
      (scheduled : ∀ a ∈ others, a.scheduled = true) : Refusal c (.join handle) e (c.acted others)

/-- A selection that fails. -/
theorem select_refused (coherent : c.mesh.balancer.Coherent) {name : String}
    {client : Option String} {draw : UInt64} {e : Failure}
    (refused : (c.select name client draw).1 = .error e) :
    Refusal c (.select name client draw) e (c.select name client draw).2 := by
  have glanced := Balancer.glanced_fit c.mesh.balancer.config.breakerEnabled c.timeline.moment
    (c.mesh.store.members name) c.mesh.bank
  unfold select Mesh.select at refused ⊢
  simp only at refused ⊢
  cases written : Text.isBlank name with
  | true =>
    rw [Balancer.select_of_blank written] at refused ⊢
    exact .unchanged _ e
  | false =>
    by_cases empty : c.mesh.store.members name = []
    · rw [Balancer.select_of_no_members written empty] at refused ⊢
      cases refused
      exact .unknown name client draw
    · by_cases unfit : (Balancer.fit c.mesh.balancer.config.breakerEnabled c.timeline.moment
        (c.mesh.store.members name) c.mesh.bank).1 = []
      · rw [Balancer.select_of_none_fit written empty unfit] at refused ⊢
        cases refused
        exact .unfit name client draw glanced
      · rw [Balancer.select_of_fit written unfit] at refused ⊢
        have members : (Balancer.requestFor client (c.mesh.store.members name)).members ≠ [] := by
          simpa [Balancer.requestFor] using empty
        obtain ⟨rfl, g, synced, left⟩ := Balancer.choose_refused coherent unfit members refused
        simp only [left]
        exact .ringless name client draw glanced synced

theorem check_refused (attached : c.mesh.Attached) {id : String} {e : Failure}
    (refused : (c.timeline.check id).1 = .error e) :
    Refusal c (.check id) e { c with timeline := (c.timeline.check id).2 } := by
  have acts := Timeline.acted_checkActs c id
  unfold Timeline.checkActs at acts
  unfold Timeline.check at refused
  cases begun : c.timeline.checkConfig id with
  | error e' =>
    rw [begun] at acts
    rw [← acts]
    exact .unchanged _ e
  | ok config =>
    rw [begun] at acts refused
    simp only at acts refused
    let waiting := c.act (.call (.setTarget id Target.called))
    let ms := (c.timeline.beginProbe id config).1.ends - (c.timeline.beginProbe id config).2.now
    have waited : waiting.acted (waiting.timeline.advanceActs ms) =
        { waiting with timeline := waiting.timeline.advance ms } :=
      Timeline.acted_advanceActs waiting ms
    have since : (waiting.acted (waiting.timeline.advanceActs ms)).mesh.Attached :=
      attached_acted (attached_act attached _) _
    rw [← acts, acted_cons, acted_append]
    refine .check begun (scheduled_advanceActs waiting.timeline ms) (ended_fails since ?_)
    rw [waited]
    exact refused

theorem error_of_refused (answer : α → Answer) {result : Except Failure α} {e : Failure}
    (gives : ∀ a, answer a ≠ .refused e) (refused : answerOf answer result = .refused e) :
    result = .error e := by
  cases result with
  | error e' =>
    cases refused
    rfl
  | ok a => exact absurd refused (gives a)

/-- An operation that is refused leaves behind what one of the ways leaves. -/
theorem refusal_of_attached (attached : c.mesh.Attached) (coherent : c.mesh.balancer.Coherent)
    {op : Operation} {e : Failure} (refused : (c.perform op).1 = .refused e) :
    Refusal c op e (c.perform op).2 := by
  cases takes : op.waits with
  | false =>
    have made := c.perform_call takes
    cases op with
    | select name client draw =>
      apply select_refused coherent
      exact error_of_refused .record (fun _ => nofun) refused
    | _ =>
      rw [refused] at made
      generalize (c.perform _).2 = next at made ⊢
      cases made
      exact .unchanged _ e
  | true =>
    cases op with
    | check id =>
      apply check_refused attached
      exact error_of_refused .status (fun _ => nofun) refused
    | join handle =>
      have joined := Timeline.acted_joinActs c handle
      change Refusal c (.join handle) e { c with timeline := (c.timeline.join handle).2 }
      rw [← joined]
      exact .join (scheduled_joinActs c.timeline handle)
    | advance ms => cases refused
    | _ => cases takes

/-! Operations that are refused for a reason. -/

/-- A configuration with a section that cannot be used is refused as a whole. -/
theorem configure_of_invalid {health : Option HealthConfig} {balancer : Option BalancerConfig}
    (invalid : (∃ config, health = some config ∧ config.check ≠ .ok ()) ∨
      ∃ config, balancer = some config ∧ config.check ≠ .ok ()) :
    ∃ e, c.perform (.configure health balancer) = (.refused e, c) := by
  have refused : ∃ e, checkSections health balancer = .error e := by
    cases sections : checkSections health balancer with
    | error e => exact ⟨e, rfl⟩
    | ok _ =>
      obtain ⟨healthy, balanced⟩ := check_of_checkSections sections
      rcases invalid with ⟨config, given, wrong⟩ | ⟨config, given, wrong⟩
      · exact absurd (healthy config given) wrong
      · exact absurd (balanced config given) wrong
  obtain ⟨e, refused⟩ := refused
  refine ⟨e, ?_⟩
  change (answerOf _ (c.configure health balancer).1, (c.configure health balancer).2) = _
  rw [configure, refused]
  rfl

/-- A report on an instance that is not registered, or has no breaker, is refused. -/
theorem report_of_absent {id : String} (time : Duration) (success : Bool)
    (absent : c.mesh.store.contains id = false ∨ c.mesh.bank.find? id = none) :
    ∃ e, c.perform (.report id time success) = (.refused e, c) := by
  have performed : c.perform (.report id time success) =
      (answerOf (fun _ => .done) (c.report id time success).1, (c.report id time success).2) := rfl
  rcases c.report_eq id time success with ⟨e, refused⟩ | ⟨r, state, bank, got, counted, -⟩
  · exact ⟨e, by rw [performed, refused]; rfl⟩
  · rcases absent with unregistered | broken
    · rw [Store.contains, Store.find?_of_get got] at unregistered
      cases unregistered
    · obtain ⟨x, known, -⟩ := Failure.bind_eq_ok_iff.mp counted
      rw [Bank.find?_of_get known] at broken
      cases broken

/-! Spawned checks. -/

theorem Fails.of_same {e : Ending} {failure : Failure} {other : Coordinator}
    (h : c.Fails e failure next) (mesh : other.mesh = next.mesh)
    (lifecycle : other.lifecycle = next.lifecycle) : c.Fails e failure other := by
  cases h with
  | gone absent others same left =>
    exact .gone absent others (lifecycle.trans same) (mesh.trans left)
  | late there same left lands =>
    obtain ⟨record, tracker, history, notices⟩ := lands
    rw [← mesh] at record tracker history notices
    exact .late there (lifecycle.trans same) (mesh.trans left) ⟨record, tracker, history, notices⟩

theorem find?_setSpawned (t : Timeline) {serial : Nat} {k : SpawnedCheck} (phase : SpawnPhase)
    (found : (t.spawned.find? fun k => k.serial == serial) = some k) :
    ((t.setSpawned serial phase).spawned.find? fun k => k.serial == serial) =
      some { k with phase } := by
  have own : k.serial = serial := by simpa using List.find?_some found
  have serials : ((fun k : SpawnedCheck => k.serial == serial) ∘ fun k : SpawnedCheck =>
      if k.serial = serial then { k with phase } else k) = fun k => k.serial == serial := by
    funext k
    simp only [Function.comp_apply]
    split <;> rfl
  rw [Timeline.setSpawned, List.find?_map, serials, found, Option.map_some, if_pos own]

/-- The step of a spawned check in which it is refused changes nothing, or ends its probe. -/
theorem spawned_refused (attached : c.mesh.Attached) {serial : Nat} {k : SpawnedCheck}
    {e : Failure} (found : (c.timeline.spawned.find? fun k => k.serial == serial) = some k)
    (refused : ((c.occur (.check serial)).timeline.spawned.find? fun k => k.serial == serial) =
      some { k with phase := .finished (.error e) }) :
    (c.occur (.check serial)).mesh = c.mesh ∨
    ∃ probe config, k.phase = .probing probe config ∧
      c.Fails ⟨k.id, probe, config⟩ e (c.occur (.check serial)) := by
  have own : k.serial = serial := by simpa using List.find?_some found
  have step : (c.occur (.check serial)).timeline = c.timeline.stepSpawned k := by
    change c.timeline.stepCheck serial = _
    rw [Timeline.stepCheck, found]
  cases phase : k.phase with
  | fresh =>
    refine .inl ?_
    change (c.occur (.check serial)).timeline.mesh = _
    rw [step, Timeline.stepSpawned, phase]
    simp only
    cases c.timeline.checkConfig k.id <;> rfl
  | finished result =>
    refine .inl ?_
    change (c.occur (.check serial)).timeline.mesh = _
    rw [step, Timeline.stepSpawned, phase]
    rfl
  | probing probe config =>
    have spawned : (c.timeline.endProbe k.id probe config).2.spawned = c.timeline.spawned := by
      unfold Timeline.endProbe
      split <;> rfl
    have still : ((c.timeline.endProbe k.id probe config).2.spawned.find?
        fun k => k.serial == serial) = some k := by
      rw [spawned]
      exact found
    have finished := find?_setSpawned _ (.finished (c.timeline.endProbe k.id probe config).1) still
    rw [step, Timeline.stepSpawned, phase] at refused
    simp only [own] at refused
    rw [finished] at refused
    simp only [Option.some.injEq, SpawnedCheck.mk.injEq, SpawnPhase.finished.injEq] at refused
    have fails := ended_fails attached (e := ⟨k.id, probe, config⟩) refused.2.2.2
    exact .inr ⟨probe, config, rfl, fails.of_same (mesh_check found phase) rfl⟩

/-! ## Nothing fails halfway -/

/-- No operation fails halfway. In every state that a node comes to, an operation that is
refused leaves behind what it found, with the exceptions of a refusal: a selection has looked
at breakers of selectable members and has counted its failure, and one without an owner on
the ring has brought the group of its name up to date; a check that timed out was applied as
one outcome of down, and while a caller waited others went on. So does a spawned check when it
is refused. In particular two sections of a configuration take effect together or not at all,
a report on an instance that the registry or the breakers do not know changes nothing, and a
registration that is refused leaves alone what is attached to its id. -/
theorem nothing_fails_halfway (config : Config) (events : List Event) :
    let c := (fresh config).after events
    (∀ op e, (c.perform op).1 = .refused e → Refusal c op e (c.perform op).2) ∧
    (∀ serial k e, (c.timeline.spawned.find? fun k => k.serial == serial) = some k →
      ((c.occur (.check serial)).timeline.spawned.find? fun k => k.serial == serial) =
        some { k with phase := .finished (.error e) } →
      (c.occur (.check serial)).lifecycle = c.lifecycle ∧
      ((c.occur (.check serial)).mesh = c.mesh ∨
        ∃ probe config, k.phase = .probing probe config ∧
          c.Fails ⟨k.id, probe, config⟩ e (c.occur (.check serial)))) ∧
    (∀ health balancer,
      (∃ settings, health = some settings ∧ settings.check ≠ .ok ()) ∨
        (∃ settings, balancer = some settings ∧ settings.check ≠ .ok ()) →
      ∃ e, c.perform (.configure health balancer) = (.refused e, c)) ∧
    (∀ id time success, c.mesh.store.contains id = false ∨ c.mesh.bank.find? id = none →
      ∃ e, c.perform (.report id time success) = (.refused e, c)) ∧
    ∀ r e, (c.perform (.register r)).1 = .refused e → (c.perform (.register r)).2 = c := by
  intro c
  have attached : c.mesh.Attached := attached_after config events
  have refusal : ∀ op e, (c.perform op).1 = .refused e → Refusal c op e (c.perform op).2 :=
    fun _ _ => refusal_of_attached attached (coherent_after config events)
  refine ⟨refusal, ?_, fun _ _ => configure_of_invalid, fun _ => report_of_absent, ?_⟩
  · exact fun _ _ _ found refused => ⟨rfl, spawned_refused attached found refused⟩
  · intro r e refused
    have left := refusal (.register r) e refused
    generalize (c.perform (.register r)).2 = next at left ⊢
    cases left
    rfl

end Coordinator

end ServiceMesh
