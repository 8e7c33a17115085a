import ServiceMesh.Proofs.Coordinator.Act
import ServiceMesh.Proofs.Coordinator.Tasks

/-!
# One loop for each watched instance

A crew is a node with all tasks that it ever began. Its tasks are begun and stopped by the
acts of the node, and by what the acts leave out: a task that was stopped may still bring a
probe to its end, and a removal consists of two halves with anything in between. Whatever
happens, each watched instance has one task that goes on while the node is started, and no
other task does; and what a task finds that was stopped is thrown away.
-/

namespace ServiceMesh

/-! ## Crews -/

/-- A node with the tasks that it has begun, and with the configuration that the latest
accepted request to watch an id gave. -/
structure Crew where
  node : Coordinator
  tasks : List Task := []
  given : Table HealthConfig := ∅

/-- What happens to a crew. -/
inductive Incident where
  | act (a : Act)
  /-- the task with a number brings a probe to its end, whatever it found -/
  | ends (number : Nat) (outcome : Outcome) (time : Option Duration)
  /-- the first half of a removal: the registry loses the record -/
  | leave (id : String)
  /-- the other half of a removal: everything attached to the record goes -/
  | clear (id : String) (r : Record)

namespace Crew

/-- A node to which nothing has happened yet. -/
def fresh (config : Config) : Crew := { node := .fresh config }

def monitor (w : Crew) : Monitor := w.node.mesh.monitor

/-- The monitor of the node with the tasks. -/
def staff (w : Crew) : Staff := ⟨w.monitor, w.tasks⟩

/-- The configuration of a request to watch an instance. -/
def settingsFor (w : Crew) (config : Option HealthConfig) : HealthConfig :=
  config.getD w.monitor.defaults

/-- The tasks after an act. -/
def tasksAfter (w : Crew) : Act → List Task
  | .call .start => if w.node.lifecycle = .started then w.tasks else w.staff.run.tasks
  | .call .stop => if w.node.lifecycle = .started then w.staff.halt.tasks else w.tasks
  | .call (.watch id config) =>
    match w.node.watch id config with
    | .ok _ => (w.staff.watch id (w.settingsFor config)).tasks
    | .error _ => w.tasks
  | .call (.unwatch id) =>
    match w.node.unwatch id with
    | .ok _ => (w.staff.drop id).tasks
    | .error _ => w.tasks
  | .call (.unregister id) =>
    match (w.node.unregister id).1 with
    | .ok _ => (w.staff.drop id).tasks
    | .error _ => w.tasks
  | .loop id => if w.node.timeline.quits id then (w.staff.quit id).tasks else w.tasks
  | _ => w.tasks

/-- The configurations given so far after an act. -/
def givenAfter (w : Crew) : Act → Table HealthConfig
  | .call (.watch id config) =>
    match w.node.watch id config with
    | .ok _ => w.given.insert id (w.settingsFor config)
    | .error _ => w.given
  | _ => w.given

/-- Let an act of the node happen. -/
def act (w : Crew) (a : Act) : Crew :=
  { node := w.node.act a, tasks := w.tasksAfter a, given := w.givenAfter a }

/-- The node after a task brought a probe to its end. The task reads its own flag. -/
def applied (w : Crew) (k : Task) (outcome : Outcome) (time : Option Duration) : Coordinator :=
  w.node.setMesh (w.node.mesh.applyCheck k.id outcome time k.config k.cancelled).2

/-- A task that finds its instance gone takes the watch with it, if its loop is still that of
the watch, and ends. -/
def resign (w : Crew) (k : Task) : Crew :=
  if (w.monitor.loop? k.id).map Loop.serial = some k.serial then
    { w with
      node := w.node.setMonitor (w.staff.quit k.id).monitor
      tasks := (w.staff.quit k.id).tasks }
  else w

/-- Let a task bring a probe to its end. -/
def conclude (w : Crew) (k : Task) (outcome : Outcome) (time : Option Duration) : Crew :=
  if k.finished then w
  else
    match (w.node.mesh.applyCheck k.id outcome time k.config k.cancelled).1 with
    | .ok _ => { w with node := w.applied k outcome time }
    | .error _ => { w with node := w.applied k outcome time }.resign k

/-- Let the task with a number bring a probe to its end. -/
def ends (w : Crew) (number : Nat) (outcome : Outcome) (time : Option Duration) : Crew :=
  match w.tasks.find? fun k => k.serial == number with
  | none => w
  | some k => w.conclude k outcome time

/-- The first half of a removal. -/
def leave (w : Crew) (id : String) : Crew :=
  { w with
    node := w.node.setMesh { w.node.mesh with store := (w.node.mesh.store.unregister id).2 } }

/-- The other half of a removal. It is also the rest of one whose record is gone. -/
def clear (w : Crew) (id : String) (r : Record) : Crew :=
  { w with node := w.node.setMesh (w.node.removed id r), tasks := (w.staff.drop id).tasks }

/-- Let something happen. -/
def meet (w : Crew) : Incident → Crew
  | .act a => w.act a
  | .ends number outcome time => w.ends number outcome time
  | .leave id => w.leave id
  | .clear id r => w.clear id r

/-- The crew after incidents that happen one after the other. -/
def met (w : Crew) (incidents : List Incident) : Crew := incidents.foldl meet w

@[simp] theorem met_nil (w : Crew) : w.met [] = w := rfl

@[simp] theorem met_cons (w : Crew) (i : Incident) (rest : List Incident) :
    w.met (i :: rest) = (w.meet i).met rest := rfl

theorem met_append (w : Crew) (first second : List Incident) :
    w.met (first ++ second) = (w.met first).met second := List.foldl_append

/-- The tasks of an id that go on. -/
def onDuty (w : Crew) (id : String) : List Task := w.tasks.filter fun k => k.live && k.id == id

/-- Acts alone happen to a crew as they happen to its node. -/
theorem node_met_acts (w : Crew) (acts : List Act) :
    (w.met (acts.map .act)).node = w.node.acted acts := by
  induction acts generalizing w with
  | nil => rfl
  | cons a rest ih =>
    rw [List.map_cons, met_cons, ih]
    rfl

/-- Every history of a node is one of its crew. -/
theorem node_met_history (w : Crew) (events : List Event) :
    (w.met ((w.node.history events).map .act)).node = w.node.after events := by
  rw [node_met_acts, Coordinator.acted_history]

/-- The two halves of a removal make up the removal. -/
theorem clear_leave (w : Crew) {id : String} {r : Record}
    (removed : (w.node.unregister id).1 = .ok r) :
    (w.leave id).clear id r = w.act (.call (.unregister id)) := by
  rcases w.node.unregister_eq id with ⟨e, refused⟩ | ⟨r', done, taken⟩
  · rw [refused] at removed
    cases removed
  · rw [taken] at removed
    cases removed
    have store := Store.unregister_unregister done
    have node : (w.act (.call (.unregister id))).node = w.node.setMesh (w.node.removed id r) := by
      change (w.node.perform (.unregister id)).2 = _
      exact congrArg Prod.snd taken
    have tasks : (w.act (.call (.unregister id))).tasks = (w.staff.drop id).tasks := by
      change w.tasksAfter (.call (.unregister id)) = _
      rw [tasksAfter, taken]
    have halves : (w.leave id).node.removed id r = w.node.removed id r := by
      unfold Coordinator.removed
      change Coordinator.announce { w.node.mesh with
        store := ((w.node.mesh.store.unregister id).2.unregister id).2
        monitor := _
        bank := _
        balancer := _ } _ = _
      rw [store]
      rfl
    unfold clear
    rw [halves]
    exact (Crew.mk.injEq ..).mpr ⟨node.symm, tasks.symm, rfl⟩

/-! ## What an incident does to the loops -/

variable {w next : Crew}

/-- A crew has a staff, up to the phases of its loops. -/
structure Has (next : Crew) (s : Staff) : Prop where
  level : s.monitor.Level next.monitor
  tasks : next.tasks = s.tasks

/-- What an incident does to the loops and their tasks. -/
inductive Turn (w next : Crew) : Prop
  | stay (staff : next.Has w.staff) (given : next.given = w.given)
      (lifecycle : next.node.lifecycle = w.node.lifecycle)
  | run (staff : next.Has w.staff.run) (given : next.given = w.given)
      (lifecycle : next.node.lifecycle = .started)
  | halt (staff : next.Has w.staff.halt) (given : next.given = w.given)
      (lifecycle : next.node.lifecycle = .stopped)
  | watch (id : String) (config : HealthConfig) (staff : next.Has (w.staff.watch id config))
      (given : next.given = w.given.insert id config)
      (lifecycle : next.node.lifecycle = w.node.lifecycle)
  | drop (id : String) (staff : next.Has (w.staff.drop id)) (given : next.given = w.given)
      (lifecycle : next.node.lifecycle = w.node.lifecycle)
  | quit (id : String) (staff : next.Has (w.staff.quit id)) (given : next.given = w.given)
      (lifecycle : next.node.lifecycle = w.node.lifecycle)

theorem has_self (w : Crew) : w.Has w.staff := ⟨.refl _, rfl⟩

theorem Turn.refl (w : Crew) : w.Turn w := .stay w.has_self rfl rfl

theorem Turn.of_same (node : next.node = w.node) (tasks : next.tasks = w.tasks)
    (given : next.given = w.given) : w.Turn next := by
  refine .stay ⟨?_, tasks⟩ given (congrArg Coordinator.lifecycle node)
  rw [monitor, node]
  exact .refl _

/-! Calls. -/

/-- A call is no matter of loops, but for the five that manage them. -/
def manages : Operation → Bool
  | .start | .stop | .watch .. | .unwatch _ | .unregister _ => true
  | _ => false

theorem level_call {c next : Coordinator} {op : Operation} {answer : Answer}
    (made : Call c op answer next) (other : manages op = false) :
    c.mesh.monitor.Level next.mesh.monitor ∧ next.lifecycle = c.lifecycle := by
  cases made with
  | unregister | watch | unwatch | start | stop => cases other
  | spawn => exact ⟨.of_same rfl rfl (Nat.le_succ _), rfl⟩
  | configure health balancer =>
    cases health <;> cases balancer <;> exact ⟨.of_same rfl rfl (Nat.le_refl _), rfl⟩
  | refused | register | setMetadata | select | report | readBreaker | resetBreaker | startAgain
  | stopAgain | listenHealth | listenServices | setTarget | wait => exact ⟨.refl _, rfl⟩

theorem turn_call (w : Crew) {op : Operation} (other : manages op = false) :
    w.Turn (w.act (.call op)) := by
  have tasks : w.tasksAfter (.call op) = w.tasks := by
    cases op <;> first | rfl | cases other
  have given : w.givenAfter (.call op) = w.given := by
    cases op <;> first | rfl | cases other
  cases takes : op.waits with
  | false =>
    obtain ⟨level, lifecycle⟩ := level_call (w.node.perform_call takes) other
    rw [← w.node.act_call takes] at level lifecycle
    exact .stay ⟨level, tasks⟩ given lifecycle
  | true =>
    have still : w.node.act (.call op) = w.node := by
      rw [Coordinator.act, takes]
      rfl
    exact .of_same still tasks given

private theorem turn_start (w : Crew) : w.Turn (w.act (.call .start)) := by
  have node : (w.act (.call .start)).node = w.node.start := rfl
  have tasks : (w.act (.call .start)).tasks =
      if w.node.lifecycle = .started then w.tasks else w.staff.run.tasks := rfl
  by_cases started : w.node.lifecycle = .started
  · rw [Coordinator.start, if_pos started] at node
    rw [if_pos started] at tasks
    exact .of_same node tasks rfl
  · rw [Coordinator.start, if_neg started] at node
    rw [if_neg started] at tasks
    refine .run ⟨?_, tasks⟩ rfl (congrArg Coordinator.lifecycle node)
    rw [monitor, node, Staff.monitor_run]
    exact .refl _

private theorem turn_stop (w : Crew) : w.Turn (w.act (.call .stop)) := by
  have node : (w.act (.call .stop)).node = w.node.stop := rfl
  have tasks : (w.act (.call .stop)).tasks =
      if w.node.lifecycle = .started then w.staff.halt.tasks else w.tasks := rfl
  by_cases started : w.node.lifecycle = .started
  · rw [Coordinator.stop, if_pos started] at node
    rw [if_pos started] at tasks
    refine .halt ⟨?_, tasks⟩ rfl (congrArg Coordinator.lifecycle node)
    rw [monitor, node, Staff.monitor_halt]
    exact .refl _
  · rw [Coordinator.stop, if_neg started] at node
    rw [if_neg started] at tasks
    exact .of_same node tasks rfl

/-- A request to watch an instance that is accepted. -/
theorem node_watched (w : Crew) {id : String} {config : Option HealthConfig} {c : Coordinator}
    (accepted : w.node.watch id config = .ok c) :
    (w.act (.call (.watch id config))).monitor = w.monitor.rewatched id (w.settingsFor config) ∧
    (w.act (.call (.watch id config))).node.lifecycle = w.node.lifecycle := by
  have node : (w.act (.call (.watch id config))).node =
      (w.node.settle (w.node.watch id config)).2 := rfl
  rw [accepted] at node
  obtain ⟨m, watched, rest⟩ := Failure.bind_eq_ok_iff.mp accepted
  cases rest
  rw [monitor, node]
  exact ⟨(Monitor.watch_eq watched).2, rfl⟩

private theorem turn_watch (w : Crew) (id : String) (config : Option HealthConfig) :
    w.Turn (w.act (.call (.watch id config))) := by
  have tasks : (w.act (.call (.watch id config))).tasks = w.tasksAfter (.call (.watch id config)) :=
    rfl
  have given : (w.act (.call (.watch id config))).given = w.givenAfter (.call (.watch id config)) :=
    rfl
  rw [tasksAfter] at tasks
  rw [givenAfter] at given
  cases accepted : w.node.watch id config with
  | error e =>
    have node : (w.act (.call (.watch id config))).node =
        (w.node.settle (w.node.watch id config)).2 := rfl
    rw [accepted] at node tasks given
    exact .of_same node tasks given
  | ok c =>
    rw [accepted] at tasks given
    obtain ⟨watched, lifecycle⟩ := w.node_watched accepted
    refine .watch id _ ⟨?_, tasks⟩ given lifecycle
    rw [watched, Staff.monitor_watch]
    exact .refl _

/-- A request to watch an instance no longer that is accepted. -/
theorem node_unwatched (w : Crew) {id : String} {c : Coordinator}
    (accepted : w.node.unwatch id = .ok c) :
    (w.act (.call (.unwatch id))).monitor = w.monitor.drop id ∧
    (w.act (.call (.unwatch id))).node.lifecycle = w.node.lifecycle := by
  have node : (w.act (.call (.unwatch id))).node = (w.node.settle (w.node.unwatch id)).2 := rfl
  rw [accepted] at node
  rw [monitor, node, Coordinator.unwatch_eq accepted]
  exact ⟨rfl, rfl⟩

private theorem turn_unwatch (w : Crew) (id : String) : w.Turn (w.act (.call (.unwatch id))) := by
  have tasks : (w.act (.call (.unwatch id))).tasks = w.tasksAfter (.call (.unwatch id)) := rfl
  rw [tasksAfter] at tasks
  cases accepted : w.node.unwatch id with
  | error e =>
    have node : (w.act (.call (.unwatch id))).node = (w.node.settle (w.node.unwatch id)).2 := rfl
    rw [accepted] at node tasks
    exact .of_same node tasks rfl
  | ok c =>
    rw [accepted] at tasks
    obtain ⟨dropped, lifecycle⟩ := w.node_unwatched accepted
    refine .drop id ⟨?_, tasks⟩ rfl lifecycle
    rw [dropped, Staff.monitor_drop]
    exact .refl _

/-- What a removal does to the monitor. -/
theorem level_removed (c : Coordinator) (id : String) (r : Record) :
    (c.mesh.monitor.drop id).Level (c.setMesh (c.removed id r)).mesh.monitor :=
  .of_same rfl rfl (Nat.le_refl _)

/-- A removal that is carried out. -/
theorem node_unregistered (w : Crew) {id : String} {r : Record}
    (accepted : (w.node.unregister id).1 = .ok r) :
    (w.monitor.drop id).Level (w.act (.call (.unregister id))).monitor ∧
    (w.act (.call (.unregister id))).node.lifecycle = w.node.lifecycle := by
  have node : (w.act (.call (.unregister id))).node = (w.node.unregister id).2 := rfl
  rcases w.node.unregister_eq id with ⟨e, refused⟩ | ⟨r', -, removed⟩
  · rw [refused] at accepted
    cases accepted
  · have node : (w.act (.call (.unregister id))).node = w.node.setMesh (w.node.removed id r') :=
      node.trans (congrArg Prod.snd removed)
    have level := level_removed w.node id r'
    rw [← node] at level
    exact ⟨level, (congrArg Coordinator.lifecycle node).trans rfl⟩

private theorem turn_unregister (w : Crew) (id : String) :
    w.Turn (w.act (.call (.unregister id))) := by
  have tasks : (w.act (.call (.unregister id))).tasks = w.tasksAfter (.call (.unregister id)) := rfl
  rw [tasksAfter] at tasks
  rcases w.node.unregister_eq id with ⟨e, refused⟩ | ⟨r, -, removed⟩
  · have node : (w.act (.call (.unregister id))).node = (w.node.unregister id).2 := rfl
    rw [refused] at node tasks
    exact .of_same node tasks rfl
  · obtain ⟨level, lifecycle⟩ := w.node_unregistered (congrArg Prod.fst removed)
    rw [removed] at tasks
    refine .drop id ⟨?_, tasks⟩ rfl lifecycle
    rw [Staff.monitor_drop]
    exact level

/-! Everything else. -/

private theorem turn_loop (w : Crew) (id : String) : w.Turn (w.act (.loop id)) := by
  have tasks : (w.act (.loop id)).tasks =
      if w.node.timeline.quits id then (w.staff.quit id).tasks else w.tasks := rfl
  cases quits : w.node.timeline.quits id with
  | false =>
    rw [quits] at tasks
    exact .stay ⟨Timeline.level_stepLoop quits, tasks⟩ rfl rfl
  | true =>
    rw [quits] at tasks
    obtain ⟨⟨l, live⟩, level⟩ := Timeline.quit_stepLoop quits
    refine .quit id ⟨?_, tasks⟩ rfl rfl
    have left : (w.staff.quit id).monitor =
        { w.monitor with watches := w.monitor.watches.erase id } := by
      change w.staff.monitor.loop? id = some l at live
      rw [Staff.quit, live]
      rfl
    rw [left]
    exact level

theorem turn_act (w : Crew) (a : Act) : w.Turn (w.act a) := by
  cases a with
  | call op =>
    cases op with
    | start => exact w.turn_start
    | stop => exact w.turn_stop
    | watch id config => exact w.turn_watch id config
    | unwatch id => exact w.turn_unwatch id
    | unregister id => exact w.turn_unregister id
    | _ => exact w.turn_call rfl
  | clock now => exact .stay ⟨.refl _, rfl⟩ rfl rfl
  | loop id => exact w.turn_loop id
  | spawned k => exact .stay ⟨.stepSpawned w.node.timeline k, rfl⟩ rfl rfl
  | finish id probe config =>
    exact .stay ⟨.endProbe w.node.timeline id probe config, rfl⟩ rfl rfl

theorem has_applied (w : Crew) (k : Task) (outcome : Outcome) (time : Option Duration) :
    ({ w with node := w.applied k outcome time } : Crew).Has w.staff :=
  ⟨.applyCheck w.node.mesh k.id outcome time k.config k.cancelled, rfl⟩

theorem Has.quit {s : Staff} (h : next.Has s) (id : String) :
    ({ next with
      node := next.node.setMonitor (next.staff.quit id).monitor
      tasks := (next.staff.quit id).tasks } : Crew).Has (s.quit id) := by
  have numbers : (next.staff.monitor.loop? id).map Loop.serial =
      (s.monitor.loop? id).map Loop.serial := by
    rw [Monitor.loop?_map_serial, Monitor.loop?_map_serial]
    exact congrArg (Option.map Prod.snd) (h.level.posts id)
  rw [Staff.quit_eq next.staff, Staff.quit_eq s, numbers]
  cases (s.monitor.loop? id).map Loop.serial with
  | none => exact ⟨h.level, h.tasks⟩
  | some number => exact ⟨h.level.eraseWatch id, congrArg (List.map (Task.finish number)) h.tasks⟩

theorem turn_ends (w : Crew) (number : Nat) (outcome : Outcome) (time : Option Duration) :
    w.Turn (w.ends number outcome time) := by
  unfold ends
  split
  case h_1 => exact .refl w
  case h_2 k _ =>
    have applied := w.has_applied k outcome time
    unfold conclude
    split
    case isTrue => exact .refl w
    case isFalse =>
      split
      case h_1 => exact .stay applied rfl rfl
      case h_2 =>
        unfold resign
        split
        case isTrue => exact .quit k.id (applied.quit k.id) rfl rfl
        case isFalse => exact .stay applied rfl rfl

theorem turn_meet (w : Crew) (i : Incident) : w.Turn (w.meet i) := by
  cases i with
  | act a => exact w.turn_act a
  | ends number outcome time => exact w.turn_ends number outcome time
  | leave id => exact .stay ⟨.refl _, rfl⟩ rfl rfl
  | clear id r =>
    refine .drop id ⟨?_, rfl⟩ rfl rfl
    rw [Staff.monitor_drop]
    exact level_removed w.node id r

/-! ## Loops and tasks keep together -/

/-- Each loop has its task, a node that is started has a loop for each id that it watches and
another one has none, and an id is watched with the configuration that was given last. -/
structure Sound (w : Crew) : Prop where
  staffed : w.staff.Staffed
  manned : w.monitor.Manned
  running : w.monitor.running = true ↔ w.node.lifecycle = .started
  recorded : ∀ id config, w.monitor.settings? id = some config → w.given[id]? = some config

theorem sound_fresh (config : Config) : (fresh config).Sound where
  staffed := .empty _ fun _ => rfl
  manned _ := rfl
  running := ⟨nofun, nofun⟩
  recorded _ _ watched := nomatch watched

/-- A crew is sound up to the phases of its loops. -/
theorem Has.sound {s : Staff} (h : next.Has s) (staffed : s.Staffed) (manned : s.monitor.Manned)
    (running : s.monitor.running = true ↔ next.node.lifecycle = .started)
    (recorded : ∀ id config, s.monitor.settings? id = some config →
      next.given[id]? = some config) : next.Sound where
  staffed := by
    have level := staffed.level h.level
    rwa [← h.tasks] at level
  manned := manned.level h.level
  running := by rw [h.level.running, running]
  recorded id config watched := recorded id config ((h.level.settings id).symm.trans watched)

theorem Sound.turn (h : w.Sound) (turn : w.Turn next) : next.Sound := by
  cases turn with
  | stay staff given lifecycle =>
    refine staff.sound h.staffed h.manned ?_ ?_
    · rw [lifecycle]
      exact h.running
    · rw [given]
      exact h.recorded
  | run staff given started =>
    refine staff.sound h.staffed.run ?_ ?_ ?_
    · rw [Staff.monitor_run]
      exact w.monitor.manned_run
    · rw [Staff.monitor_run, Monitor.running_run, started]
      exact ⟨fun _ => rfl, fun _ => rfl⟩
    · intro id config
      rw [Staff.monitor_run, Monitor.settings?_run, given]
      exact h.recorded id config
  | halt staff given stopped =>
    refine staff.sound h.staffed.halt ?_ ?_ ?_
    · rw [Staff.monitor_halt]
      exact w.monitor.manned_halt
    · rw [Staff.monitor_halt, Monitor.running_halt, stopped]
      exact ⟨nofun, nofun⟩
    · intro id config
      rw [Staff.monitor_halt, Monitor.settings?_halt, given]
      exact h.recorded id config
  | watch id config staff given lifecycle =>
    refine staff.sound (h.staffed.watch id config) ?_ ?_ ?_
    · rw [Staff.monitor_watch]
      exact h.manned.rewatched id config
    · rw [Staff.monitor_watch, Monitor.running_rewatched, lifecycle]
      exact h.running
    · intro other settings
      rw [Staff.monitor_watch, given]
      by_cases same : id = other
      · subst same
        rw [Monitor.settings?_rewatched_self, Table.getElem?_insert_self]
        exact fun watched => watched
      · rw [Monitor.settings?_rewatched_ne _ same, Table.getElem?_insert_ne _ same]
        exact h.recorded other settings
  | drop id staff given lifecycle =>
    refine staff.sound (h.staffed.drop id) ?_ ?_ ?_
    · rw [Staff.monitor_drop]
      exact h.manned.drop id
    · rw [Staff.monitor_drop, lifecycle, ← h.running]
      exact iff_of_eq (congrArg (· = true) (w.monitor.running_endLoop id))
    · intro other settings
      rw [Staff.monitor_drop, given]
      by_cases same : id = other
      · subst same
        rw [Monitor.settings?_drop_self]
        exact nofun
      · rw [Monitor.settings?_drop_ne _ same]
        exact h.recorded other settings
  | quit id staff given lifecycle =>
    have staffed := h.staffed.quit id
    unfold Staff.quit at staff staffed
    split at staff
    case h_1 gone =>
      refine staff.sound h.staffed h.manned ?_ ?_
      · rw [lifecycle]
        exact h.running
      · rw [given]
        exact h.recorded
    case h_2 l live =>
      rw [live] at staffed
      refine staff.sound staffed (h.manned.erase rfl rfl) ?_ ?_
      · rw [lifecycle]
        exact h.running
      · intro other settings watched
        rw [given]
        by_cases same : id = other
        · subst same
          rw [Monitor.settings?_erase_self rfl] at watched
          cases watched
        · exact h.recorded other settings ((Monitor.settings?_erase_ne same rfl).symm.trans watched)

theorem Sound.met (h : w.Sound) (incidents : List Incident) : (w.met incidents).Sound := by
  induction incidents generalizing w with
  | nil => exact h
  | cons i rest ih => exact ih (h.turn (w.turn_meet i))

/-! Tasks age. -/

theorem Has.ages {s : Staff} (h : next.Has s) (aged : w.staff.Ages s) : w.staff.Ages next.staff :=
  aged.trans (.of_same h.level.begun h.tasks)

theorem Turn.ages (turn : w.Turn next) : w.staff.Ages next.staff := by
  cases turn with
  | stay staff => exact staff.ages (.refl _)
  | run staff => exact staff.ages (.run _)
  | halt staff => exact staff.ages (.halt _)
  | watch id config staff => exact staff.ages (.watch _ id config)
  | drop id staff => exact staff.ages (.drop _ id)
  | quit id staff => exact staff.ages (.quit _ id)

theorem ages_met (w : Crew) (incidents : List Incident) :
    w.staff.Ages (w.met incidents).staff := by
  induction incidents generalizing w with
  | nil => exact .refl _
  | cons i rest ih => exact (w.turn_meet i).ages.trans (ih _)

/-! ## The tasks that go on -/

theorem mem_onDuty {id : String} {k : Task} :
    k ∈ w.onDuty id ↔ k ∈ w.tasks ∧ k.live = true ∧ k.id = id := by
  rw [onDuty, List.mem_filter, Bool.and_eq_true, beq_iff_eq]

/-- The task that goes on for an id is that of its loop, and there is no other. -/
theorem Sound.onDuty_eq (h : w.Sound) (id : String) :
    w.onDuty id = (w.monitor.post? id).toList.map fun p =>
      { serial := p.2, id, config := p.1 } := by
  have nodup : (w.onDuty id).Nodup := by
    have numbers : w.tasks.Nodup := by
      refine h.staffed.ascend.imp ?_
      rintro j k before rfl
      exact Nat.lt_irrefl _ before
    exact numbers.filter _
  have members : ∀ k, k ∈ w.onDuty id ↔ ∃ p, w.monitor.post? id = some p ∧
      k = { serial := p.2, id, config := p.1 } := by
    intro k
    rw [mem_onDuty]
    constructor
    · rintro ⟨there, live, rfl⟩
      exact ⟨_, h.staffed.post_of_live there live, Task.eq_of_live live⟩
    · rintro ⟨p, posted, rfl⟩
      exact ⟨(h.staffed.posts id p.1 p.2).mp posted, rfl, rfl⟩
  cases posted : w.monitor.post? id with
  | none =>
    refine List.eq_nil_iff_forall_not_mem.mpr fun k there => ?_
    obtain ⟨p, other, -⟩ := (members k).mp there
    exact nomatch posted.symm.trans other
  | some p =>
    refine List.perm_singleton.mp ((List.perm_ext_iff_of_nodup nodup (List.nodup_singleton _)).mpr
      fun k => ?_)
    rw [members, List.mem_singleton, posted]
    constructor
    · rintro ⟨q, same, rfl⟩
      cases same
      rfl
    · exact fun same => ⟨p, rfl, same⟩

theorem Sound.onDuty_length (h : w.Sound) (id : String) :
    (w.onDuty id).length = (w.monitor.post? id).isSome.toNat := by
  rw [h.onDuty_eq]
  cases w.monitor.post? id <;> rfl

theorem Sound.post_of_onDuty (h : w.Sound) {id : String} {k : Task} (there : k ∈ w.onDuty id) :
    w.monitor.post? id = some (k.config, k.serial) := by
  obtain ⟨task, live, rfl⟩ := mem_onDuty.mp there
  exact h.staffed.post_of_live task live

/-! ## Boundaries -/

/-- After these incidents the loops that an id had are over. -/
inductive Bars (w : Crew) (id : String) : Incident → Prop
  | stop : w.Bars id (.act (.call .stop))
  | unwatch {c : Coordinator} (done : w.node.unwatch id = .ok c) :
      w.Bars id (.act (.call (.unwatch id)))
  | watch {config : Option HealthConfig} {c : Coordinator}
      (done : w.node.watch id config = .ok c) : w.Bars id (.act (.call (.watch id config)))
  | unregister {r : Record} (done : (w.node.unregister id).1 = .ok r) :
      w.Bars id (.act (.call (.unregister id)))
  | clear (r : Record) : w.Bars id (.clear id r)

/-- A node that was stopped, or could not be, is not started. -/
theorem stop_ne_started (c : Coordinator) : c.stop.lifecycle ≠ .started := by
  unfold Coordinator.stop
  split
  · exact nofun
  · assumption

/-- A loop that an id has after such an incident was begun by it. -/
theorem Bars.since (h : w.Sound) {id : String} {i : Incident} (bars : w.Bars id i)
    {p : HealthConfig × Nat} (posted : (w.meet i).monitor.post? id = some p) :
    w.monitor.begun ≤ p.2 := by
  have dropped : ∀ {m : Monitor}, (w.monitor.drop id).Level m → m.post? id ≠ some p := by
    intro m level busy
    rw [level.posts, Monitor.post?_drop_self] at busy
    cases busy
  cases bars with
  | stop =>
    have sound := h.turn (w.turn_meet (.act (.call .stop)))
    have busy := sound.manned id
    rw [posted] at busy
    have running := (Bool.and_eq_true_iff.mp busy.symm).2
    exact absurd (sound.running.mp running) (stop_ne_started w.node)
  | unwatch done => exact absurd posted (dropped ((w.node_unwatched done).1 ▸ .refl _))
  | watch done =>
    change (w.act _).monitor.post? id = some p at posted
    rw [(w.node_watched done).1, Monitor.post?_rewatched_self] at posted
    split at posted
    · cases posted
      exact Nat.le_refl _
    · cases posted
  | unregister done => exact absurd posted (dropped (w.node_unregistered done).1)
  | clear r => exact absurd posted (dropped (level_removed w.node id r))

/-- A loop that an id has later was begun by such an incident or after it. -/
theorem Bars.since_later (h : w.Sound) {id : String} {i : Incident} (bars : w.Bars id i)
    (later : List Incident) {p : HealthConfig × Nat}
    (posted : ((w.meet i).met later).monitor.post? id = some p) : w.monitor.begun ≤ p.2 := by
  have sound := h.turn (w.turn_meet i)
  have task := ((sound.met later).staffed.posts id p.1 p.2).mp posted
  rcases ((w.meet i).ages_met later).tasks _ task with ⟨old, there, serial, own, went⟩ | since
  · have earlier := sound.staffed.post_of_live there (went rfl)
    rw [own] at earlier
    exact (bars.since h earlier).trans (Nat.le_of_eq serial)
  · exact (w.turn_meet i).ages.begun.trans since

/-- A task that was begun before such an incident does not go on, however much later. -/
theorem Bars.stopped (h : w.Sound) {id : String} {i : Incident} (bars : w.Bars id i)
    (later : List Incident) {old k : Task} (begun : old ∈ w.tasks) (own : old.id = id)
    (there : k ∈ ((w.meet i).met later).tasks) (same : k.serial = old.serial) :
    k.live = false := by
  have numbered : old.serial < w.monitor.begun := h.staffed.numbered old begun
  rcases ((w.turn_meet i).ages.trans ((w.meet i).ages_met later)).tasks k there with
    ⟨k', there', serial, id', -⟩ | since
  · have known : k' = old := h.staffed.eq_of_serial there' begun (serial.trans same)
    rw [Bool.eq_false_iff]
    intro live
    have posted := ((h.turn (w.turn_meet i)).met later).staffed.post_of_live there live
    rw [← id', known, own] at posted
    have since : w.monitor.begun ≤ k.serial := bars.since_later h later posted
    exact absurd numbered (by omega)
  · have since : w.monitor.begun ≤ k.serial := since
    exact absurd numbered (by omega)

theorem resign_untouched (w : Crew) (k : Task) : w.node.Untouched (w.resign k).node := by
  have slots : (w.staff.quit k.id).monitor.slots = w.monitor.slots := by
    unfold Staff.quit
    split <;> rfl
  unfold resign
  split
  case isTrue =>
    refine ⟨rfl, fun id => ?_, rfl⟩
    change ((w.staff.quit k.id).monitor.slots[id]?).getD {} = _
    rw [slots]
    rfl
  case isFalse => exact .refl _

/-- What a task finds that does not go on is thrown away. -/
theorem ends_untouched {number : Nat}
    (stopped : ∀ k ∈ w.tasks, k.serial = number → k.live = false) (outcome : Outcome)
    (time : Option Duration) : w.node.Untouched (w.ends number outcome time).node := by
  unfold ends
  split
  case h_1 => exact .refl _
  case h_2 k found =>
    have serial : k.serial = number := by simpa using List.find?_some found
    have idle := stopped k (List.mem_of_find?_eq_some found) serial
    unfold conclude
    split
    case isTrue => exact .refl _
    case isFalse going =>
      have cancelled : k.cancelled = true := by
        cases flag : k.cancelled with
        | true => rfl
        | false => rw [Task.live, flag, Bool.eq_false_iff.mpr going] at idle; cases idle
      have late : w.applied k outcome time = w.node.late k.id outcome time k.config := by
        rw [applied, cancelled, Coordinator.late]
      have untouched := w.node.late_untouched k.id outcome time k.config
      rw [← late] at untouched
      split
      case h_1 => exact untouched
      case h_2 =>
        exact untouched.trans (resign_untouched { w with node := w.applied k outcome time } k)

/-! ## Starting again -/

/-- A node that is not started begins a loop for each id that it watches. -/
theorem Sound.onDuty_start (h : w.Sound) (idle : w.node.lifecycle ≠ .started) {id : String}
    {settings : HealthConfig} (watched : w.monitor.settings? id = some settings) :
    ∃ serial, (w.act (.call .start)).onDuty id = [{ serial, id, config := settings }] := by
  have sound := h.turn (w.turn_act (.call .start))
  have node : (w.act (.call .start)).monitor = w.monitor.run := by
    change (w.node.start).mesh.monitor = _
    rw [Coordinator.start, if_neg idle]
    rfl
  have posted := w.monitor.isSome_post?_run id
  rw [Monitor.isWatched_eq, watched] at posted
  obtain ⟨p, busy⟩ := Option.isSome_iff_exists.mp posted
  have config : some p.1 = some settings := by
    rw [← Monitor.settings?_of_post? busy, Monitor.settings?_run, watched]
  refine ⟨p.2, ?_⟩
  rw [sound.onDuty_eq, node, busy, ← Option.some.inj config]
  rfl

/-- One loop for each watched instance while the node is started, and no result from a loop
that is over. Let anything happen to a new node, in any order: calls, steps of loops and
checks, probes that end after their loop was stopped, and removals of which only one half
is done. Then:

* each id has one task that goes on if it is watched and the node is started, and none
  otherwise; it is the task of the loop that the monitor knows, and it probes with the
  configuration that the latest accepted request to watch the id gave;
* no matter what happens after the node was stopped, when it is started the next time each
  id that is still watched gets one loop, with the configuration of its watch;
* once a stop, a request to watch an id no longer, one to watch it anew, or its removal has
  returned, no task of the id that was begun before ever changes a record, a tracker or a
  history again, or has anybody told of anything; and a loop that the id has is a newer one. -/
theorem one_loop_each (config : Config) (incidents : List Incident) :
    let w := (fresh config).met incidents
    (∀ id, (w.onDuty id).length =
      if w.monitor.isWatched id = true ∧ w.node.lifecycle = .started then 1 else 0) ∧
    (∀ id, ∀ k ∈ w.onDuty id, (w.monitor.loop? id).map Loop.serial = some k.serial ∧
      w.monitor.settings? id = some k.config) ∧
    (∀ id settings, w.monitor.settings? id = some settings → w.given[id]? = some settings) ∧
    ((w.act (.call .stop)).node.lifecycle ≠ .started ∧ ∀ meanwhile,
      let halted := (w.act (.call .stop)).met meanwhile
      halted.node.lifecycle ≠ .started →
        ∀ id settings, halted.monitor.settings? id = some settings →
          ∃ serial, w.monitor.begun ≤ serial ∧
            (halted.act (.call .start)).onDuty id = [{ serial, id, config := settings }]) ∧
    ∀ i id, w.Bars id i → ∀ later,
      let next := (w.meet i).met later
      (∀ k ∈ w.tasks, k.id = id → ∀ outcome time,
        next.node.Untouched (next.ends k.serial outcome time).node) ∧
      ∀ l, next.monitor.loop? id = some l → w.monitor.begun ≤ l.serial := by
  intro w
  have h : w.Sound := (sound_fresh config).met incidents
  refine ⟨fun id => ?_, fun id k there => ?_, h.recorded, ⟨stop_ne_started w.node, ?_⟩, ?_⟩
  · rw [h.onDuty_length, h.manned id]
    simp only [← h.running]
    cases w.monitor.isWatched id <;> cases w.monitor.running <;> rfl
  · have posted := h.post_of_onDuty there
    rw [Monitor.loop?_map_serial, posted, Monitor.settings?_of_post? posted]
    exact ⟨rfl, rfl⟩
  · intro meanwhile halted idle id settings watched
    have sound : halted.Sound := (h.turn w.turn_stop).met meanwhile
    obtain ⟨serial, duty⟩ := sound.onDuty_start idle watched
    refine ⟨serial, ?_, duty⟩
    have again : (w.meet (.act (.call .stop))).met (meanwhile ++ [.act (.call .start)]) =
        halted.act (.call .start) := met_append _ meanwhile _
    have posted :=
      (sound.turn halted.turn_start).post_of_onDuty (duty ▸ List.mem_singleton_self _)
    rw [← again] at posted
    exact Bars.stop.since_later h _ posted
  · intro i id bars later next
    have sound : next.Sound := (h.turn (w.turn_meet i)).met later
    constructor
    · intro k begun own outcome time
      apply ends_untouched
      intro k' there same
      exact bars.stopped h later begun own there same
    · intro l live
      obtain ⟨settings, posted⟩ := Monitor.post?_of_loop? live
      exact bars.since_later h later posted

/-- A node that probes one instance. -/
def watching : List Incident :=
  let r : Record := { serviceName := "svc", id := "a", endpoint := "127.0.0.1", port := 8080 }
  [.act (.call (.register r)), .act (.call (.watch "a" none)), .act (.call .start)]

/-- A probe that finds the instance down is entered into its history while the node is
started, and thrown away when the node was stopped, even if it has been started again. -/
theorem one_loop_each_watching :
    let w := (fresh {}).met watching
    let again := (w.meet (.act (.call .stop))).met [.act (.call .start)]
    w.tasks = [{ serial := 0, id := "a", config := {} }] ∧ (w.onDuty "a").length = 1 ∧
    ((w.ends 0 .down none).node.mesh.monitor.slot "a").history.checks.length = 1 ∧
    again.onDuty "a" = [{ serial := 1, id := "a", config := {} }] ∧
    again.node.Untouched (again.ends 0 .down none).node := by
  intro w again
  have tasks : w.tasks = [{ serial := 0, id := "a", config := {} }] := by decide +kernel
  obtain ⟨count, -, -, -, bars⟩ := one_loop_each {} watching
  have once : (w.onDuty "a").length = 1 := (count "a").trans (by decide +kernel)
  have begun : ({ serial := 0, id := "a", config := {} } : Task) ∈ w.tasks := by
    rw [tasks]
    exact List.mem_singleton_self _
  have untouched := (bars _ "a" .stop [.act (.call .start)]).1 _ begun rfl .down none
  exact ⟨tasks, once, by decide +kernel, by decide +kernel, untouched⟩

end Crew

end ServiceMesh
