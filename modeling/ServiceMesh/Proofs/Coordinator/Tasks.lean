import Mathlib.Data.List.Nodup
import ServiceMesh.Proofs.Coordinator.Posts

/-!
# Loops and their tasks

Each loop is run by a task. A monitor holds on to the task of a loop only while the loop is
that of a watch, and a task that it has dropped may still have a probe under way. Such a
task is stopped by a flag: the flag is set when the loop is ended, and the task reads it
before it applies what it found. Here the tasks stand beside the monitor, and each operation
of the monitor is said with what it does to them. A task is begun where a loop is begun, and
its flag is set where the loop is ended; that the two keep together is an invariant.
-/

namespace ServiceMesh

/-- The task that runs a loop. It has the number of the loop, and probes with the
configuration that it was begun with. -/
structure Task where
  serial : Nat
  id : String
  config : HealthConfig
  /-- the flag that tells it to stop -/
  cancelled : Bool := false
  /-- whether it came to its end by itself -/
  finished : Bool := false
  deriving DecidableEq

namespace Task

/-- Whether a task goes on. -/
def live (k : Task) : Bool := !k.cancelled && !k.finished

/-- Set the flag of the task with a number. -/
def cancel (serial : Nat) (k : Task) : Task :=
  if k.serial = serial then { k with cancelled := true } else k

/-- Let the task with a number come to its end. -/
def finish (serial : Nat) (k : Task) : Task :=
  if k.serial = serial then { k with finished := true } else k

/-- What stops the task with a number and leaves the others alone. -/
structure Stops (number : Nat) (stop : Task → Task) : Prop where
  serial : ∀ k, (stop k).serial = k.serial
  id : ∀ k, (stop k).id = k.id
  own : ∀ k : Task, k.serial = number → (stop k).live = false
  others : ∀ k : Task, k.serial ≠ number → stop k = k

theorem stops_cancel (number : Nat) : Stops number (cancel number) where
  serial k := by unfold cancel; split <;> rfl
  id k := by unfold cancel; split <;> rfl
  own k same := by rw [cancel, if_pos same]; rfl
  others k differ := if_neg differ

theorem stops_finish (number : Nat) : Stops number (finish number) where
  serial k := by unfold finish; split <;> rfl
  id k := by unfold finish; split <;> rfl
  own k same := by rw [finish, if_pos same, live, Bool.not_true, Bool.and_false]
  others k differ := if_neg differ

/-- A task that goes on has no flag set. -/
theorem eq_of_live {k : Task} (live : k.live = true) :
    k = { serial := k.serial, id := k.id, config := k.config } := by
  obtain ⟨serial, id, config, cancelled, finished⟩ := k
  cases cancelled <;> cases finished <;> first | rfl | cases live

end Task

/-- A monitor with the tasks that were begun so far, in their order. -/
structure Staff where
  monitor : Monitor
  tasks : List Task

namespace Staff

/-! ## The operations of a monitor with their tasks -/

/-- Begin the loop of a watched instance that has none, with its task. -/
def beginLoop (s : Staff) (id : String) : Staff :=
  match s.monitor.watches[id]? with
  | some { config, loop := none } =>
    { monitor := s.monitor.beginLoop id
      tasks := s.tasks ++ [{ serial := s.monitor.begun, id, config }] }
  | _ => s

/-- End the loop of a watched instance, and set the flag of its task. -/
def endLoop (s : Staff) (id : String) : Staff :=
  match s.monitor.watches[id]? with
  | some { config := _, loop := some l } =>
    { monitor := s.monitor.endLoop id, tasks := s.tasks.map (Task.cancel l.serial) }
  | _ => s

/-- Begin to probe every watched instance. -/
def run (s : Staff) : Staff :=
  s.monitor.watches.keys.foldl beginLoop { s with monitor := { s.monitor with running := true } }

/-- Stop probing. -/
def halt (s : Staff) : Staff :=
  s.monitor.watches.keys.foldl endLoop { s with monitor := { s.monitor with running := false } }

/-- Watch an instance from now on with a configuration. -/
def watch (s : Staff) (id : String) (config : HealthConfig) : Staff :=
  let s := s.endLoop id
  let s := { s with monitor := s.monitor.renewed id config }
  if s.monitor.running then s.beginLoop id else s

/-- Watch an instance no longer. -/
def drop (s : Staff) (id : String) : Staff :=
  let s := s.endLoop id
  { s with monitor := { s.monitor with watches := s.monitor.watches.erase id } }

/-- Let the loop of an instance come to its end by itself: its watch goes with it. -/
def quit (s : Staff) (id : String) : Staff :=
  match s.monitor.loop? id with
  | none => s
  | some l =>
    { monitor := { s.monitor with watches := s.monitor.watches.erase id }
      tasks := s.tasks.map (Task.finish l.serial) }

/-! The monitor does not depend on the tasks. -/

variable {s next : Staff} {id other : String} {config : HealthConfig}

@[simp] theorem monitor_beginLoop (s : Staff) (id : String) :
    (s.beginLoop id).monitor = s.monitor.beginLoop id := by
  unfold beginLoop
  split
  case h_1 => rfl
  case h_2 busy =>
    rcases s.monitor.beginLoop_cases id with ⟨config, found, -⟩ | ⟨-, same⟩
    · exact absurd found (busy config)
    · exact same.symm

@[simp] theorem monitor_endLoop (s : Staff) (id : String) :
    (s.endLoop id).monitor = s.monitor.endLoop id := by
  unfold endLoop
  split
  case h_1 => rfl
  case h_2 idle =>
    rcases s.monitor.endLoop_cases id with ⟨config, l, found, -⟩ | ⟨-, same⟩
    · exact absurd found (idle config l)
    · exact same.symm

theorem monitor_foldl {step : Staff → String → Staff} {plain : Monitor → String → Monitor}
    (each : ∀ s id, (step s id).monitor = plain s.monitor id) (s : Staff) (ids : List String) :
    (ids.foldl step s).monitor = ids.foldl plain s.monitor := by
  induction ids generalizing s with
  | nil => rfl
  | cons id rest ih => rw [List.foldl_cons, List.foldl_cons, ih, each]

@[simp] theorem monitor_run (s : Staff) : s.run.monitor = s.monitor.run :=
  monitor_foldl monitor_beginLoop _ _

@[simp] theorem monitor_halt (s : Staff) : s.halt.monitor = s.monitor.halt :=
  monitor_foldl monitor_endLoop _ _

@[simp] theorem monitor_drop (s : Staff) (id : String) :
    (s.drop id).monitor = s.monitor.drop id := by
  rw [drop, monitor_endLoop, Monitor.drop]

@[simp] theorem monitor_watch (s : Staff) (id : String) (config : HealthConfig) :
    (s.watch id config).monitor = s.monitor.rewatched id config := by
  have still : ((s.endLoop id).monitor.renewed id config).running = s.monitor.running := by
    rw [monitor_endLoop]
    exact s.monitor.running_endLoop id
  unfold watch Monitor.rewatched
  simp only [still]
  split
  · rw [monitor_beginLoop, monitor_endLoop]
  · rw [monitor_endLoop]

/-- A loop that comes to its end matters by its number. -/
theorem quit_eq (s : Staff) (id : String) :
    s.quit id = match (s.monitor.loop? id).map Loop.serial with
      | none => s
      | some number =>
        { monitor := { s.monitor with watches := s.monitor.watches.erase id }
          tasks := s.tasks.map (Task.finish number) } := by
  unfold quit
  cases s.monitor.loop? id <;> rfl

/-! ## Loops have their tasks -/

/-- Each loop has its task, with its number, its configuration and no flag set, and each task
that goes on is that of a loop. Tasks are numbered in their order. -/
structure Staffed (s : Staff) : Prop where
  posts : ∀ id config serial,
    s.monitor.post? id = some (config, serial) ↔ { serial, id, config } ∈ s.tasks
  ascend : s.tasks.Pairwise fun j k => j.serial < k.serial
  numbered : ∀ k ∈ s.tasks, k.serial < s.monitor.begun

namespace Staffed

theorem empty (m : Monitor) (unwatched : ∀ id, m.post? id = none) : Staffed ⟨m, []⟩ where
  posts id config serial := by simp [unwatched]
  ascend := .nil
  numbered k hk := nomatch hk

/-- A task is known by its number. -/
theorem eq_of_serial (h : s.Staffed) {j k : Task} (hj : j ∈ s.tasks) (hk : k ∈ s.tasks)
    (same : j.serial = k.serial) : j = k := by
  have numbers : (s.tasks.map Task.serial).Nodup :=
    (List.pairwise_map.mpr h.ascend).imp fun before => Nat.ne_of_lt before
  exact List.inj_on_of_nodup_map numbers hj hk same

/-- A task that goes on is that of a loop. -/
theorem post_of_live (h : s.Staffed) {k : Task} (hk : k ∈ s.tasks) (live : k.live = true) :
    s.monitor.post? k.id = some (k.config, k.serial) :=
  (h.posts k.id k.config k.serial).mpr (Task.eq_of_live live ▸ hk)

/-- Nothing happens to loops. -/
theorem level (h : s.Staffed) {m : Monitor} (level : s.monitor.Level m) :
    Staffed ⟨m, s.tasks⟩ where
  posts id config serial := by
    rw [level.posts]
    exact h.posts id config serial
  ascend := h.ascend
  numbered k hk := (h.numbered k hk).trans_le level.begun

/-- A loop is begun with a new task. -/
theorem engage (h : s.Staffed) {m : Monitor} (idle : s.monitor.post? id = none)
    (own : m.post? id = some (config, s.monitor.begun))
    (others : ∀ other, id ≠ other → m.post? other = s.monitor.post? other)
    (begun : m.begun = s.monitor.begun + 1) :
    Staffed ⟨m, s.tasks ++ [{ serial := s.monitor.begun, id, config }]⟩ where
  posts other settings serial := by
    rw [List.mem_append, List.mem_singleton, Task.mk.injEq]
    by_cases same : id = other
    · subst same
      have absent : ({ serial, id, config := settings } : Task) ∉ s.tasks := by
        intro there
        exact nomatch idle.symm.trans ((h.posts id settings serial).mpr there)
      rw [own, Option.some.injEq, Prod.mk.injEq]
      constructor
      · rintro ⟨rfl, rfl⟩
        exact .inr ⟨rfl, rfl, rfl, rfl, rfl⟩
      · rintro (there | ⟨rfl, -, rfl, -⟩)
        · exact absurd there absent
        · exact ⟨rfl, rfl⟩
    · rw [others other same, h.posts]
      constructor
      · exact .inl
      · rintro (there | ⟨-, rfl, -⟩)
        · exact there
        · exact absurd rfl same
  ascend := by
    rw [List.pairwise_append]
    refine ⟨h.ascend, List.pairwise_singleton _ _, ?_⟩
    intro j hj k hk
    rw [List.mem_singleton.mp hk]
    exact h.numbered j hj
  numbered k hk := by
    rw [begun]
    rcases List.mem_append.mp hk with old | new
    · exact Nat.lt_succ_of_lt (h.numbered k old)
    · rw [List.mem_singleton.mp new]
      exact Nat.lt_succ_self _

/-- A loop is ended and its task stopped. -/
theorem dismiss (h : s.Staffed) {m : Monitor} {serial : Nat} {stop : Task → Task}
    (busy : s.monitor.post? id = some (config, serial)) (own : m.post? id = none)
    (others : ∀ other, id ≠ other → m.post? other = s.monitor.post? other)
    (begun : s.monitor.begun ≤ m.begun) (stops : Task.Stops serial stop) :
    Staffed ⟨m, s.tasks.map stop⟩ := by
  -- a task without flags that is left is one of the others, and was there before
  have kept : ∀ k : Task, k.live = true →
      (k ∈ s.tasks.map stop ↔ k ∈ s.tasks ∧ k.serial ≠ serial) := by
    intro k live
    rw [List.mem_map]
    constructor
    · rintro ⟨old, hold, rfl⟩
      have differ : old.serial ≠ serial := by
        intro same
        exact nomatch (stops.own old same).symm.trans live
      rw [stops.others old differ]
      exact ⟨hold, differ⟩
    · rintro ⟨hk, differ⟩
      exact ⟨k, hk, stops.others k differ⟩
  have stopped : ({ serial, id, config } : Task) ∈ s.tasks := (h.posts id config serial).mp busy
  constructor
  · intro other settings number
    rw [kept _ rfl]
    by_cases same : id = other
    · subst same
      rw [own]
      constructor
      · exact nofun
      · rintro ⟨there, differ⟩
        have posted := (h.posts id settings number).mpr there
        rw [busy] at posted
        cases posted
        exact absurd rfl differ
    · rw [others other same, h.posts]
      constructor
      · intro there
        refine ⟨there, ?_⟩
        rintro rfl
        exact same (congrArg Task.id (h.eq_of_serial stopped there rfl))
      · exact And.left
  · rw [List.pairwise_map]
    refine h.ascend.imp ?_
    intro j k before
    rwa [stops.serial, stops.serial]
  · intro k hk
    obtain ⟨old, hold, rfl⟩ := List.mem_map.mp hk
    rw [stops.serial]
    exact (h.numbered old hold).trans_le begun

theorem beginLoop (h : s.Staffed) (id : String) : (s.beginLoop id).Staffed := by
  unfold Staff.beginLoop
  split
  case h_1 config found =>
    rcases s.monitor.beginLoop_cases id with ⟨config', found', begun⟩ | ⟨busy, -⟩
    · have same : config = config' := by
        rw [found] at found'
        cases found'
        rfl
      subst same
      apply h.engage
      · rw [Monitor.post?, found]
        rfl
      · rw [begun, Monitor.post?_insert_self rfl]
        rfl
      · exact fun other differ => s.monitor.post?_beginLoop_ne differ
      · rw [begun]
    · exact absurd found (busy config)
  case h_2 => exact h

theorem endLoop (h : s.Staffed) (id : String) : (s.endLoop id).Staffed := by
  unfold Staff.endLoop
  split
  case h_1 config l found =>
    have busy : s.monitor.post? id = some (config, l.serial) := by
      rw [Monitor.post?, found]
      rfl
    exact h.dismiss busy (s.monitor.post?_endLoop_self id)
      (fun other differ => s.monitor.post?_endLoop_ne differ)
      (Nat.le_of_eq (s.monitor.begun_endLoop id).symm) (Task.stops_cancel l.serial)
  case h_2 => exact h

theorem foldl {step : Staff → String → Staff}
    (each : ∀ s id, s.Staffed → (step s id).Staffed) (h : s.Staffed) (ids : List String) :
    (ids.foldl step s).Staffed := by
  induction ids generalizing s with
  | nil => exact h
  | cons id rest ih => exact ih (each s id h)

theorem run (h : s.Staffed) : s.run.Staffed := by
  have running : Staffed { s with monitor := { s.monitor with running := true } } :=
    ⟨h.posts, h.ascend, h.numbered⟩
  exact running.foldl (fun _ id staffed => staffed.beginLoop id) _

theorem halt (h : s.Staffed) : s.halt.Staffed := by
  have halted : Staffed { s with monitor := { s.monitor with running := false } } :=
    ⟨h.posts, h.ascend, h.numbered⟩
  exact halted.foldl (fun _ id staffed => staffed.endLoop id) _

/-- A watch without a loop is changed for another one, or taken away. -/
theorem relieve (h : s.Staffed) {m : Monitor} (idle : s.monitor.post? id = none)
    (own : m.post? id = none)
    (others : ∀ other, id ≠ other → m.post? other = s.monitor.post? other)
    (begun : s.monitor.begun ≤ m.begun) : Staffed ⟨m, s.tasks⟩ where
  posts other settings serial := by
    by_cases same : id = other
    · subst same
      rw [own, ← idle]
      exact h.posts id settings serial
    · rw [others other same]
      exact h.posts other settings serial
  ascend := h.ascend
  numbered k hk := (h.numbered k hk).trans_le begun

theorem drop (h : s.Staffed) (id : String) : (s.drop id).Staffed := by
  have ended := h.endLoop id
  have idle : (s.endLoop id).monitor.post? id = none := by
    rw [monitor_endLoop]
    exact s.monitor.post?_endLoop_self id
  exact ended.relieve idle (Monitor.post?_erase_self rfl)
    (fun other differ => Monitor.post?_erase_ne differ rfl) (Nat.le_refl _)

theorem watch (h : s.Staffed) (id : String) (config : HealthConfig) :
    (s.watch id config).Staffed := by
  have ended := h.endLoop id
  have idle : (s.endLoop id).monitor.post? id = none := by
    rw [monitor_endLoop]
    exact s.monitor.post?_endLoop_self id
  have watched :
      Staffed { s.endLoop id with monitor := (s.endLoop id).monitor.renewed id config } :=
    ended.relieve idle (Monitor.post?_renewed_self _ id config)
      (fun other differ => Monitor.post?_renewed_ne _ differ config) (Nat.le_refl _)
  unfold Staff.watch
  simp only
  split
  · exact watched.beginLoop id
  · exact watched

theorem quit (h : s.Staffed) (id : String) : (s.quit id).Staffed := by
  unfold Staff.quit
  split
  case h_1 => exact h
  case h_2 l live =>
    obtain ⟨config, busy⟩ := Monitor.post?_of_loop? live
    exact h.dismiss busy (Monitor.post?_erase_self rfl)
      (fun other differ => Monitor.post?_erase_ne differ rfl) (Nat.le_refl _)
      (Task.stops_finish l.serial)

end Staffed

/-! ## Tasks age -/

/-- Each task of a later staff is one of the earlier staff or was begun in between, and one
that was stopped does not go on again. -/
structure Ages (s next : Staff) : Prop where
  begun : s.monitor.begun ≤ next.monitor.begun
  tasks : ∀ k ∈ next.tasks,
    (∃ old ∈ s.tasks, old.serial = k.serial ∧ old.id = k.id ∧
      (k.live = true → old.live = true)) ∨
    s.monitor.begun ≤ k.serial

namespace Ages

theorem of_same (begun : s.monitor.begun ≤ next.monitor.begun) (tasks : next.tasks = s.tasks) :
    s.Ages next :=
  ⟨begun, fun k hk => .inl ⟨k, tasks ▸ hk, rfl, rfl, fun live => live⟩⟩

theorem refl (s : Staff) : s.Ages s := of_same (Nat.le_refl _) rfl

theorem trans {last : Staff} (first : s.Ages next) (second : next.Ages last) : s.Ages last := by
  refine ⟨first.begun.trans second.begun, ?_⟩
  intro k hk
  rcases second.tasks k hk with ⟨between, there, serial, id, goes⟩ | since
  · rcases first.tasks between there with ⟨old, before, serial', id', went⟩ | since
    · exact .inl ⟨old, before, serial'.trans serial, id'.trans id, fun live => went (goes live)⟩
    · exact .inr (since.trans (Nat.le_of_eq serial))
  · exact .inr (first.begun.trans since)

theorem stop {m : Monitor} {number : Nat} {stop : Task → Task}
    (begun : s.monitor.begun ≤ m.begun) (stops : Task.Stops number stop) :
    s.Ages ⟨m, s.tasks.map stop⟩ := by
  refine ⟨begun, ?_⟩
  intro k hk
  obtain ⟨old, hold, rfl⟩ := List.mem_map.mp hk
  refine .inl ⟨old, hold, (stops.serial old).symm, (stops.id old).symm, ?_⟩
  intro live
  by_cases own : old.serial = number
  · exact nomatch (stops.own old own).symm.trans live
  · rwa [stops.others old own] at live

theorem beginLoop (s : Staff) (id : String) : s.Ages (s.beginLoop id) := by
  have begun : s.monitor.begun ≤ (s.beginLoop id).monitor.begun := by
    rw [monitor_beginLoop]
    exact s.monitor.begun_le_beginLoop id
  refine ⟨begun, ?_⟩
  intro k hk
  have cases : k ∈ s.tasks ∨ k.serial = s.monitor.begun := by
    unfold Staff.beginLoop at hk
    split at hk
    case h_1 => exact (List.mem_append.mp hk).imp_right fun new => by rw [List.mem_singleton.mp new]
    case h_2 => exact .inl hk
  rcases cases with old | new
  · exact .inl ⟨k, old, rfl, rfl, fun live => live⟩
  · exact .inr (Nat.le_of_eq new.symm)

theorem endLoop (s : Staff) (id : String) : s.Ages (s.endLoop id) := by
  unfold Staff.endLoop
  split
  case h_1 l _ =>
    exact stop (Nat.le_of_eq (s.monitor.begun_endLoop id).symm) (Task.stops_cancel l.serial)
  case h_2 => exact refl s

theorem foldl {step : Staff → String → Staff} (each : ∀ (s : Staff) id, s.Ages (step s id))
    (s : Staff) (ids : List String) : s.Ages (ids.foldl step s) := by
  induction ids generalizing s with
  | nil => exact refl s
  | cons id rest ih => exact (each s id).trans (ih _)

theorem run (s : Staff) : s.Ages s.run := by
  have running : s.Ages { s with monitor := { s.monitor with running := true } } :=
    of_same (Nat.le_refl _) rfl
  exact running.trans (foldl beginLoop _ _)

theorem halt (s : Staff) : s.Ages s.halt := by
  have halted : s.Ages { s with monitor := { s.monitor with running := false } } :=
    of_same (Nat.le_refl _) rfl
  exact halted.trans (foldl endLoop _ _)

theorem drop (s : Staff) (id : String) : s.Ages (s.drop id) :=
  (endLoop s id).trans (of_same (Nat.le_refl _) rfl)

theorem watch (s : Staff) (id : String) (config : HealthConfig) : s.Ages (s.watch id config) := by
  have watched : s.Ages { s.endLoop id with monitor := (s.endLoop id).monitor.renewed id config } :=
    (endLoop s id).trans (of_same (Nat.le_refl _) rfl)
  unfold Staff.watch
  simp only
  split
  · exact watched.trans (beginLoop _ id)
  · exact watched

theorem quit (s : Staff) (id : String) : s.Ages (s.quit id) := by
  unfold Staff.quit
  split
  case h_1 => exact refl s
  case h_2 l _ => exact stop (Nat.le_refl _) (Task.stops_finish l.serial)

end Ages

end Staff

end ServiceMesh
