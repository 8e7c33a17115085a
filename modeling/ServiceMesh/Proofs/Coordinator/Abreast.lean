import ServiceMesh.Proofs.Coordinator.Schedule

/-!
# Monitors abreast

The number of a loop decides which of two jobs that are due at once is done first, and it depends
on how many loops and checks were begun before, for whichever ids. Two monitors are abreast if they
watch the same ids alike and their loops have the same numbers, wherever the loops stand. What is
asked of both keeps them abreast, and so does a step of a loop of either.
-/

namespace ServiceMesh

/-- A watch is its configuration with the phase and the number of its loop. -/
theorem Watch.eq_of_parts {w w' : Watch}
    (stance : (w.config, w.loop.map Loop.phase) = (w'.config, w'.loop.map Loop.phase))
    (post : w.post = w'.post) : w = w' := by
  obtain ⟨config, loop⟩ := w
  obtain ⟨config', loop'⟩ := w'
  obtain ⟨rfl, phases⟩ := Prod.mk.inj stance
  cases loop with
  | none =>
    cases Option.map_eq_none_iff.mp phases.symm
    rfl
  | some l =>
    cases loop' with
    | none => cases phases
    | some l' =>
      have phase : l.phase = l'.phase := Option.some.inj phases
      have serial : l.serial = l'.serial := (Prod.mk.inj (Option.some.inj post)).2
      obtain ⟨_, _⟩ := l
      cases phase
      cases serial
      rfl

namespace Monitor

/-- The watches of two monitors differ in the phases of their loops at most, and the next number
is the same. -/
structure Abreast (m n : Monitor) : Prop where
  settings : ∀ id, m.settings? id = n.settings? id
  posts : ∀ id, m.post? id = n.post? id
  running : m.running = n.running
  begun : m.begun = n.begun

namespace Abreast

variable {m n last next : Monitor}

theorem refl (m : Monitor) : m.Abreast m := ⟨fun _ => rfl, fun _ => rfl, rfl, rfl⟩

theorem symm (h : m.Abreast n) : n.Abreast m :=
  ⟨fun id => (h.settings id).symm, fun id => (h.posts id).symm, h.running.symm, h.begun.symm⟩

theorem trans (h : m.Abreast n) (h' : n.Abreast last) : m.Abreast last :=
  ⟨fun id => (h.settings id).trans (h'.settings id), fun id => (h.posts id).trans (h'.posts id),
    h.running.trans h'.running, h.begun.trans h'.begun⟩

theorem of_level (level : m.Level next) (begun : next.begun = m.begun) : m.Abreast next :=
  ⟨fun id => (level.settings id).symm, fun id => (level.posts id).symm, level.running.symm,
    begun.symm⟩

theorem of_same (watches : next.watches = m.watches) (running : next.running = m.running)
    (begun : next.begun = m.begun) : m.Abreast next :=
  of_level (.of_same watches running begun.ge) begun

theorem keys (h : m.Abreast n) : m.watches.keys = n.watches.keys := by
  apply Table.keys_eq
  intro id
  have watched := congrArg Option.isSome (h.settings id)
  rwa [settings?, settings?, Option.isSome_map, Option.isSome_map] at watched

end Abreast

/-! ## What is asked of both -/

variable {m n : Monitor} {id : String} {config : HealthConfig}

/-- An id is watched without a loop. -/
theorem idle_iff :
    m.watches[id]? = some { config } ↔ m.settings? id = some config ∧ m.post? id = none := by
  rw [settings?, post?]
  cases m.watches[id]? with
  | none => simp
  | some w =>
    obtain ⟨config', loop⟩ := w
    cases loop <;> simp [Watch.post]

theorem begun_rewatched (m : Monitor) (id : String) (config : HealthConfig) :
    (m.rewatched id config).begun = if m.running then m.begun + 1 else m.begun := by
  unfold rewatched
  have idle : ((m.endLoop id).renewed id config).watches[id]? = some { config } :=
    Table.getElem?_insert_self _ _ _
  have kept : ((m.endLoop id).renewed id config).begun = m.begun := m.begun_endLoop id
  split
  · rcases beginLoop_cases ((m.endLoop id).renewed id config) id with
      ⟨config', -, begun⟩ | ⟨busy, -⟩
    · rw [begun]
      exact congrArg (· + 1) kept
    · exact absurd idle (busy config)
  · exact kept

namespace Abreast

theorem beginLoop (h : m.Abreast n) (id : String) : (m.beginLoop id).Abreast (n.beginLoop id) := by
  rcases m.beginLoop_cases id with ⟨config, idle, begun⟩ | ⟨busy, same⟩
  · have idle' : n.watches[id]? = some { config } := by
      rw [idle_iff, ← h.settings, ← h.posts]
      exact idle_iff.mp idle
    have begun' : n.beginLoop id = { n with
        watches := n.watches.insert id { config, loop := some { serial := n.begun } }
        begun := n.begun + 1 } := by
      rw [Monitor.beginLoop, idle']
    have next : (m.beginLoop id).begun = (n.beginLoop id).begun := by
      rw [begun, begun', h.begun]
    refine ⟨fun other => ?_, fun other => ?_, ?_, next⟩
    · rw [settings?_beginLoop, settings?_beginLoop, h.settings]
    · by_cases self : id = other
      · subst self
        rw [begun, begun', post?_insert_self rfl, post?_insert_self rfl, h.begun]
      · rw [post?_beginLoop_ne m self, post?_beginLoop_ne n self, h.posts]
    · rw [running_beginLoop, running_beginLoop, h.running]
  · have same' : n.beginLoop id = n := by
      rcases n.beginLoop_cases id with ⟨config, idle', -⟩ | ⟨-, same'⟩
      · rw [idle_iff, ← h.settings, ← h.posts] at idle'
        exact absurd (idle_iff.mpr idle') (busy config)
      · exact same'
    rwa [same, same']

theorem endLoop (h : m.Abreast n) (id : String) : (m.endLoop id).Abreast (n.endLoop id) := by
  refine ⟨fun other => ?_, fun other => ?_, ?_, ?_⟩
  · rw [settings?_endLoop, settings?_endLoop, h.settings]
  · by_cases self : id = other
    · subst self
      rw [post?_endLoop_self, post?_endLoop_self]
    · rw [post?_endLoop_ne m self, post?_endLoop_ne n self, h.posts]
  · rw [running_endLoop, running_endLoop, h.running]
  · rw [begun_endLoop, begun_endLoop, h.begun]

theorem foldl {step : Monitor → String → Monitor}
    (each : ∀ {m n : Monitor}, m.Abreast n → ∀ id, (step m id).Abreast (step n id))
    (h : m.Abreast n) (ids : List String) : (ids.foldl step m).Abreast (ids.foldl step n) := by
  induction ids generalizing m n with
  | nil => exact h
  | cons id rest ih => exact ih (each h id)

theorem run (h : m.Abreast n) : m.run.Abreast n.run := by
  have set : Abreast { m with running := true } { n with running := true } :=
    ⟨h.settings, h.posts, rfl, h.begun⟩
  rw [Monitor.run, Monitor.run, h.keys]
  exact foldl beginLoop set _

theorem halt (h : m.Abreast n) : m.halt.Abreast n.halt := by
  have set : Abreast { m with running := false } { n with running := false } :=
    ⟨h.settings, h.posts, rfl, h.begun⟩
  rw [Monitor.halt, Monitor.halt, h.keys]
  exact foldl endLoop set _

theorem drop (h : m.Abreast n) (id : String) : (m.drop id).Abreast (n.drop id) := by
  have ended := h.endLoop id
  refine ⟨fun other => ?_, fun other => ?_, ended.running, ended.begun⟩
  · by_cases self : id = other
    · subst self
      rw [settings?_drop_self, settings?_drop_self]
    · rw [settings?_drop_ne m self, settings?_drop_ne n self, h.settings]
  · by_cases self : id = other
    · subst self
      rw [post?_drop_self, post?_drop_self]
    · rw [post?_drop_ne m self, post?_drop_ne n self, h.posts]

theorem forget (h : m.Abreast n) (id : String) : (m.forget id).Abreast (n.forget id) :=
  ⟨(h.drop id).settings, (h.drop id).posts, (h.drop id).running, (h.drop id).begun⟩

theorem rewatched (h : m.Abreast n) (id : String) (config : HealthConfig) :
    (m.rewatched id config).Abreast (n.rewatched id config) := by
  refine ⟨fun other => ?_, fun other => ?_, ?_, ?_⟩
  · by_cases self : id = other
    · subst self
      rw [settings?_rewatched_self, settings?_rewatched_self]
    · rw [settings?_rewatched_ne m self, settings?_rewatched_ne n self, h.settings]
  · by_cases self : id = other
    · subst self
      rw [post?_rewatched_self, post?_rewatched_self, h.running, h.begun]
    · rw [post?_rewatched_ne m self, post?_rewatched_ne n self, h.posts]
  · rw [running_rewatched, running_rewatched, h.running]
  · rw [begun_rewatched, begun_rewatched, h.running, h.begun]

end Abreast

/-- The watch of an id is the same if its stance and its post are. -/
theorem watch_eq_of_abreast (h : m.Abreast n) (stance : m.stance? id = n.stance? id) :
    m.watches[id]? = n.watches[id]? := by
  have post := h.posts id
  rw [stance?, stance?] at stance
  rw [post?, post?] at post
  cases left : m.watches[id]? with
  | none =>
    rw [left, Option.map_none, eq_comm, Option.map_eq_none_iff] at stance
    exact stance.symm
  | some w =>
    rw [left, Option.map_some, eq_comm, Option.map_eq_some_iff] at stance
    obtain ⟨w', right, same⟩ := stance
    rw [left, right] at post
    rw [right, Watch.eq_of_parts same.symm post]

end Monitor

namespace Timeline

variable {t : Timeline}

/-- No loop quits while the watches are those of registered instances. -/
theorem quits_eq_false (attached : t.mesh.Attached) (id : String) : t.quits id = false := by
  apply Bool.eq_false_iff.mpr
  intro quits
  obtain ⟨⟨l, live⟩, level⟩ := quit_stepLoop quits
  obtain ⟨w, watched, -⟩ := Monitor.loop?_eq_some_iff.mp live
  have gone : (t.stepLoop id).mesh.monitor.settings? id = none :=
    (level.settings id).trans (Monitor.settings?_erase_self rfl)
  rw [Monitor.settings?, getElem?_watches_stepLoop attached, if_pos rfl, watched] at gone
  cases gone

/-- A step of a loop is no matter of posts or numbers. -/
theorem abreast_stepLoop (attached : t.mesh.Attached) (id : String) :
    t.mesh.monitor.Abreast (t.stepLoop id).mesh.monitor :=
  .of_level (level_stepLoop (quits_eq_false attached id)) (begun_stepLoop attached id)

theorem abreast_stepSpawned (attached : t.mesh.Attached) (k : SpawnedCheck) :
    t.mesh.monitor.Abreast (t.stepSpawned k).mesh.monitor :=
  .of_level (.stepSpawned t k) (begun_stepSpawned attached k)

theorem abreast_endProbe (attached : t.mesh.Attached) (id : String) (probe : Probe)
    (config : HealthConfig) :
    t.mesh.monitor.Abreast (t.endProbe id probe config).2.mesh.monitor :=
  .of_level (.endProbe t id probe config) (begun_endProbe attached id probe config)

end Timeline

end ServiceMesh
