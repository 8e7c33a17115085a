import ServiceMesh.Proofs.Coordinator.Loops

/-!
# Posts

What the operations of a monitor do to its loops can be said without their phases: for each
id, whether it is watched and with which configuration, and the number of its loop if it has
one. A monitor that is set running gives each watched id a loop, and one that is halted
takes them all away.
-/

namespace ServiceMesh

/-- The configuration and the number of a loop. -/
def Watch.post (w : Watch) : Option (HealthConfig × Nat) :=
  w.loop.map fun l => (w.config, l.serial)

namespace Monitor

/-- The configuration that an id is watched with. -/
def settings? (m : Monitor) (id : String) : Option HealthConfig :=
  (m.watches[id]?).map Watch.config

/-- The configuration and the number of the loop of an id. -/
def post? (m : Monitor) (id : String) : Option (HealthConfig × Nat) :=
  (m.watches[id]?).bind Watch.post

/-- The watches of two monitors differ in the phases of their loops at most. -/
structure Level (m next : Monitor) : Prop where
  settings : ∀ id, next.settings? id = m.settings? id
  posts : ∀ id, next.post? id = m.post? id
  running : next.running = m.running
  begun : m.begun ≤ next.begun

variable {m next : Monitor} {id other : String} {config : HealthConfig}

theorem Level.of_same (watches : next.watches = m.watches) (running : next.running = m.running)
    (begun : m.begun ≤ next.begun) : m.Level next := by
  refine ⟨fun id => ?_, fun id => ?_, running, begun⟩
  · rw [settings?, watches, settings?]
  · rw [post?, watches, post?]

theorem Level.trans {last : Monitor} (first : m.Level next) (second : next.Level last) :
    m.Level last where
  settings id := (second.settings id).trans (first.settings id)
  posts id := (second.posts id).trans (first.posts id)
  running := second.running.trans first.running
  begun := first.begun.trans second.begun

theorem isWatched_eq (m : Monitor) (id : String) : m.isWatched id = (m.settings? id).isSome := by
  rw [settings?, Option.isSome_map, isWatched]

theorem isWatched_of_isSome_post? (posted : (m.post? id).isSome = true) :
    m.isWatched id = true := by
  rw [isWatched]
  cases found : m.watches[id]? with
  | none =>
    rw [post?, found] at posted
    cases posted
  | some w => rfl

theorem settings?_of_post? {p : HealthConfig × Nat} (posted : m.post? id = some p) :
    m.settings? id = some p.1 := by
  obtain ⟨w, found, loop⟩ := Option.bind_eq_some_iff.mp posted
  obtain ⟨l, -, rfl⟩ := Option.map_eq_some_iff.mp loop
  rw [settings?, found, Option.map_some]

theorem post?_of_loop? {l : Loop} (live : m.loop? id = some l) :
    ∃ config, m.post? id = some (config, l.serial) := by
  obtain ⟨w, found, loop⟩ := loop?_eq_some_iff.mp live
  exact ⟨w.config, by rw [post?, found, Option.bind_some, Watch.post, loop, Option.map_some]⟩

theorem loop?_map_serial (m : Monitor) (id : String) :
    (m.loop? id).map Loop.serial = (m.post? id).map Prod.snd := by
  rw [loop?, post?]
  cases m.watches[id]? with
  | none => rfl
  | some w =>
    rw [Option.bind_some, Option.bind_some, Watch.post, Option.map_map]
    rfl

/-! Another watch of an id, or none. -/

theorem settings?_insert_ne {w : Watch} (differ : id ≠ other)
    (watches : next.watches = m.watches.insert id w) :
    next.settings? other = m.settings? other := by
  rw [settings?, watches, Table.getElem?_insert_ne _ differ, settings?]

theorem post?_insert_ne {w : Watch} (differ : id ≠ other)
    (watches : next.watches = m.watches.insert id w) : next.post? other = m.post? other := by
  rw [post?, watches, Table.getElem?_insert_ne _ differ, post?]

theorem post?_insert_self {w : Watch} (watches : next.watches = m.watches.insert id w) :
    next.post? id = w.post := by
  rw [post?, watches, Table.getElem?_insert_self, Option.bind_some]

theorem settings?_insert_self {w : Watch} (watches : next.watches = m.watches.insert id w) :
    next.settings? id = some w.config := by
  rw [settings?, watches, Table.getElem?_insert_self, Option.map_some]

theorem settings?_erase_ne (differ : id ≠ other) (watches : next.watches = m.watches.erase id) :
    next.settings? other = m.settings? other := by
  rw [settings?, watches, Table.getElem?_erase_ne _ differ, settings?]

theorem post?_erase_ne (differ : id ≠ other) (watches : next.watches = m.watches.erase id) :
    next.post? other = m.post? other := by
  rw [post?, watches, Table.getElem?_erase_ne _ differ, post?]

theorem settings?_erase_self (watches : next.watches = m.watches.erase id) :
    next.settings? id = none := by
  rw [settings?, watches, Table.getElem?_erase_self, Option.map_none]

theorem post?_erase_self (watches : next.watches = m.watches.erase id) :
    next.post? id = none := by
  rw [post?, watches, Table.getElem?_erase_self, Option.bind_none]

/-! Beginning a loop. -/

/-- A loop is begun for a watched id without one, and for no other id. -/
theorem beginLoop_cases (m : Monitor) (id : String) :
    (∃ config, m.watches[id]? = some { config } ∧ m.beginLoop id = { m with
      watches := m.watches.insert id { config, loop := some { serial := m.begun } }
      begun := m.begun + 1 }) ∨
    ((∀ config, m.watches[id]? ≠ some { config }) ∧ m.beginLoop id = m) := by
  unfold beginLoop
  split
  case h_1 config found => exact .inl ⟨config, found, rfl⟩
  case h_2 busy => exact .inr ⟨busy, rfl⟩

theorem settings?_beginLoop (m : Monitor) (id other : String) :
    (m.beginLoop id).settings? other = m.settings? other := by
  rcases m.beginLoop_cases id with ⟨config, found, begun⟩ | ⟨-, same⟩
  · rw [begun]
    by_cases self : id = other
    · subst self
      rw [settings?_insert_self rfl, settings?, found, Option.map_some]
    · exact settings?_insert_ne self rfl
  · rw [same]

theorem running_beginLoop (m : Monitor) (id : String) : (m.beginLoop id).running = m.running := by
  rcases m.beginLoop_cases id with ⟨config, -, begun⟩ | ⟨-, same⟩
  · rw [begun]
  · rw [same]

theorem begun_le_beginLoop (m : Monitor) (id : String) : m.begun ≤ (m.beginLoop id).begun := by
  rcases m.beginLoop_cases id with ⟨config, -, begun⟩ | ⟨-, same⟩
  · rw [begun]
    exact Nat.le_succ _
  · rw [same]

theorem post?_beginLoop_ne (m : Monitor) (differ : id ≠ other) :
    (m.beginLoop id).post? other = m.post? other := by
  rcases m.beginLoop_cases id with ⟨config, -, begun⟩ | ⟨-, same⟩
  · rw [begun]
    exact post?_insert_ne differ rfl
  · rw [same]

/-- A watched id has a loop when one was to be begun. -/
theorem isSome_post?_beginLoop_self (watched : m.isWatched id = true) :
    ((m.beginLoop id).post? id).isSome = true := by
  rcases m.beginLoop_cases id with ⟨config, -, begun⟩ | ⟨busy, same⟩
  · rw [begun, post?_insert_self rfl]
    rfl
  · rw [same, post?]
    obtain ⟨⟨config, loop⟩, found⟩ := Option.isSome_iff_exists.mp watched
    cases loop with
    | none => exact absurd found (busy config)
    | some l => rw [found, Option.bind_some, Watch.post, Option.map_some, Option.isSome_some]

theorem isSome_post?_foldl_beginLoop (ids : List String) (watched : m.isWatched other = true)
    (reached : other ∈ ids ∨ (m.post? other).isSome = true) :
    ((ids.foldl beginLoop m).post? other).isSome = true := by
  induction ids generalizing m with
  | nil => exact reached.resolve_left (List.not_mem_nil)
  | cons id rest ih =>
    rw [List.foldl_cons]
    have still : (m.beginLoop id).isWatched other = true := by rwa [isWatched_beginLoop]
    apply ih still
    by_cases self : id = other
    · subst self
      exact .inr (isSome_post?_beginLoop_self watched)
    · rw [post?_beginLoop_ne m self]
      exact reached.imp_left fun h => (List.mem_cons.mp h).resolve_left (Ne.symm self)

/-! Ending a loop. -/

theorem endLoop_cases (m : Monitor) (id : String) :
    (∃ config l, m.watches[id]? = some { config, loop := some l } ∧
      m.endLoop id = { m with watches := m.watches.insert id { config } }.withSlot id) ∨
    (m.post? id = none ∧ m.endLoop id = m) := by
  unfold endLoop
  split
  case h_1 config l found => exact .inl ⟨config, l, found, rfl⟩
  case h_2 idle =>
    refine .inr ⟨?_, rfl⟩
    rw [post?]
    cases found : m.watches[id]? with
    | none => rfl
    | some w =>
      obtain ⟨config, loop⟩ := w
      cases loop with
      | none => rfl
      | some l => exact absurd found (idle config l)

theorem settings?_endLoop (m : Monitor) (id other : String) :
    (m.endLoop id).settings? other = m.settings? other := by
  rcases m.endLoop_cases id with ⟨config, l, found, ended⟩ | ⟨-, same⟩
  · rw [ended]
    by_cases self : id = other
    · subst self
      rw [settings?_insert_self rfl, settings?, found, Option.map_some]
    · exact settings?_insert_ne self rfl
  · rw [same]

theorem begun_endLoop (m : Monitor) (id : String) : (m.endLoop id).begun = m.begun := by
  rcases m.endLoop_cases id with ⟨config, l, -, ended⟩ | ⟨-, same⟩
  · rw [ended]
    rfl
  · rw [same]

theorem post?_endLoop_self (m : Monitor) (id : String) : (m.endLoop id).post? id = none := by
  rcases m.endLoop_cases id with ⟨config, l, -, ended⟩ | ⟨idle, same⟩
  · rw [ended, post?_insert_self rfl]
    rfl
  · rw [same, idle]

theorem post?_endLoop_ne (m : Monitor) (differ : id ≠ other) :
    (m.endLoop id).post? other = m.post? other := by
  rcases m.endLoop_cases id with ⟨config, l, -, ended⟩ | ⟨-, same⟩
  · rw [ended]
    exact post?_insert_ne differ rfl
  · rw [same]

theorem post?_foldl_endLoop (ids : List String)
    (reached : other ∈ ids ∨ m.post? other = none) :
    (ids.foldl endLoop m).post? other = none := by
  induction ids generalizing m with
  | nil => exact reached.resolve_left (List.not_mem_nil)
  | cons id rest ih =>
    rw [List.foldl_cons]
    apply ih
    by_cases self : id = other
    · subst self
      exact .inr (m.post?_endLoop_self id)
    · rw [post?_endLoop_ne m self]
      exact reached.imp_left fun h => (List.mem_cons.mp h).resolve_left (Ne.symm self)

/-! Running and halting. -/

theorem settings?_run (m : Monitor) (id : String) : m.run.settings? id = m.settings? id :=
  foldl_keeps (fun m => m.settings? id) (fun m key => m.settings?_beginLoop key id)
    { m with running := true } _

theorem running_run (m : Monitor) : m.run.running = true :=
  foldl_keeps Monitor.running running_beginLoop { m with running := true } _

/-- Every watched id has a loop when the monitor runs. -/
theorem isSome_post?_run (m : Monitor) (id : String) :
    (m.run.post? id).isSome = m.isWatched id := by
  cases watched : m.isWatched id with
  | true =>
    obtain ⟨w, found⟩ := Option.isSome_iff_exists.mp watched
    exact isSome_post?_foldl_beginLoop (m := { m with running := true }) m.watches.keys watched
      (.inl (Table.mem_keys_iff.mpr ⟨w, found⟩))
  | false =>
    rw [Bool.eq_false_iff]
    intro posted
    have there := isWatched_of_isSome_post? posted
    rw [isWatched_eq, settings?_run, ← isWatched_eq, watched] at there
    cases there

theorem settings?_halt (m : Monitor) (id : String) : m.halt.settings? id = m.settings? id :=
  foldl_keeps (fun m => m.settings? id) (fun m key => m.settings?_endLoop key id)
    { m with running := false } _

theorem running_halt (m : Monitor) : m.halt.running = false :=
  foldl_keeps Monitor.running running_endLoop { m with running := false } _

/-- No id has a loop when the monitor was halted. -/
theorem post?_halt (m : Monitor) (id : String) : m.halt.post? id = none := by
  cases posted : m.post? id with
  | none => exact post?_foldl_endLoop _ (.inr posted)
  | some p =>
    obtain ⟨w, found, -⟩ := Option.bind_eq_some_iff.mp posted
    exact post?_foldl_endLoop (m := { m with running := false }) _
      (.inl (Table.mem_keys_iff.mpr ⟨w, found⟩))

/-! Watching no longer. -/

theorem post?_drop_self (m : Monitor) (id : String) : (m.drop id).post? id = none :=
  post?_erase_self (m := m.endLoop id) rfl

theorem settings?_drop_self (m : Monitor) (id : String) : (m.drop id).settings? id = none :=
  settings?_erase_self (m := m.endLoop id) rfl

theorem post?_drop_ne (m : Monitor) (differ : id ≠ other) :
    (m.drop id).post? other = m.post? other :=
  (post?_erase_ne (m := m.endLoop id) differ rfl).trans (m.post?_endLoop_ne differ)

theorem settings?_drop_ne (m : Monitor) (differ : id ≠ other) :
    (m.drop id).settings? other = m.settings? other :=
  (settings?_erase_ne (m := m.endLoop id) differ rfl).trans (m.settings?_endLoop id other)

/-! Watching anew. -/

theorem post?_renewed_self (m : Monitor) (id : String) (config : HealthConfig) :
    (m.renewed id config).post? id = none := by
  rw [post?_insert_self rfl]
  rfl

theorem settings?_renewed_self (m : Monitor) (id : String) (config : HealthConfig) :
    (m.renewed id config).settings? id = some config := by
  rw [settings?_insert_self (w := { config }) rfl]

theorem post?_renewed_ne (m : Monitor) (differ : id ≠ other) (config : HealthConfig) :
    (m.renewed id config).post? other = m.post? other :=
  post?_insert_ne differ rfl

theorem running_rewatched (m : Monitor) (id : String) (config : HealthConfig) :
    (m.rewatched id config).running = m.running := by
  unfold rewatched
  split
  · rw [running_beginLoop]
    exact m.running_endLoop id
  · exact m.running_endLoop id

theorem settings?_rewatched_self (m : Monitor) (id : String) (config : HealthConfig) :
    (m.rewatched id config).settings? id = some config := by
  unfold rewatched
  split
  · rw [settings?_beginLoop, settings?_renewed_self]
  · exact settings?_renewed_self _ id config

theorem settings?_rewatched_ne (m : Monitor) (differ : id ≠ other) (config : HealthConfig) :
    (m.rewatched id config).settings? other = m.settings? other := by
  have kept : ((m.endLoop id).renewed id config).settings? other = m.settings? other :=
    (settings?_insert_ne differ rfl).trans (m.settings?_endLoop id other)
  unfold rewatched
  split
  · rw [settings?_beginLoop, kept]
  · exact kept

/-- A monitor that runs has a new loop for an id that it watches anew. -/
theorem post?_rewatched_self (m : Monitor) (id : String) (config : HealthConfig) :
    (m.rewatched id config).post? id = if m.running then some (config, m.begun) else none := by
  unfold rewatched
  split
  · have idle : ((m.endLoop id).renewed id config).watches[id]? = some { config } :=
      Table.getElem?_insert_self _ _ _
    rcases Monitor.beginLoop_cases ((m.endLoop id).renewed id config) id with
      ⟨config', found, begun⟩ | ⟨busy, -⟩
    · rw [idle] at found
      cases found
      rw [begun, post?_insert_self rfl, ← m.begun_endLoop id]
      rfl
    · exact absurd idle (busy config)
  · exact post?_renewed_self _ id config

theorem post?_rewatched_ne (m : Monitor) (differ : id ≠ other) (config : HealthConfig) :
    (m.rewatched id config).post? other = m.post? other := by
  have kept : ((m.endLoop id).renewed id config).post? other = m.post? other :=
    (post?_renewed_ne _ differ config).trans (m.post?_endLoop_ne differ)
  unfold rewatched
  split
  · rw [post?_beginLoop_ne _ differ, kept]
  · exact kept

/-! Every watched id has a loop, or none has. -/

/-- A monitor that runs has a loop for each id that it watches, and one that does not run has
no loop. -/
def Manned (m : Monitor) : Prop := ∀ id, (m.post? id).isSome = (m.isWatched id && m.running)

theorem Manned.level (h : m.Manned) (level : m.Level next) : next.Manned := by
  intro id
  rw [level.posts, isWatched_eq, level.settings, ← isWatched_eq, level.running]
  exact h id

theorem manned_run (m : Monitor) : m.run.Manned := by
  intro id
  rw [isSome_post?_run, running_run, Bool.and_true, isWatched_eq, isWatched_eq, settings?_run]

theorem manned_halt (m : Monitor) : m.halt.Manned := by
  intro id
  rw [post?_halt, running_halt, Bool.and_false, Option.isSome_none]

/-- What is done about one id leaves the others as they were. -/
theorem Manned.replace (h : m.Manned) (running : next.running = m.running)
    (own : (next.post? id).isSome = ((next.settings? id).isSome && m.running))
    (posts : ∀ other, id ≠ other → next.post? other = m.post? other)
    (settings : ∀ other, id ≠ other → next.settings? other = m.settings? other) :
    next.Manned := by
  intro other
  rw [running, isWatched_eq]
  by_cases same : id = other
  · subst same
    exact own
  · rw [posts other same, settings other same, ← isWatched_eq]
    exact h other

theorem Manned.rewatched (h : m.Manned) (id : String) (config : HealthConfig) :
    (m.rewatched id config).Manned := by
  refine h.replace (m.running_rewatched id config) ?_
    (fun _ differ => m.post?_rewatched_ne differ config)
    fun _ differ => m.settings?_rewatched_ne differ config
  rw [post?_rewatched_self, settings?_rewatched_self]
  cases m.running <;> rfl

theorem Manned.erase (h : m.Manned) (watches : next.watches = m.watches.erase id)
    (running : next.running = m.running) : next.Manned := by
  refine h.replace running ?_ (fun _ differ => post?_erase_ne differ watches)
    fun _ differ => settings?_erase_ne differ watches
  rw [post?_erase_self watches, settings?_erase_self watches]
  rfl

theorem Manned.drop (h : m.Manned) (id : String) : (m.drop id).Manned := by
  refine h.replace (m.running_endLoop id) ?_ (fun _ differ => m.post?_drop_ne differ)
    fun _ differ => m.settings?_drop_ne differ
  rw [post?_drop_self, settings?_drop_self]
  rfl

end Monitor

/-! ## What leaves the posts alone -/

namespace Monitor.Level

theorem refl (m : Monitor) : m.Level m := of_same rfl rfl (Nat.le_refl _)

theorem setPhase (t : Timeline) (id : String) (phase : Phase) :
    t.mesh.monitor.Level (t.setPhase id phase).mesh.monitor := by
  refine ⟨fun other => ?_, fun other => ?_, rfl, Nat.le_refl _⟩
  · change ((t.mesh.monitor.watches.update id _)[other]?).map Watch.config = _
    by_cases same : id = other
    · subst same
      rw [Table.getElem?_update_self, Option.map_map]
      rfl
    · rw [Table.getElem?_update_ne _ same, Monitor.settings?]
  · change ((t.mesh.monitor.watches.update id _)[other]?).bind Watch.post = _
    by_cases same : id = other
    · subst same
      rw [Table.getElem?_update_self, Monitor.post?, Option.bind_map]
      congr 1
      funext w
      simp [Watch.post, Function.comp_def]
    · rw [Table.getElem?_update_ne _ same, Monitor.post?]

theorem eraseWatch {m next : Monitor} (h : m.Level next) (id : String) :
    ({ m with watches := m.watches.erase id } : Monitor).Level
      { next with watches := next.watches.erase id } := by
  refine ⟨fun other => ?_, fun other => ?_, h.running, h.begun⟩
  · by_cases same : id = other
    · subst same
      rw [settings?_erase_self rfl, settings?_erase_self rfl]
    · exact (settings?_erase_ne same rfl).trans
        ((h.settings other).trans (settings?_erase_ne same rfl).symm)
  · by_cases same : id = other
    · subst same
      rw [post?_erase_self rfl, post?_erase_self rfl]
    · exact (post?_erase_ne same rfl).trans
        ((h.posts other).trans (post?_erase_ne same rfl).symm)

theorem noteAnswer (m : Mesh) (id : String) (outcome : Outcome) (time : Option Duration) :
    m.monitor.Level (m.noteAnswer id outcome time).2.monitor := by
  unfold Mesh.noteAnswer
  split
  · exact refl _
  · split
    · exact refl _
    · exact of_same rfl rfl (Nat.le_refl _)

theorem changeStatus (m : Mesh) (id : String) (previous current : Status) :
    m.monitor.Level (m.changeStatus id previous current).2.monitor := by
  unfold Mesh.changeStatus
  split
  · exact refl _
  · exact of_same rfl rfl (Nat.le_refl _)

theorem applyTo (m : Mesh) (r : Record) (outcome : Outcome) (time : Option Duration)
    (config : HealthConfig) : m.monitor.Level (m.applyTo r outcome time config).2.monitor := by
  unfold Mesh.applyTo
  simp only
  generalize hseen : (m.monitor.slot r.id).tracker.observe r.status outcome config = seen
  have slotted : ∀ slots, m.monitor.Level { m.monitor with slots } :=
    fun slots => of_same rfl rfl (Nat.le_refl _)
  generalize hm : ({ m with monitor := _ } : Mesh) = middle
  have reached : m.monitor.Level middle.monitor := by
    rw [← hm]
    exact slotted _
  have answered := reached.trans (noteAnswer middle r.id outcome time)
  split
  case h_1 noted => rwa [noted] at answered
  case h_2 noted =>
    rw [noted] at answered
    split
    · exact answered
    · have changed := answered.trans (changeStatus _ r.id r.status seen.1)
      split
      case h_1 turned => rwa [turned] at changed
      case h_2 turned => rwa [turned] at changed

/-- Applying a check is no matter of loops. -/
theorem applyCheck (m : Mesh) (id : String) (outcome : Outcome) (time : Option Duration)
    (config : HealthConfig) (cancelled : Bool) :
    m.monitor.Level (m.applyCheck id outcome time config cancelled).2.monitor := by
  unfold Mesh.applyCheck
  split
  · exact of_same rfl rfl (Nat.le_refl _)
  · split
    case h_1 => exact of_same rfl rfl (Nat.le_refl _)
    case h_2 r _ =>
      have applied := applyTo m r outcome time config
      split
      case h_1 failed => rwa [failed] at applied
      case h_2 done => rwa [done] at applied

theorem endProbe (t : Timeline) (id : String) (probe : Probe) (config : HealthConfig) :
    t.mesh.monitor.Level (t.endProbe id probe config).2.mesh.monitor := by
  have probed : t.mesh.monitor.Level (t.probed probe).monitor := by
    unfold Timeline.probed
    split
    · exact of_same rfl rfl (Nat.le_refl _)
    · exact refl _
  rw [t.mesh_endProbe]
  exact probed.trans (applyCheck ..)

theorem stepSpawned (t : Timeline) (k : SpawnedCheck) :
    t.mesh.monitor.Level (t.stepSpawned k).mesh.monitor := by
  unfold Timeline.stepSpawned
  split
  · split
    · exact refl _
    · exact refl _
  · exact endProbe t k.id _ _
  · exact refl _

end Monitor.Level

namespace Timeline

/-- Whether the next step of the loop of an id is its last: it finds its instance gone. -/
def quits (t : Timeline) (id : String) : Bool :=
  match t.mesh.monitor.watches[id]? with
  | some { config, loop := some loop } =>
    match loop.phase with
    | .fresh | .waiting _ => !t.mesh.store.contains id
    | .probing probe _ =>
      match (t.endProbe id probe config).1 with
      | .ok _ | .error (.timeout _) => false
      | .error _ => true
  | _ => false

theorem level_tick {t : Timeline} {id : String} (there : t.mesh.store.contains id = true)
    (config : HealthConfig) (due : Nat) :
    t.mesh.monitor.Level (t.tick id config due).mesh.monitor := by
  rw [tick, if_pos there]
  exact Monitor.Level.setPhase (t.beginProbe id config).2 id _

theorem tick_of_gone {t : Timeline} {id : String} (gone : t.mesh.store.contains id = false)
    (config : HealthConfig) (due : Nat) : t.tick id config due = t.abandon id := by
  rw [tick, gone]
  rfl

/-- A step of a loop that goes on leaves the posts alone. -/
theorem level_stepLoop {t : Timeline} {id : String} (goes : t.quits id = false) :
    t.mesh.monitor.Level (t.stepLoop id).mesh.monitor := by
  unfold quits at goes
  unfold stepLoop
  cases found : t.mesh.monitor.watches[id]? with
  | none => exact .refl _
  | some w =>
    obtain ⟨config, loop⟩ := w
    cases loop with
    | none => exact .refl _
    | some l =>
      rw [found] at goes
      obtain ⟨serial, phase⟩ := l
      cases phase with
      | fresh => exact level_tick (by simpa using goes) config t.now
      | waiting due => exact level_tick (by simpa using goes) config due
      | probing probe due =>
        have ended := Monitor.Level.endProbe t id probe config
        simp only at goes ⊢
        cases probed : t.endProbe id probe config with
        | mk result later =>
          rw [probed] at ended goes
          cases result with
          | ok => exact ended.trans (.setPhase later id _)
          | error e =>
            cases e with
            | timeout => exact ended.trans (.setPhase later id _)
            | _ => cases goes

/-- The last step of a loop takes its watch away. -/
theorem quit_stepLoop {t : Timeline} {id : String} (ends : t.quits id = true) :
    (∃ l, t.mesh.monitor.loop? id = some l) ∧
    ({ t.mesh.monitor with watches := t.mesh.monitor.watches.erase id } : Monitor).Level
      (t.stepLoop id).mesh.monitor := by
  unfold quits at ends
  unfold stepLoop
  cases found : t.mesh.monitor.watches[id]? with
  | none =>
    rw [found] at ends
    cases ends
  | some w =>
    obtain ⟨config, loop⟩ := w
    rw [found] at ends
    cases loop with
    | none => cases ends
    | some l =>
      refine ⟨⟨l, Monitor.loop?_eq_some_iff.mpr ⟨_, found, rfl⟩⟩, ?_⟩
      obtain ⟨serial, phase⟩ := l
      cases phase with
      | fresh =>
        simp only [tick_of_gone (by simpa using ends)]
        exact .refl _
      | waiting due =>
        simp only [tick_of_gone (by simpa using ends)]
        exact .refl _
      | probing probe due =>
        have ended := Monitor.Level.endProbe t id probe config
        simp only at ends ⊢
        cases probed : t.endProbe id probe config with
        | mk result later =>
          rw [probed] at ended ends
          have abandoned := ended.eraseWatch id
          cases result with
          | ok => cases ends
          | error e => cases e <;> first | exact abandoned | cases ends

end Timeline

end ServiceMesh
