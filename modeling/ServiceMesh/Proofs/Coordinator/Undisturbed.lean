import ServiceMesh.Proofs.Coordinator.Parallel

/-!
# A hung probe disturbs nobody else

Whatever the prober does with one id, every other id is probed at the same moments with the same
outcomes, and gets the same statuses, history and notices, as long as nobody waits for a check of
that id. Two sessions are compared that differ in what they say about the probes of the id, at
whichever millisecond they say it: each of them leaves a twin of what is left without saying any
of it.
-/

namespace ServiceMesh

namespace Operation

/-- The same millisecond by millisecond, so that something else can happen in between. -/
def slowly : Operation → List Operation
  | .advance ms => List.replicate ms (.advance 1)
  | op => [op]

/-- Whether an operation changes what the probes of an id meet. -/
def scripts (id : String) : Operation → Bool
  | .setTarget other _ => other == id
  | _ => false

theorem scripts_eq_true_iff {id : String} {op : Operation} :
    op.scripts id = true ↔ ∃ change, op = .setTarget id change := by
  constructor
  · intro scripts
    cases op with
    | setTarget other change =>
      cases eq_of_beq scripts
      exact ⟨change, rfl⟩
    | _ => cases scripts
  · rintro ⟨change, rfl⟩
    exact beq_self_eq_true id

/-- A session millisecond by millisecond, without what it says about the probes of an id. -/
def unscripted (id : String) (ops : List Operation) : List Operation :=
  (ops.flatMap slowly).filter fun op => !op.scripts id

variable {name : String} {client : Option String} {draw : UInt64} {ops : List Operation}

theorem select_mem_slowly_iff :
    .select name client draw ∈ ops.flatMap slowly ↔ .select name client draw ∈ ops := by
  rw [List.mem_flatMap]
  constructor
  · rintro ⟨op, member, part⟩
    cases op with
    | advance ms => cases List.eq_of_mem_replicate part
    | _ => exact List.mem_singleton.mp part ▸ member
  · intro member
    exact ⟨_, member, List.mem_singleton_self _⟩

theorem select_mem_unscripted_iff (id : String) :
    .select name client draw ∈ unscripted id ops ↔ .select name client draw ∈ ops := by
  rw [unscripted, List.mem_filter, select_mem_slowly_iff]
  exact and_iff_left rfl

end Operation

namespace Coordinator

variable {c d : Coordinator} {id : String}

/-- The id whose check an operation waits for, if it waits for one. -/
def awaited? (c : Coordinator) : Operation → Option String
  | .check id => (c.timeline.checkConfig id).toOption.map fun _ => id
  | .join handle => (c.timeline.spawned? handle).map SpawnedCheck.id
  | _ => none

/-- The ids whose checks are waited for in a session. -/
def awaited (c : Coordinator) : List Operation → List String
  | [] => []
  | op :: rest => (c.awaited? op).toList ++ (c.perform op).2.awaited rest

theorem awaited_append (c : Coordinator) (first second : List Operation) :
    c.awaited (first ++ second) = c.awaited first ++ (c.run first).awaited second := by
  induction first generalizing c with
  | nil => rfl
  | cons op rest ih => rw [List.cons_append, awaited, ih, awaited, List.append_assoc, run_cons]

theorem not_mem_awaited_cons {op : Operation} {rest : List Operation} :
    id ∉ c.awaited (op :: rest) ↔
      c.awaited? op ≠ some id ∧ id ∉ (c.perform op).2.awaited rest := by
  rw [awaited, List.mem_append, not_or, Option.mem_toList]

/-! ## Millisecond by millisecond -/

theorem replicate_wait (orderly : c.Orderly) (ms : Nat) :
    c.session (List.replicate ms (.advance 1)) = c.session [.advance ms] ∧
      c.run (List.replicate ms (.advance 1)) = c.run [.advance ms] ∧
      c.awaited (List.replicate ms (.advance 1)) = [] := by
  induction ms generalizing c with
  | zero => exact ⟨rfl, rfl, rfl⟩
  | succ ms ih =>
    obtain ⟨seen, ends, awaits⟩ := ih (orderly.perform (.advance 1))
    obtain ⟨run, session⟩ := wait_twice orderly 1 ms
    rw [Nat.add_comm] at run session
    rw [List.replicate_succ]
    refine ⟨?_, ?_, awaits⟩
    · rw [← session, Coordinator.session, seen]
      rfl
    · rw [← run, run_cons, ends]
      rfl

/-- A session is the same millisecond by millisecond. -/
theorem slowly_alike (orderly : c.Orderly) (ops : List Operation) :
    c.session (ops.flatMap Operation.slowly) = c.session ops ∧
      c.run (ops.flatMap Operation.slowly) = c.run ops ∧
      c.awaited (ops.flatMap Operation.slowly) = c.awaited ops := by
  induction ops generalizing c with
  | nil => exact ⟨rfl, rfl, rfl⟩
  | cons op rest ih =>
    have here : c.session op.slowly = c.session [op] ∧ c.run op.slowly = c.run [op] ∧
        c.awaited op.slowly = c.awaited [op] := by
      cases op with
      | advance ms => exact replicate_wait orderly ms
      | _ => exact ⟨rfl, rfl, rfl⟩
    obtain ⟨seen, ends, awaits⟩ := here
    obtain ⟨seen', ends', awaits'⟩ := ih (orderly.perform op)
    have next : c.run op.slowly = (c.perform op).2 := ends
    rw [List.flatMap_cons, session_append, run_append, awaited_append, next, seen, awaits, seen',
      ends', awaits']
    exact ⟨(session_append c [op] rest).symm, rfl, (awaited_append c [op] rest).symm⟩

/-! ## Twins through a session -/

theorem awaited?_check (c : Coordinator) (id : String) :
    c.awaited? (.check id) =
      if Text.isBlank id = false ∧ c.mesh.store.contains id = true then some id else none := by
  have needs : c.awaited? (.check id) =
      (c.timeline.checkConfig id).toOption.map fun _ => id := rfl
  have there : c.mesh.store.contains id = (c.timeline.mesh.store.find? id).isSome := rfl
  rw [needs, there, Timeline.checkConfig, Failure.requireText, Store.get, Failure.requireText]
  cases Text.isBlank id with
  | true => rfl
  | false => cases c.timeline.mesh.store.find? id <;> rfl

/-- A check that nobody waits for is refused at once. -/
theorem refused_of_spared (spared : c.awaited? (.check id) ≠ some id) :
    c.session [.check id] = [] ∧ (c.perform (.check id)).2 = c := by
  cases accepted : c.timeline.checkConfig id with
  | ok config =>
    rw [awaited?, accepted] at spared
    exact absurd rfl spared
  | error e =>
    have acts : c.acts (.operation (.check id)) = [] := by
      rw [Coordinator.acts, Timeline.checkActs, accepted]
    have beginning : c.beginning? (.check id) = none := by
      rw [beginning?, Timeline.beginningOfCheck?, accepted]
      rfl
    rw [session_singleton, ← acted_operation, acts, beginning]
    exact ⟨rfl, rfl⟩

namespace Twins

/-- The same checks are waited for. -/
theorem awaited?_eq (h : c.Twins id d) (op : Operation) : c.awaited? op = d.awaited? op := by
  cases op with
  | check other => rw [awaited?_check, awaited?_check, h.contains]
  | join handle => exact h.id_spawned?_eq handle
  | _ => rfl

/-- Twins stay twins through an operation, and show the same of all other ids. -/
theorem operation (h : c.Twins id d) (left : c.Orderly) (right : d.Orderly) {op : Operation}
    (unselected : ∀ name client draw, op ≠ .select name client draw)
    (spared : c.awaited? op ≠ some id) :
    Parallel id (c.session [op], (c.perform op).2) (d.session [op], (d.perform op).2) := by
  cases op with
  | advance ms => exact h.wait left right ms
  | check other =>
    by_cases own : other = id
    · subst own
      have spared' := h.awaited?_eq (.check other) ▸ spared
      obtain ⟨seen, stays⟩ := refused_of_spared spared
      obtain ⟨seen', stays'⟩ := refused_of_spared spared'
      rw [seen, stays, seen', stays']
      exact ⟨rfl, h⟩
    · have beginning : c.beginning? (.check other) = d.beginning? (.check other) := by
        rw [beginning?, h.beginningOfCheck?_eq own, h.begins_eq, beginning?]
      have rest := h.check left right own
      rw [session_singleton, session_singleton, ← acted_operation, ← acted_operation, beginning]
      refine ⟨?_, rest.twins⟩
      rw [besides_append, besides_append]
      exact congrArg _ rest.probes
  | join handle =>
    rw [session_singleton, session_singleton, ← acted_operation, ← acted_operation]
    exact h.join left right spared
  | _ => exact ⟨rfl, h.perform left.attached right.attached rfl unselected⟩

/-- A session without what it says about the probes of an id leaves twins, shows the same of all
other ids, and waits for the same checks. -/
theorem session (h : c.Twins id d) (left : c.Orderly) (right : d.Orderly) {ops : List Operation}
    (unselected : ∀ name client draw, .select name client draw ∉ ops)
    (spared : id ∉ c.awaited ops ∨ id ∉ d.awaited (ops.filter fun op => !op.scripts id)) :
    Parallel id (c.session ops, c.run ops)
      (d.session (ops.filter fun op => !op.scripts id),
        d.run (ops.filter fun op => !op.scripts id)) ∧
    c.awaited ops = d.awaited (ops.filter fun op => !op.scripts id) := by
  induction ops generalizing c d with
  | nil => exact ⟨⟨rfl, h⟩, rfl⟩
  | cons op rest ih =>
    have later : ∀ name client draw, .select name client draw ∉ rest :=
      fun name client draw member => unselected name client draw (List.mem_cons_of_mem op member)
    cases scripts : op.scripts id with
    | true =>
      have kept : ¬(!op.scripts id) = true := by simp [scripts]
      obtain ⟨change, rfl⟩ := Operation.scripts_eq_true_iff.mp scripts
      have step : (c.perform (.setTarget id change)).2.Twins id d :=
        (of_setTarget c id change).symm.trans h
      rw [List.filter_cons_of_neg (p := fun op : Operation => !op.scripts id) kept] at spared ⊢
      exact ih step (left.perform _) right later
        (spared.imp_left fun apart => (not_mem_awaited_cons.mp apart).2)
    | false =>
      have kept : (!op.scripts id) = true := by simp [scripts]
      have here : ∀ name client draw, op ≠ .select name client draw := by
        rintro name client draw rfl
        exact unselected name client draw List.mem_cons_self
      rw [List.filter_cons_of_pos (p := fun op : Operation => !op.scripts id) kept] at spared ⊢
      rw [not_mem_awaited_cons, not_mem_awaited_cons, ← h.awaited?_eq] at spared
      have apart : c.awaited? op ≠ some id := spared.elim And.left And.left
      have step := h.operation left right here apart
      obtain ⟨parts, awaits⟩ := ih step.twins (left.perform op) (right.perform op) later
        (spared.imp And.right And.right)
      rw [session_cons c op, session_cons d op]
      refine ⟨step.append parts, ?_⟩
      rw [awaited, awaited, h.awaited?_eq, awaits]

/-- The same can be read of all other ids. -/
theorem read (h : c.Twins id d) {other : String} (differ : other ≠ id) :
    c.status? other = d.status? other ∧ c.checks other = d.checks other ∧
      c.told other = d.told other := by
  have own := Share.ids_without differ
  refine ⟨?_, ?_, h.told other differ⟩
  · rw [status?, h.agree.mesh.store.find? own, status?]
  · exact congrArg Slot.history (h.agree.mesh.monitor.slots other own)

end Twins

/-! ## A hung probe disturbs nobody else -/

/-- Two sessions that differ only in what they say about the probes of an id, at whichever
millisecond they say it, probe all other ids at the same moments with the same outcomes, and leave
them with the same statuses, history and notices, as long as nobody waits for a check of that id or
asks for an instance of a name. -/
theorem hung_probes_disturb_nobody (config : Config) (id : String) (ops ops' : List Operation)
    (alike : Operation.unscripted id ops = Operation.unscripted id ops')
    (unselected : ∀ name client draw, .select name client draw ∉ ops)
    (spared : id ∉ (fresh config).awaited ops) :
    besides id ((fresh config).session ops) = besides id ((fresh config).session ops') ∧
      ∀ other, other ≠ id →
        ((fresh config).run ops).status? other = ((fresh config).run ops').status? other ∧
        ((fresh config).run ops).checks other = ((fresh config).run ops').checks other ∧
        ((fresh config).run ops).told other = ((fresh config).run ops').told other := by
  have orderly := orderly_fresh config
  obtain ⟨seen, ends, awaits⟩ := slowly_alike orderly ops
  obtain ⟨seen', ends', -⟩ := slowly_alike orderly ops'
  have slow : ∀ name client draw, .select name client draw ∉ ops.flatMap Operation.slowly :=
    fun name client draw member =>
      unselected name client draw (Operation.select_mem_slowly_iff.mp member)
  have slow' : ∀ name client draw, .select name client draw ∉ ops'.flatMap Operation.slowly := by
    intro name client draw member
    rw [Operation.select_mem_slowly_iff, ← Operation.select_mem_unscripted_iff id, ← alike,
      Operation.select_mem_unscripted_iff] at member
    exact unselected name client draw member
  obtain ⟨left, waits⟩ := (Twins.refl id (fresh config)).session orderly orderly slow
    (.inl (awaits ▸ spared))
  have spared' : id ∉ (fresh config).awaited (Operation.unscripted id ops') := by
    rw [← alike, Operation.unscripted, ← waits, awaits]
    exact spared
  obtain ⟨right, -⟩ := (Twins.refl id (fresh config)).session orderly orderly slow'
    (.inr spared')
  change Parallel id _ ((fresh config).session (Operation.unscripted id ops),
    (fresh config).run (Operation.unscripted id ops)) at left
  change Parallel id _ ((fresh config).session (Operation.unscripted id ops'),
    (fresh config).run (Operation.unscripted id ops')) at right
  rw [seen, ends, alike] at left
  rw [seen', ends'] at right
  exact ⟨left.probes.trans right.probes.symm,
    fun other differ => (left.twins.trans right.twins.symm).read differ⟩

/-- An instance is probed alike whether another one, which is checked meanwhile, hangs for a while
or answers at once. -/
theorem hung_probes_disturb_nobody_of_two :
    let register (id : String) : Operation :=
      .register { serviceName := "svc", id, endpoint := "127.0.0.1", port := 8080 }
    let watch (id : String) : Operation := .watch id (some { intervalMs := 40, timeoutMs := 10 })
    let hang (hanging : Bool) : Operation := .setTarget "a" fun t => { t with hanging }
    let start := [register "a", register "b", watch "a", watch "b", .start, .spawn "check" "a"]
    let hung := start ++ [hang true, .advance 30, hang false, .advance 20, .check "b"]
    let well := start ++ [.advance 50, .check "b"]
    (fresh {}).session hung ≠ (fresh {}).session well ∧
      (besides "a" ((fresh {}).session hung)).map Probing.time = [0, 0, 40, 40, 50, 50] ∧
      besides "a" ((fresh {}).session hung) = besides "a" ((fresh {}).session well) ∧
      ((fresh {}).run hung).checks "b" = ((fresh {}).run well).checks "b" := by
  intro register watch hang start hung well
  have alike : Operation.unscripted "a" hung = Operation.unscripted "a" well := by rfl
  have unselected : ∀ name client draw, .select name client draw ∉ hung := by
    simp [hung, start, register, watch, hang]
  have spared : "a" ∉ (fresh {}).awaited hung := by decide +kernel
  obtain ⟨probes, read⟩ := hung_probes_disturb_nobody {} "a" hung well alike unselected spared
  exact ⟨by decide +kernel, by decide +kernel, probes, (read "b" (by decide)).2.1⟩

end Coordinator

end ServiceMesh
