import ServiceMesh.Proofs.Coordinator.Twins

/-!
# Twins that wait

The jobs of a millisecond are done in an order that differs between twins, but only by jobs for
the id in which they differ: of the other jobs the first one is the same in both, wherever the jobs
for that id stand in between. So twins stay twins for a millisecond, and for as long as anybody
waits for a time or for a check of another id.
-/

namespace ServiceMesh

/-! ## Jobs -/

namespace Timeline

/-- What is done at the moment of a job. -/
def Job.step : Job → Act
  | .loop id => .loop id
  | .spawned k => .spawned k

/-- The acts while a caller waits for the probe of the latest check under a handle, if it has
one. -/
def probeActs (t : Timeline) (handle : String) : List Act :=
  match (t.spawned? handle).map SpawnedCheck.phase with
  | some (.probing probe _) => t.jobs (probe.ends + 1)
  | _ => []

/-- Whoever waits for a check lets it begin, and waits for its probe then. -/
theorem joinActs_eq {t : Timeline} {handle : String} (unknown : t.result? handle = none) :
    t.joinActs handle = t.jobs (t.now + 1) ++ (t.run (t.now + 1)).probeActs handle := by
  rw [joinActs, unknown]
  rfl

theorem jobActs_eq (t : Timeline) (w : Wake) :
    t.jobActs w = [.clock (max t.now w.time), w.job.step] := by
  rw [jobActs]
  cases w.job <;> rfl

end Timeline

namespace Coordinator

open Timeline (Wake)

variable {c d e c' d' : Coordinator} {id : String} {w : Wake} {limit : Nat}

/-- A job that is due by now is a step. -/
theorem did_eq (due : w.time ≤ c.timeline.now) :
    c.did w = c.act w.job.step ∧
      c.probings (c.timeline.jobActs w) = (c.probing? w.job.step).toList := by
  have clock : c.act (.clock (max c.timeline.now w.time)) = c := by
    rw [Nat.max_eq_left due]
    rfl
  rw [← acted_jobActs, Timeline.jobActs_eq, acted_cons, clock, probings, clock, probings]
  exact ⟨rfl, List.append_nil _⟩

/-- A step begins and ends probes of its own id only. -/
theorem id_of_probing? {p : Probing} {job : Timeline.Job}
    (seen : c.probing? job.step = some p) : p.id = job.id := by
  cases job with
  | loop id =>
    rcases Option.or_eq_some_iff.mp seen with begun | ⟨-, ended⟩
    · obtain ⟨probe, -, rfl⟩ := Option.map_eq_some_iff.mp begun
      rfl
    · obtain ⟨e, ending, rfl⟩ := Option.map_eq_some_iff.mp ended
      exact id_of_endingOfLoop? ending
  | spawned k =>
    rcases Option.or_eq_some_iff.mp seen with begun | ⟨-, ended⟩
    · obtain ⟨probe, -, rfl⟩ := Option.map_eq_some_iff.mp begun
      rfl
    · obtain ⟨e, ending, rfl⟩ := Option.map_eq_some_iff.mp ended
      exact id_of_ending? ending

/-! ## Two sessions side by side -/

/-- The probes of all other ids. -/
def besides (id : String) (probes : List Probing) : List Probing :=
  probes.filter fun p => p.id != id

theorem besides_append (id : String) (first second : List Probing) :
    besides id (first ++ second) = besides id first ++ besides id second :=
  List.filter_append ..

/-- Two sessions show the same of all ids but one, and leave twins. -/
structure Parallel (id : String) (x y : List Probing × Coordinator) : Prop where
  probes : besides id x.1 = besides id y.1
  twins : x.2.Twins id y.2

theorem Parallel.append {first second first' second' : List Probing}
    (before : Parallel id (first, c) (first', c'))
    (after : Parallel id (second, d) (second', d')) :
    Parallel id (first ++ second, d) (first' ++ second', d') := by
  refine ⟨?_, after.twins⟩
  rw [besides_append, besides_append, before.probes, after.probes]

namespace Twins

theorem loopWake?_eq (h : c.Twins id d) {other : String} (differ : other ≠ id) :
    c.timeline.loopWake? other = d.timeline.loopWake? other := by
  have live : c.timeline.mesh.monitor.loop? other = d.timeline.mesh.monitor.loop? other := by
    have watch := h.watch_eq differ
    exact congrArg (Option.bind · Watch.loop) watch
  rw [Timeline.loopWake?, live, h.clock, Timeline.loopWake?]

/-- The jobs for other ids are the same. -/
theorem wakes_eq (h : c.Twins id d) :
    (c.timeline.wakes.filter fun w => w.job.id != id) =
      d.timeline.wakes.filter fun w => w.job.id != id := by
  have keys : c.timeline.mesh.monitor.watches.keys = d.timeline.mesh.monitor.watches.keys :=
    h.monitor.keys
  have wake : c.timeline.spawnWake? = d.timeline.spawnWake? := by
    funext k
    rw [Timeline.spawnWake?, h.clock, Timeline.spawnWake?]
  rw [Timeline.filter_wakes, Timeline.filter_wakes, h.spawned_filter, wake, keys]
  congr 1
  apply List.filterMap_congr
  intro other member
  have differ : other ≠ id := bne_iff_ne.mp (List.mem_filter.mp member).2
  exact h.loopWake?_eq differ

/-- A job for the id is not seen. -/
theorem job_outside (orderly : c.Orderly) (there : w ∈ c.timeline.wakes)
    (due : w.time ≤ c.timeline.now) (own : w.job.id = id) :
    besides id (c.probings (c.timeline.jobActs w)) = [] ∧ c.Twins id (c.did w) := by
  obtain ⟨done, seen⟩ := did_eq due
  constructor
  · rw [seen, besides, List.filter_eq_nil_iff]
    intro p member
    have same := id_of_probing? (Option.mem_toList.mp member)
    rw [same, own, bne_self_eq_false]
    exact Bool.false_ne_true
  · rw [done]
    rcases Timeline.mem_wakes_iff.mp there with ⟨other, wake⟩ | ⟨k, member, wake⟩
    · obtain ⟨l, -, rfl⟩ := Option.map_eq_some_iff.mp wake
      cases own
      exact of_loop orderly.attached other
    · have unfinished := Timeline.unfinished_of_spawnWake? wake
      obtain ⟨time, -, rfl⟩ := Option.map_eq_some_iff.mp wake
      cases own
      exact of_spawned orderly member unfinished

/-- A job for another id is done alike. -/
theorem job (h : c.Twins id d) (left : c.mesh.Attached) (right : d.mesh.Attached)
    (due : w.time ≤ c.timeline.now) (differ : w.job.id ≠ id) :
    Parallel id (c.probings (c.timeline.jobActs w), c.did w)
      (d.probings (d.timeline.jobActs w), d.did w) := by
  have due' : w.time ≤ d.timeline.now := h.clock ▸ due
  obtain ⟨done, seen⟩ := did_eq due
  obtain ⟨done', seen'⟩ := did_eq due'
  rw [done, seen, done', seen']
  have stepped : c.probing? w.job.step = d.probing? w.job.step ∧
      (c.act w.job.step).Twins id (d.act w.job.step) := by
    cases job : w.job with
    | loop other =>
      rw [job] at differ
      exact h.loop left right differ
    | spawned k =>
      rw [job] at differ
      exact h.spawnedCheck left right differ
  exact ⟨by rw [stepped.1], stepped.2⟩

end Twins

/-! ## A millisecond -/

/-- The next job of either of two twins is one for the id, or they have the same, if they have
any. -/
theorem Twins.next?_cases (h : c.Twins id d) (limit : Nat) :
    (∃ w, c.timeline.next? limit = some w ∧ w.job.id = id) ∨
    (∃ w, d.timeline.next? limit = some w ∧ w.job.id = id) ∨
    c.timeline.next? limit = d.timeline.next? limit ∧
      ∀ w, c.timeline.next? limit = some w → w.job.id ≠ id := by
  by_cases own : ∃ w, c.timeline.next? limit = some w ∧ w.job.id = id
  · exact .inl own
  by_cases own' : ∃ w, d.timeline.next? limit = some w ∧ w.job.id = id
  · exact .inr (.inl own')
  have others : ∀ w, c.timeline.next? limit = some w → w.job.id ≠ id :=
    fun w next same => own ⟨w, next, same⟩
  have others' : ∀ w, d.timeline.next? limit = some w → w.job.id ≠ id :=
    fun w next same => own' ⟨w, next, same⟩
  refine .inr (.inr ⟨?_, others⟩)
  rw [Timeline.next?_besides others, Timeline.next?_besides others', h.wakes_eq]

/-- What the jobs of a run begin and end. -/
theorem probings_jobs_of_some (orderly : c.Orderly) (next : c.timeline.next? limit = some w) :
    c.probings (c.timeline.jobs limit) =
      c.probings (c.timeline.jobActs w) ++ (c.did w).probings ((c.did w).timeline.jobs limit) := by
  rw [(ran_of_some orderly next).1, probings_append, acted_jobActs]

/-- A job for the id is as if it was not next. -/
theorem Twins.ran_outside (orderly : c.Orderly) (next : c.timeline.next? limit = some w)
    (due : w.time ≤ c.timeline.now) (own : w.job.id = id) :
    besides id (c.probings (c.timeline.jobs limit)) =
      besides id ((c.did w).probings ((c.did w).timeline.jobs limit)) ∧
    c.ran limit = (c.did w).ran limit := by
  have quiet := (job_outside orderly (Timeline.mem_of_next? next).1 due own).1
  rw [probings_jobs_of_some orderly next, besides_append, quiet, List.nil_append]
  exact ⟨rfl, (ran_of_some orderly next).2⟩

/-- Twins stay twins while the jobs of a millisecond are done, in whichever order. -/
theorem Twins.ran (h : c.Twins id d) (left : c.Orderly) (right : d.Orderly)
    (soon : limit ≤ c.timeline.now + 1) :
    Parallel id (c.probings (c.timeline.jobs limit), c.ran limit)
      (d.probings (d.timeline.jobs limit), d.ran limit) := by
  -- each job leaves less to do for one of the two, or for both
  induction size : c.timeline.left limit + d.timeline.left limit using Nat.strong_induction_on
    generalizing c d with
  | _ n ih =>
    have soon' : limit ≤ d.timeline.now + 1 := h.clock ▸ soon
    rcases h.next?_cases limit with
      ⟨w, next, own⟩ | ⟨w, next, own⟩ | ⟨same, others⟩
    · obtain ⟨there, before⟩ := Timeline.mem_of_next? next
      have due : w.time ≤ c.timeline.now := by omega
      have less := left_did_lt left next
      have step := (job_outside left there due own).2
      obtain ⟨seen, ran⟩ := ran_outside left next due own
      have rest := ih _ (by omega) (step.symm.trans h) (left.did w) right (step.clock ▸ soon) rfl
      rw [ran]
      exact ⟨seen.trans rest.probes, rest.twins⟩
    · obtain ⟨there, before⟩ := Timeline.mem_of_next? next
      have due : w.time ≤ d.timeline.now := by omega
      have less := left_did_lt right next
      have step := (job_outside right there due own).2
      obtain ⟨seen, ran⟩ := ran_outside right next due own
      have rest := ih _ (by omega) (h.trans step) left (right.did w) soon rfl
      rw [ran]
      exact ⟨rest.probes.trans seen.symm, rest.twins⟩
    · cases next : c.timeline.next? limit with
      | none =>
        obtain ⟨idle, stays⟩ := ran_of_none left next
        obtain ⟨idle', stays'⟩ := ran_of_none right (same.symm.trans next)
        rw [idle, idle', stays, stays']
        exact ⟨rfl, h⟩
      | some w =>
        have next' : d.timeline.next? limit = some w := same.symm.trans next
        have before := (Timeline.mem_of_next? next).2
        have due : w.time ≤ c.timeline.now := by omega
        have less := left_did_lt left next
        have less' := left_did_lt right next'
        have step := h.job left.attached right.attached due (others w next)
        have twins : (c.did w).Twins id (d.did w) := step.twins
        have clock : (c.did w).timeline.now = c.timeline.now := by
          rw [did, Timeline.now_perform, Nat.max_eq_left due]
        have rest := ih _ (by omega) twins (left.did w) (right.did w) (clock.symm ▸ soon) rfl
        rw [probings_jobs_of_some left next, probings_jobs_of_some right next',
          (ran_of_some left next).2, (ran_of_some right next').2]
        exact step.append rest

/-! ## Waiting -/

namespace Twins

theorem waitOnce (h : c.Twins id d) (left : c.Orderly) (right : d.Orderly) :
    Parallel id (c.session [.advance 1], (c.perform (.advance 1)).2)
      (d.session [.advance 1], (d.perform (.advance 1)).2) := by
  have step := h.ran left right (Nat.le_refl _)
  rw [session_advance c Nat.one_ne_zero, session_advance d Nat.one_ne_zero,
    perform_advance c Nat.one_ne_zero, perform_advance d Nat.one_ne_zero, ← h.clock]
  exact ⟨step.probes, step.twins.setClock _⟩

/-- Twins stay twins while their callers wait for a time. -/
theorem wait (h : c.Twins id d) (left : c.Orderly) (right : d.Orderly) (ms : Nat) :
    Parallel id (c.session [.advance ms], (c.perform (.advance ms)).2)
      (d.session [.advance ms], (d.perform (.advance ms)).2) := by
  induction ms generalizing c d with
  | zero => exact ⟨rfl, h⟩
  | succ ms ih =>
    have once := h.waitOnce left right
    have rest := ih once.twins (left.perform _) (right.perform _)
    have parts : ∀ c : Coordinator, c.Orderly →
        c.session [.advance (ms + 1)] =
          c.session [.advance 1] ++ (c.perform (.advance 1)).2.session [.advance ms] ∧
        (c.perform (.advance (ms + 1))).2 =
          ((c.perform (.advance 1)).2.perform (.advance ms)).2 := by
      intro c orderly
      obtain ⟨run, seen⟩ := wait_twice orderly 1 ms
      rw [Nat.add_comm] at run seen
      exact ⟨seen.symm.trans (session_append c [.advance 1] [.advance ms]), run.symm⟩
    rw [(parts c left).1, (parts c left).2, (parts d right).1, (parts d right).2]
    exact once.append rest

/-- Twins stay twins while their callers wait for a check of another id. -/
theorem check (h : c.Twins id d) (left : c.Orderly) (right : d.Orderly) {other : String}
    (differ : other ≠ id) :
    Parallel id (c.probings (c.timeline.checkActs other), c.acted (c.timeline.checkActs other))
      (d.probings (d.timeline.checkActs other), d.acted (d.timeline.checkActs other)) := by
  have needs : c.timeline.checkConfig other = d.timeline.checkConfig other :=
    h.agree.timeline.checkConfig (Share.ids_without differ)
  cases accepted : c.timeline.checkConfig other with
  | error =>
    rw [Timeline.checkActs, Timeline.checkActs, ← needs, accepted]
    exact ⟨rfl, h⟩
  | ok config =>
    have called : (c.perform (.setTarget other Target.called)).2.Twins id
        (d.perform (.setTarget other Target.called)).2 :=
      h.perform left.attached right.attached rfl (by simp)
    have left' := left.perform (.setTarget other Target.called)
    have right' := right.perform (.setTarget other Target.called)
    obtain ⟨seen, node⟩ := wait_for_check accepted rfl rfl rfl
    obtain ⟨seen', node'⟩ := wait_for_check (needs ▸ accepted)
      (h.beginProbe_eq differ config).symm rfl rfl
    rw [seen, node, seen', node', ← h.clock]
    have waited := called.wait left' right'
      ((c.timeline.beginProbe other config).1.ends - c.timeline.now)
    have ended := waited.twins.finish (left'.perform _).attached (right'.perform _).attached differ
      (c.timeline.beginProbe other config).1 config
    exact waited.append ⟨by rw [ended.1], ended.2⟩

/-! ### Waiting for a spawned check -/

/-- The latest check under a handle is the same, but for where it stands if it is of the id. -/
theorem hushed_spawned? (h : c.Twins id d) (handle : String) :
    (c.timeline.spawned? handle).map (SpawnedCheck.hushed id) =
      (d.timeline.spawned? handle).map (SpawnedCheck.hushed id) := by
  have commutes : ∀ t : Timeline, (t.spawned? handle).map (SpawnedCheck.hushed id) =
      ((t.spawned.map (SpawnedCheck.hushed id)).filter (·.handle == handle)).getLast? := by
    intro t
    rw [List.filter_map, List.getLast?_map, Timeline.spawned?]
    congr 3
    funext k
    rw [Function.comp_apply, SpawnedCheck.hushed]
    split <;> rfl
  rw [commutes, commutes, h.spawned]

theorem id_hushed (id : String) (k : SpawnedCheck) : (k.hushed id).id = k.id := by
  rw [SpawnedCheck.hushed]
  split <;> rfl

/-- The id of the latest check under a handle is the same. -/
theorem id_spawned?_eq (h : c.Twins id d) (handle : String) :
    (c.timeline.spawned? handle).map SpawnedCheck.id =
      (d.timeline.spawned? handle).map SpawnedCheck.id := by
  have same := congrArg (Option.map SpawnedCheck.id) (h.hushed_spawned? handle)
  rw [Option.map_map, Option.map_map] at same
  have read : SpawnedCheck.id ∘ SpawnedCheck.hushed id = SpawnedCheck.id := funext (id_hushed id)
  rwa [read] at same

/-- The latest check under a handle is the same, if it is of another id. -/
theorem spawned?_eq (h : c.Twins id d) {handle : String}
    (spared : (c.timeline.spawned? handle).map SpawnedCheck.id ≠ some id) :
    c.timeline.spawned? handle = d.timeline.spawned? handle := by
  have read : ∀ {k : SpawnedCheck}, k.id ≠ id → k.hushed id = k := fun differ => if_neg differ
  have same := h.hushed_spawned? handle
  have ids := h.id_spawned?_eq handle
  cases found : c.timeline.spawned? handle with
  | none =>
    rw [found] at same
    exact (Option.map_eq_none_iff.mp same.symm).symm
  | some k =>
    cases found' : d.timeline.spawned? handle with
    | none =>
      rw [found, found'] at same
      cases same
    | some k' =>
      rw [found, found'] at same ids
      rw [found] at spared
      have differ : k.id ≠ id := fun own => spared (congrArg some own)
      have differ' : k'.id ≠ id := Option.some.inj ids ▸ differ
      rw [Option.map_some, Option.map_some, read differ, read differ'] at same
      exact same

/-- Twins stay twins while their callers wait for a probe of a spawned check of another id. -/
theorem awaitProbe (h : c.Twins id d) (left : c.Orderly) (right : d.Orderly) {k : SpawnedCheck}
    {probe : Probe} {config : HealthConfig} (there : k ∈ c.timeline.spawned)
    (phase : k.phase = .probing probe config) (differ : k.id ≠ id)
    (goes : c.timeline.now < probe.ends) :
    Parallel id (c.probings (c.timeline.jobs (probe.ends + 1)), c.ran (probe.ends + 1))
      (d.probings (d.timeline.jobs (probe.ends + 1)), d.ran (probe.ends + 1)) := by
  have there' : k ∈ d.timeline.spawned := by
    have kept : (k.id != id) = true := bne_iff_ne.mpr differ
    have member : k ∈ c.timeline.spawned.filter fun k => k.id != id :=
      List.mem_filter.mpr ⟨there, kept⟩
    rw [h.spawned_filter] at member
    exact List.mem_of_mem_filter member
  obtain ⟨seen, ran⟩ := wait_for_probe left there phase goes rfl
  obtain ⟨seen', ran'⟩ := wait_for_probe right there' phase (h.clock ▸ goes) rfl
  have waited := h.wait left right (probe.ends - c.timeline.now)
  have reached : (c.perform (.advance (probe.ends - c.timeline.now))).2.timeline.now =
      probe.ends := by
    rw [perform_advance c (by omega)]
    change c.timeline.now + (probe.ends - c.timeline.now) = probe.ends
    omega
  rw [← h.clock] at seen' ran'
  rw [seen, ran, seen', ran']
  exact waited.append
    (waited.twins.ran (left.perform _) (right.perform _) (Nat.succ_le_succ reached.ge))

/-- If nothing is due any more, twins stay twins while their callers wait for the probe of a
spawned check of another id. -/
theorem probeActs (h : c.Twins id d) (left : c.Orderly) (right : d.Orderly) {handle : String}
    (spared : (c.timeline.spawned? handle).map SpawnedCheck.id ≠ some id)
    (goes : c.timeline.now < limit) (idle : c.timeline.next? limit = none) :
    Parallel id
      (c.probings (c.timeline.probeActs handle), c.acted (c.timeline.probeActs handle))
      (d.probings (d.timeline.probeActs handle), d.acted (d.timeline.probeActs handle)) := by
  rw [Timeline.probeActs, Timeline.probeActs, ← h.spawned?_eq spared]
  cases found : c.timeline.spawned? handle with
  | none => exact ⟨rfl, h⟩
  | some k =>
    have listed : k ∈ c.timeline.spawned :=
      List.mem_of_mem_filter (List.mem_of_getLast? found)
    have differ : k.id ≠ id := by
      rw [found] at spared
      exact fun own => spared (congrArg some own)
    cases phase : k.phase with
    | fresh | finished =>
      rw [Option.map_some, phase]
      exact ⟨rfl, h⟩
    | probing probe config =>
      have wake : c.timeline.spawnWake? k = some ⟨probe.ends, k.serial, .spawned k⟩ := by
        rw [Timeline.spawnWake?, Timeline.wakeOfSpawned?, phase]
        rfl
      have late : limit ≤ probe.ends :=
        Timeline.le_of_next?_eq_none idle (Timeline.mem_wakes_iff.mpr (.inr ⟨k, listed, wake⟩))
      have awaited := h.awaitProbe left right listed phase differ (goes.trans_le late)
      rw [← acted_jobs, ← acted_jobs] at awaited
      rw [Option.map_some, phase]
      exact awaited

/-- Twins stay twins while their callers wait for a spawned check of another id. -/
theorem join (h : c.Twins id d) (left : c.Orderly) (right : d.Orderly) {handle : String}
    (spared : (c.timeline.spawned? handle).map SpawnedCheck.id ≠ some id) :
    Parallel id (c.probings (c.timeline.joinActs handle), c.acted (c.timeline.joinActs handle))
      (d.probings (d.timeline.joinActs handle), d.acted (d.timeline.joinActs handle)) := by
  have result : c.timeline.result? handle = d.timeline.result? handle := by
    rw [Timeline.result?, h.spawned?_eq spared, Timeline.result?]
  cases known : c.timeline.result? handle with
  | some =>
    rw [Timeline.joinActs, Timeline.joinActs, ← result, known]
    exact ⟨rfl, h⟩
  | none =>
    have now : c.timeline.now < c.timeline.now + 1 := Nat.lt_succ_self _
    have begun := h.ran left right (Nat.le_refl _)
    have left' : (c.ran (c.timeline.now + 1)).Orderly := c.acted_jobs _ ▸ left.acted _
    have right' : (d.ran (c.timeline.now + 1)).Orderly := d.acted_jobs _ ▸ right.acted _
    have spared' : ((c.ran (c.timeline.now + 1)).timeline.spawned? handle).map SpawnedCheck.id ≠
        some id := by
      rw [id_spawned?, labels_ran left, ← id_spawned?]
      exact spared
    have rest := begun.twins.probeActs left' right' spared' (now_ran_lt left now)
      (ran_preserves (P := fun _ => True) left trivial fun _ _ _ _ _ => trivial).2
    rw [Timeline.joinActs_eq known, Timeline.joinActs_eq (result.symm.trans known), ← h.clock,
      probings_append, acted_append, probings_append, acted_append, acted_jobs, acted_jobs]
    exact begun.append rest

end Twins

end Coordinator

end ServiceMesh
