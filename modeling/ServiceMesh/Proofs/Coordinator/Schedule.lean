import Mathlib.Algebra.Order.BigOperators.Group.List
import Mathlib.Data.List.Sort
import ServiceMesh.Proofs.Coordinator.Orderly

/-!
# The schedule

A run does the jobs that are due before a limit, one after the other, and is given a number of
jobs that it may do at most. The number is always enough: every job leaves less to do. So what a
run does is told by its first job and the rest of the run, without any number, and waiting twice is
waiting once for both times.
-/

namespace ServiceMesh

namespace Table

variable {α β : Type}

/-- The entries of a table stand in the order of its keys. -/
theorem toList_eq (t : Table α) :
    t.toList = t.keys.filterMap fun key => (t[key]?).map fun value => (key, value) := by
  rw [← Std.ExtTreeMap.map_fst_toList_eq_keys, List.filterMap_map]
  symm
  rw [List.filterMap_congr (g := some), List.filterMap_some]
  intro entry listed
  rw [Function.comp_apply, Std.ExtTreeMap.mem_toList_iff_getElem?_eq_some.mp listed]
  rfl

/-- Tables that have values for the same keys list the same keys. -/
theorem keys_eq {t : Table α} {u : Table β}
    (same : ∀ key : String, (t[key]?).isSome = (u[key]?).isSome) : t.keys = u.keys := by
  apply t.keys_ascend.eq_of_mem_iff u.keys_ascend
  intro key
  rw [mem_keys_iff, mem_keys_iff, ← Option.isSome_iff_exists, ← Option.isSome_iff_exists, same]

end Table

/-- The jobs that a spawned check in a phase still has. -/
def SpawnPhase.left : SpawnPhase → Nat
  | .fresh => 2
  | .probing .. => 1
  | .finished _ => 0

private theorem SpawnPhase.left_le_two (phase : SpawnPhase) : phase.left ≤ 2 := by
  cases phase <;> simp [left]

/-- The jobs that a spawned check still has. -/
def SpawnedCheck.left (k : SpawnedCheck) : Nat := k.phase.left

theorem eq_nil_of_firstLeast?_eq_none {α : Type} {before : α → α → Bool} {xs : List α}
    (absent : firstLeast? before xs = none) : xs = [] := by
  by_contra listed
  have least : (firstLeast? before xs).isSome = true := firstLeast?_isSome listed
  rw [absent] at least
  cases least

/-- The first of the least elements is the first of the least among some of them, if it is one of
these. -/
theorem firstLeast?_filter {α : Type} {before : α → α → Bool}
    (asymm : ∀ x y, before x y = true → before y x = false)
    (trans : ∀ x y z, before x y = false → before y z = false → before x z = false)
    {p : α → Bool} {xs : List α} {x : α} (first : firstLeast? before xs = some x)
    (own : p x = true) : firstLeast? before (xs.filter p) = some x := by
  induction xs generalizing x with
  | nil => cases first
  | cons y rest ih =>
    rw [firstLeast?] at first
    cases found : firstLeast? before rest with
    | none =>
      rw [found] at first
      cases first
      rw [eq_nil_of_firstLeast?_eq_none found, List.filter_cons_of_pos own]
      rfl
    | some z =>
      rw [found] at first
      simp only at first
      split at first
      case isTrue less =>
        cases first
        have least := ih found own
        by_cases kept : p y = true
        · rw [List.filter_cons_of_pos kept, firstLeast?, least]
          simp only
          rw [if_pos less]
        · rw [List.filter_cons_of_neg kept, least]
      case isFalse greater =>
        cases first
        rw [List.filter_cons_of_pos own, firstLeast?]
        cases least : firstLeast? before (rest.filter p) with
        | none => rfl
        | some z' =>
          have member : z' ∈ rest := List.mem_of_mem_filter (firstLeast?_mem least)
          have late := not_before_firstLeast? asymm trans found z' member
          have order := trans z' z y late (Bool.eq_false_iff.mpr greater)
          simp only
          rw [order]
          rfl

namespace Timeline

/-! ## Jobs -/

/-- The id that a job is done for. -/
def Job.id : Job → String
  | .loop id => id
  | .spawned k => k.id

/-- When the loop of an id is to be woken, if it has one. -/
def loopWake? (t : Timeline) (id : String) : Option Wake :=
  (t.mesh.monitor.loop? id).map fun l => ⟨wakeOfLoop t.now l, l.serial, .loop id⟩

/-- When a spawned check is to be woken, if it is not finished. -/
def spawnWake? (t : Timeline) (k : SpawnedCheck) : Option Wake :=
  (wakeOfSpawned? t.now k).map fun time => ⟨time, k.serial, .spawned k⟩

variable {t : Timeline} {w : Wake} {limit : Nat}

theorem wakes_eq (t : Timeline) :
    t.wakes = t.mesh.monitor.watches.keys.filterMap t.loopWake? ++
      t.spawned.filterMap t.spawnWake? := by
  rw [wakes, Table.toList_eq, List.filterMap_filterMap]
  congr 1
  apply List.filterMap_congr
  intro id _
  rw [loopWake?, Monitor.loop?]
  cases t.mesh.monitor.watches[id]? <;> rfl

/-- The jobs for other ids are the jobs of their loops and their spawned checks. -/
theorem filter_wakes (t : Timeline) (id : String) :
    (t.wakes.filter fun w => w.job.id != id) =
      (t.mesh.monitor.watches.keys.filter fun other => other != id).filterMap t.loopWake? ++
        (t.spawned.filter fun k => k.id != id).filterMap t.spawnWake? := by
  rw [wakes_eq, List.filter_append, List.filter_filterMap, List.filter_filterMap,
    List.filterMap_filter, List.filterMap_filter]
  congr 1
  · apply List.filterMap_congr
    intro other _
    rw [loopWake?]
    cases t.mesh.monitor.loop? other with
    | none => simp
    | some l => by_cases own : other = id <;> simp [own, Job.id]
  · apply List.filterMap_congr
    intro k _
    rw [spawnWake?]
    cases wakeOfSpawned? t.now k with
    | none => simp
    | some time => by_cases own : k.id = id <;> simp [own, Job.id]

theorem mem_wakes_iff :
    w ∈ t.wakes ↔ (∃ id, t.loopWake? id = some w) ∨ ∃ k ∈ t.spawned, t.spawnWake? k = some w := by
  rw [wakes_eq, List.mem_append, List.mem_filterMap, List.mem_filterMap]
  constructor
  · rintro (⟨id, -, wake⟩ | spawned)
    · exact .inl ⟨id, wake⟩
    · exact .inr spawned
  · rintro (⟨id, wake⟩ | spawned)
    · obtain ⟨l, live, -⟩ := Option.map_eq_some_iff.mp wake
      obtain ⟨watch, watched, -⟩ := Monitor.loop?_eq_some_iff.mp live
      exact .inl ⟨id, Table.mem_keys_iff.mpr ⟨watch, watched⟩, wake⟩
    · exact .inr spawned

private theorem before_asymm (x y : Wake) (h : x.before y = true) : y.before x = false := by
  simp only [Wake.before, Bool.or_eq_true, Bool.and_eq_true, decide_eq_true_eq, beq_iff_eq,
    Bool.or_eq_false_iff, Bool.and_eq_false_iff, decide_eq_false_iff_not,
    beq_eq_false_iff_ne] at h ⊢
  omega

private theorem not_before_trans (x y z : Wake) (h : x.before y = false) (h' : y.before z = false) :
    x.before z = false := by
  simp only [Wake.before, Bool.or_eq_false_iff, Bool.and_eq_false_iff, decide_eq_false_iff_not,
    beq_eq_false_iff_ne] at h h' ⊢
  omega

theorem not_before_first {w' : Wake} (first : firstLeast? Wake.before t.wakes = some w)
    (there : w' ∈ t.wakes) : w'.before w = false :=
  not_before_firstLeast? before_asymm not_before_trans first w' there

/-- The next job is the next of some jobs, if it is one of these. -/
theorem next?_filter {p : Wake → Bool} (next : t.next? limit = some w) (own : p w = true) :
    firstLeast? Wake.before (t.wakes.filter p) = some w := by
  rw [next?, Option.filter_eq_some_iff] at next
  exact firstLeast?_filter before_asymm not_before_trans next.1 own

theorem mem_of_next? (next : t.next? limit = some w) : w ∈ t.wakes ∧ w.time < limit := by
  rw [next?, Option.filter_eq_some_iff] at next
  exact ⟨firstLeast?_mem next.1, of_decide_eq_true next.2⟩

/-- If no job is next, none is due. -/
theorem le_of_next?_eq_none (idle : t.next? limit = none) (there : w ∈ t.wakes) :
    limit ≤ w.time := by
  have found : (firstLeast? Wake.before t.wakes).isSome = true :=
    firstLeast?_isSome (List.ne_nil_of_mem there)
  obtain ⟨first, least⟩ := Option.isSome_iff_exists.mp found
  have late : limit ≤ first.time := by simpa [next?, least] using idle
  have order := not_before_first least there
  simp only [Wake.before, Bool.or_eq_false_iff, decide_eq_false_iff_not] at order
  omega

/-- If the next job is none for an id, it is the next of the jobs for other ids. -/
theorem next?_besides {id : String} (others : ∀ w, t.next? limit = some w → w.job.id ≠ id) :
    t.next? limit =
      (firstLeast? Wake.before (t.wakes.filter fun w => w.job.id != id)).filter fun w =>
        w.time < limit := by
  cases next : t.next? limit with
  | some w =>
    have kept : (w.job.id != id) = true := bne_iff_ne.mpr (others w next)
    have due : decide (w.time < limit) = true := decide_eq_true (mem_of_next? next).2
    rw [next?_filter (p := fun w => w.job.id != id) next kept, Option.filter_some, if_pos due]
  | none =>
    symm
    rw [Option.filter_eq_none_iff]
    intro w first due
    have listed : w ∈ t.wakes := List.mem_of_mem_filter (firstLeast?_mem first)
    exact absurd (of_decide_eq_true due) (le_of_next?_eq_none next listed).not_gt

/-! ## What is left to do -/

/-- A bound on the jobs of the loop of an id before a limit. -/
def loopLeft (t : Timeline) (limit : Nat) (id : String) : Nat :=
  (t.mesh.monitor.watches[id]?).elim 0 (Watch.work t.now limit)

/-- A bound on the jobs before a limit that counts those that spawned checks still have. -/
def left (t : Timeline) (limit : Nat) : Nat :=
  (t.mesh.monitor.watches.keys.map (t.loopLeft limit)).sum +
    (t.spawned.map SpawnedCheck.left).sum

theorem left_le_work (t : Timeline) (limit : Nat) : t.left limit ≤ t.work limit := by
  have loops : ∀ (values : List Watch) (rest : Nat),
      values.foldr (fun w n => Watch.work t.now limit w + n) rest =
        (values.map (Watch.work t.now limit)).sum + rest := by
    intro values rest
    induction values with
    | nil => exact (Nat.zero_add rest).symm
    | cons w others ih => rw [List.foldr_cons, ih, List.map_cons, List.sum_cons, Nat.add_assoc]
  have keyed : (t.mesh.monitor.watches.values.map (Watch.work t.now limit)).sum =
      (t.mesh.monitor.watches.keys.map (t.loopLeft limit)).sum := by
    rw [Table.values_eq, ← Std.ExtTreeMap.map_fst_toList_eq_keys, List.map_map, List.map_map]
    congr 1
    apply List.map_congr_left
    intro entry listed
    rw [Function.comp_apply, Function.comp_apply, loopLeft,
      Std.ExtTreeMap.mem_toList_iff_getElem?_eq_some.mp listed]
    rfl
  have checks : (t.spawned.map SpawnedCheck.left).sum ≤ 2 * t.spawned.length := by
    induction t.spawned with
    | nil => exact Nat.le_refl _
    | cons k rest ih =>
      have own : k.left ≤ 2 := k.phase.left_le_two
      rw [List.map_cons, List.sum_cons, List.length_cons]
      omega
  rw [left, work, loops, keyed]
  omega

/-- Less is left to do later. -/
theorem work_le_work {now later : Nat} (goes : now ≤ later) (limit : Nat) (w : Watch) :
    Watch.work later limit w ≤ Watch.work now limit w := by
  unfold Watch.work
  split
  · exact Nat.le_refl _
  · unfold Phase.work
    split <;> omega

/-- A step of a loop that is due leaves it less to do. -/
theorem work_stepped_lt {now limit : Nat} {config : HealthConfig} {l : Loop}
    (paced : 0 < config.intervalMs.toNat) (due : wakeOfLoop now l < limit) (id : String)
    (same : t.now = max now (wakeOfLoop now l)) :
    Watch.work t.now limit (t.stepped id { config, loop := some l }) <
      Watch.work now limit { config, loop := some l } := by
  obtain ⟨serial, phase⟩ := l
  cases phase with
  | fresh =>
    have later : t.now < nextDue config.intervalMs.toNat t.now t.now := lt_nextDue paced
    simp only [wakeOfLoop, stepped, nextPhase, Watch.work, Phase.work, Option.map_some] at *
    omega
  | waiting next =>
    have later : next < nextDue config.intervalMs.toNat next t.now := lt_nextDue paced
    simp only [wakeOfLoop, stepped, nextPhase, Watch.work, Phase.work, Option.map_some] at *
    omega
  | probing probe next =>
    simp only [wakeOfLoop, stepped, nextPhase, Watch.work, Phase.work, Option.map_some] at *
    omega

theorem loopLeft_setClock_le {later : Nat} (goes : t.now ≤ later) (limit : Nat) (id : String) :
    ({ t with now := later } : Timeline).loopLeft limit id ≤ t.loopLeft limit id := by
  rw [loopLeft, loopLeft]
  change (t.mesh.monitor.watches[id]?).elim 0 (Watch.work later limit) ≤ _
  cases t.mesh.monitor.watches[id]? with
  | none => exact Nat.le_refl _
  | some w => exact work_le_work goes limit w

theorem loopLeft_stepLoop_self {id : String} {watch : Watch} (attached : t.mesh.Attached)
    (watched : t.mesh.monitor.watches[id]? = some watch) (limit : Nat) :
    (t.stepLoop id).loopLeft limit id = Watch.work t.now limit (t.stepped id watch) := by
  rw [loopLeft, getElem?_watches_stepLoop attached, if_pos rfl, watched, now_stepLoop]
  rfl

theorem loopLeft_stepLoop_ne {id other : String} (attached : t.mesh.Attached) (differ : id ≠ other)
    (limit : Nat) : (t.stepLoop id).loopLeft limit other = t.loopLeft limit other := by
  rw [loopLeft, getElem?_watches_stepLoop attached, if_neg differ, now_stepLoop, loopLeft]

/-- What is left to do of loops and of spawned checks. -/
theorem left_lt_left {t next : Timeline} {limit : Nat} (keys : next.mesh.monitor.watches.keys =
      t.mesh.monitor.watches.keys)
    (loops : ∀ id, next.loopLeft limit id ≤ t.loopLeft limit id)
    (checks : (next.spawned.map SpawnedCheck.left).sum ≤
      (t.spawned.map SpawnedCheck.left).sum)
    (less : (∃ id ∈ t.mesh.monitor.watches.keys, next.loopLeft limit id < t.loopLeft limit id) ∨
      (next.spawned.map SpawnedCheck.left).sum <
        (t.spawned.map SpawnedCheck.left).sum) :
    next.left limit < t.left limit := by
  have all : (t.mesh.monitor.watches.keys.map (next.loopLeft limit)).sum ≤
      (t.mesh.monitor.watches.keys.map (t.loopLeft limit)).sum :=
    List.sum_le_sum fun id _ => loops id
  rw [left, left, keys]
  rcases less with one | less
  · have fewer : (t.mesh.monitor.watches.keys.map (next.loopLeft limit)).sum <
        (t.mesh.monitor.watches.keys.map (t.loopLeft limit)).sum :=
      List.sum_lt_sum _ _ (fun id _ => loops id) one
    omega
  · omega

/-- A step of a loop that is due leaves less to do. -/
theorem left_stepLoop_lt {limit : Nat} {id : String} {w : Wake} (attached : t.mesh.Attached)
    (paced : t.mesh.monitor.Paced) (wake : t.loopWake? id = some w) (due : w.time < limit) :
    ({ t with now := max t.now w.time }.stepLoop id).left limit < t.left limit := by
  obtain ⟨l, live, rfl⟩ := Option.map_eq_some_iff.mp wake
  obtain ⟨⟨config, loop⟩, watched, rfl⟩ := Monitor.loop?_eq_some_iff.mp live
  generalize same : max t.now (wakeOfLoop t.now l) = later
  have goes : t.now ≤ later := same ▸ Nat.le_max_left _ _
  have interval := paced id config (by rw [Monitor.settings?, watched]; rfl)
  have less : ({ t with now := later }.stepLoop id).loopLeft limit id < t.loopLeft limit id := by
    rw [loopLeft_stepLoop_self (t := { t with now := later }) attached watched, loopLeft, watched]
    exact work_stepped_lt (t := { t with now := later }) interval due id same.symm
  refine left_lt_left ?_ ?_ ?_ (.inl ⟨id, Table.mem_keys_iff.mpr ⟨_, watched⟩, less⟩)
  · apply Table.keys_eq
    intro other
    rw [getElem?_watches_stepLoop (t := { t with now := later }) attached]
    split
    · rw [Option.isSome_map]
    · rfl
  · intro other
    by_cases self : id = other
    · subst self
      exact less.le
    · rw [loopLeft_stepLoop_ne (t := { t with now := later }) attached self]
      exact loopLeft_setClock_le goes limit other
  · rw [spawned_stepLoop]

theorem unfinished_of_spawnWake? {k : SpawnedCheck} (wake : t.spawnWake? k = some w)
    (result : Except Failure Status) : k.phase ≠ .finished result := by
  intro finished
  rw [spawnWake?, wakeOfSpawned?, finished] at wake
  cases wake

theorem left_nextSpawnPhase_lt (t : Timeline) {k : SpawnedCheck}
    (unfinished : ∀ result, k.phase ≠ .finished result) :
    (t.nextSpawnPhase k).left < k.left := by
  unfold nextSpawnPhase SpawnedCheck.left
  split
  case h_1 phase =>
    rw [phase]
    split <;> simp [SpawnPhase.left]
  case h_2 phase =>
    rw [phase]
    exact Nat.zero_lt_one
  case h_3 result finished => exact absurd finished (unfinished result)

/-- A step of a spawned check that is not finished leaves the spawned checks less to do. -/
theorem sum_left_stepSpawned_lt {k : SpawnedCheck}
    (ascend : (t.spawned.map SpawnedCheck.serial).Pairwise (· < ·)) (there : k ∈ t.spawned)
    (unfinished : ∀ result, k.phase ≠ .finished result) :
    ((t.stepSpawned k).spawned.map SpawnedCheck.left).sum <
      (t.spawned.map SpawnedCheck.left).sum := by
  have own : (t.nextSpawnPhase k).left < k.left := left_nextSpawnPhase_lt t unfinished
  have turned : (t.stepSpawned k).spawned.map SpawnedCheck.left =
      t.spawned.map fun j : SpawnedCheck =>
        if j.serial = k.serial then (t.nextSpawnPhase k).left else j.left := by
    rw [spawned_stepSpawned _ unfinished, setSpawned, List.map_map]
    apply List.map_congr_left
    intro j _
    rw [Function.comp_apply]
    split <;> rfl
  have each : ∀ j ∈ t.spawned,
      (if j.serial = k.serial then (t.nextSpawnPhase k).left else j.left) ≤ j.left := by
    intro j member
    split
    case isTrue same =>
      rw [SpawnedCheck.eq_of_serial ascend member there same]
      exact own.le
    case isFalse => exact Nat.le_refl _
  rw [turned]
  refine List.sum_lt_sum _ _ each ⟨k, there, ?_⟩
  rw [if_pos rfl]
  exact own

theorem left_stepSpawned_lt {limit : Nat} {k : SpawnedCheck} {w : Wake}
    (attached : t.mesh.Attached) (ascend : (t.spawned.map SpawnedCheck.serial).Pairwise (· < ·))
    (there : k ∈ t.spawned) (wake : t.spawnWake? k = some w) :
    ({ t with now := max t.now w.time }.stepSpawned k).left limit < t.left limit := by
  have unfinished := unfinished_of_spawnWake? wake
  have goes : t.now ≤ max t.now w.time := Nat.le_max_left _ _
  generalize max t.now w.time = later at goes ⊢
  have fewer := sum_left_stepSpawned_lt (t := { t with now := later }) ascend there unfinished
  have watches := watches_stepSpawned (t := { t with now := later }) attached k
  refine left_lt_left ?_ ?_ fewer.le (.inr fewer)
  · rw [watches]
  · intro id
    rw [loopLeft, watches, now_stepSpawned]
    exact loopLeft_setClock_le goes limit id

/-! ## Another clock -/

/-- If nothing is due before a later moment, the clock may as well be set to it. -/
theorem wakes_setClock {later : Nat} (goes : t.now < later) (idle : t.next? later = none) :
    ({ t with now := later } : Timeline).wakes = t.wakes := by
  rw [wakes_eq, wakes_eq]
  congr 1
  · apply List.filterMap_congr
    intro id _
    change (t.mesh.monitor.loop? id).map _ = (t.mesh.monitor.loop? id).map _
    cases live : t.mesh.monitor.loop? id with
    | none => rfl
    | some l =>
      obtain ⟨serial, phase⟩ := l
      cases phase with
      | fresh =>
        have wake : t.loopWake? id = some ⟨t.now, serial, .loop id⟩ := by
          rw [loopWake?, live]
          rfl
        have late := le_of_next?_eq_none idle (mem_wakes_iff.mpr (.inl ⟨id, wake⟩))
        exact absurd goes late.not_gt
      | waiting | probing => rfl
  · apply List.filterMap_congr
    intro k member
    obtain ⟨handle, serial, id, phase⟩ := k
    cases phase with
    | fresh =>
      have late := le_of_next?_eq_none idle (mem_wakes_iff.mpr (.inr ⟨_, member, rfl⟩))
      exact absurd goes late.not_gt
    | probing | finished => rfl

theorem next?_setClock {later : Nat} (goes : t.now < later) (idle : t.next? later = none)
    (limit : Nat) : ({ t with now := later } : Timeline).next? limit = t.next? limit := by
  rw [next?, wakes_setClock goes idle, next?]

/-- A job that is next with a limit is next with a later one. -/
theorem next?_mono {first : Nat} (next : t.next? first = some w) (le : first ≤ limit) :
    t.next? limit = some w := by
  rw [next?, Option.filter_eq_some_iff] at next ⊢
  exact ⟨next.1, decide_eq_true ((of_decide_eq_true next.2).trans_le le)⟩

theorem now_perform (t : Timeline) (w : Wake) : (t.perform w).now = max t.now w.time := by
  unfold perform
  split
  · exact now_stepLoop _ _
  · exact now_stepSpawned _ _

end Timeline

/-! ## Runs -/

namespace Coordinator

open Timeline (Wake Job jobsFor runFor)

variable {c : Coordinator} {limit : Nat} {w : Timeline.Wake}

/-- The node after a job. -/
def did (c : Coordinator) (w : Timeline.Wake) : Coordinator :=
  { c with timeline := c.timeline.perform w }

theorem acted_jobActs (c : Coordinator) (w : Timeline.Wake) :
    c.acted (c.timeline.jobActs w) = c.did w :=
  Timeline.acted_jobActs c w

theorem Orderly.did (orderly : c.Orderly) (w : Timeline.Wake) : (c.did w).Orderly :=
  c.acted_jobActs w ▸ orderly.acted _

/-- Every job leaves less to do. -/
theorem left_did_lt (orderly : c.Orderly) (next : c.timeline.next? limit = some w) :
    (c.did w).timeline.left limit < c.timeline.left limit := by
  obtain ⟨there, due⟩ := Timeline.mem_of_next? next
  rcases Timeline.mem_wakes_iff.mp there with ⟨id, wake⟩ | ⟨k, member, wake⟩
  · have step := Timeline.left_stepLoop_lt orderly.attached orderly.paced wake due
    obtain ⟨l, -, rfl⟩ := Option.map_eq_some_iff.mp wake
    exact step
  · have step : Timeline.left (Timeline.stepSpawned _ k) limit < c.timeline.left limit :=
      Timeline.left_stepSpawned_lt orderly.attached orderly.ascend member wake
    obtain ⟨time, -, rfl⟩ := Option.map_eq_some_iff.mp wake
    exact step

/-- A number of jobs that is enough does not matter. -/
theorem jobsFor_eq (orderly : c.Orderly) {fuel fuel' : Nat}
    (enough : c.timeline.left limit ≤ fuel) (enough' : c.timeline.left limit ≤ fuel') :
    jobsFor limit fuel c.timeline = jobsFor limit fuel' c.timeline := by
  induction fuel generalizing c fuel' with
  | zero =>
    cases fuel' with
    | zero => rfl
    | succ fuel' =>
      unfold jobsFor
      cases next : c.timeline.next? limit with
      | none => rfl
      | some w =>
        have less := left_did_lt orderly next
        omega
  | succ fuel ih =>
    unfold jobsFor
    cases next : c.timeline.next? limit with
    | none =>
      cases fuel' with
      | zero => rfl
      | succ => simp only [next]
    | some w =>
      have less := left_did_lt orderly next
      cases fuel' with
      | zero => omega
      | succ fuel' =>
        have rest :
            jobsFor limit fuel (c.did w).timeline = jobsFor limit fuel' (c.did w).timeline :=
          ih (orderly.did w) (by omega) (by omega)
        simp only [next]
        exact congrArg (c.timeline.jobActs w ++ ·) rest

/-- The jobs of a run are its first job and the jobs of the rest of the run. -/
theorem jobs_eq (orderly : c.Orderly) (limit : Nat) :
    c.timeline.jobs limit =
      match c.timeline.next? limit with
      | none => []
      | some w => c.timeline.jobActs w ++ (c.did w).timeline.jobs limit := by
  have enough := Timeline.left_le_work c.timeline limit
  rw [Timeline.jobs, jobsFor_eq orderly enough (enough.trans (Nat.le_succ _))]
  unfold jobsFor
  cases next : c.timeline.next? limit with
  | none => rfl
  | some w =>
    have less := left_did_lt orderly next
    have enough' := Timeline.left_le_work (c.did w).timeline limit
    have rest : jobsFor limit (c.timeline.work limit) (c.did w).timeline =
        (c.did w).timeline.jobs limit :=
      jobsFor_eq (orderly.did w) (by omega) enough'
    exact congrArg (c.timeline.jobActs w ++ ·) rest

/-- The node after a run. -/
def ran (c : Coordinator) (limit : Nat) : Coordinator :=
  { c with timeline := c.timeline.run limit }

theorem acted_jobs (c : Coordinator) (limit : Nat) :
    c.acted (c.timeline.jobs limit) = c.ran limit :=
  Timeline.acted_jobs c limit

/-- A run without a job that is due does nothing. -/
theorem ran_of_none (orderly : c.Orderly) (idle : c.timeline.next? limit = none) :
    c.timeline.jobs limit = [] ∧ c.ran limit = c := by
  have jobs := jobs_eq orderly limit
  rw [idle] at jobs
  refine ⟨jobs, ?_⟩
  rw [← acted_jobs, jobs]
  rfl

/-- A run does its first job and goes on. -/
theorem ran_of_some (orderly : c.Orderly) (next : c.timeline.next? limit = some w) :
    c.timeline.jobs limit = c.timeline.jobActs w ++ (c.did w).timeline.jobs limit ∧
      c.ran limit = (c.did w).ran limit := by
  have jobs := jobs_eq orderly limit
  rw [next] at jobs
  refine ⟨jobs, ?_⟩
  rw [← acted_jobs, jobs, acted_append, acted_jobActs, acted_jobs]

/-- The node when its clock was set. -/
def setClock (c : Coordinator) (now : Nat) : Coordinator :=
  { c with timeline := { c.timeline with now } }

/-- If nothing is due before a later moment, the jobs are the same when the clock was set to it. -/
theorem jobs_setClock (orderly : c.Orderly) {later : Nat} (goes : c.timeline.now < later)
    (idle : c.timeline.next? later = none) (limit : Nat) :
    (c.setClock later).timeline.jobs limit = c.timeline.jobs limit := by
  have set : (c.setClock later).Orderly := orderly.act (.clock later)
  have same : (c.setClock later).timeline.next? limit = c.timeline.next? limit :=
    Timeline.next?_setClock goes idle limit
  cases next : c.timeline.next? limit with
  | none => rw [(ran_of_none orderly next).1, (ran_of_none set (same.trans next)).1]
  | some w =>
    have late := Timeline.le_of_next?_eq_none idle (Timeline.mem_of_next? next).1
    have clocks : max later w.time = max c.timeline.now w.time := by omega
    have acts : (c.setClock later).timeline.jobActs w = c.timeline.jobActs w := by
      rw [Timeline.jobActs, Timeline.jobActs]
      congr 2
    have done : (c.setClock later).did w = c.did w := by
      rw [← acted_jobActs, ← acted_jobActs, acts]
      rfl
    rw [(ran_of_some orderly next).1, (ran_of_some set (same.trans next)).1, acts, done]

/-- A run to a limit is a run to an earlier one, and a run from there. -/
theorem jobs_split (orderly : c.Orderly) {first limit : Nat} (goes : c.timeline.now < first)
    (le : first ≤ limit) :
    c.timeline.jobs limit =
      c.timeline.jobs first ++ ((c.ran first).setClock first).timeline.jobs limit := by
  induction left : c.timeline.left first using Nat.strong_induction_on generalizing c with
  | _ n ih =>
    cases next : c.timeline.next? first with
    | none =>
      obtain ⟨idle, stays⟩ := ran_of_none orderly next
      rw [idle, stays, jobs_setClock orderly goes next, List.nil_append]
    | some w =>
      obtain ⟨jobs, ran⟩ := ran_of_some orderly next
      obtain ⟨jobs', -⟩ := ran_of_some orderly (Timeline.next?_mono next le)
      have due := (Timeline.mem_of_next? next).2
      have clock : (c.did w).timeline.now < first := by
        have now : (c.did w).timeline.now = max c.timeline.now w.time :=
          c.timeline.now_perform w
        omega
      have rest := ih _ (left ▸ left_did_lt orderly next) (orderly.did w) clock rfl
      rw [jobs, jobs', ran, rest, List.append_assoc]

/-! ## After a run -/

/-- What every job that is due before the limit preserves holds after the run, and then no job is
due before the limit any more. -/
theorem ran_preserves {P : Coordinator → Prop} (orderly : c.Orderly) (start : P c)
    (step : ∀ c w, c.Orderly → c.timeline.next? limit = some w → P c → P (c.did w)) :
    P (c.ran limit) ∧ (c.ran limit).timeline.next? limit = none := by
  induction left : c.timeline.left limit using Nat.strong_induction_on generalizing c with
  | _ n ih =>
    cases next : c.timeline.next? limit with
    | none =>
      rw [(ran_of_none orderly next).2]
      exact ⟨start, next⟩
    | some w =>
      rw [(ran_of_some orderly next).2]
      have less := left_did_lt orderly next
      exact ih _ (left ▸ less) (orderly.did w) (step c w orderly next start) rfl

/-- The clock does not reach the limit in a run. -/
theorem now_ran_lt (orderly : c.Orderly) (goes : c.timeline.now < limit) :
    (c.ran limit).timeline.now < limit := by
  refine (ran_preserves (P := fun c => c.timeline.now < limit) orderly goes ?_).1
  intro c w _ next before
  have due := (Timeline.mem_of_next? next).2
  have now : (c.did w).timeline.now = max c.timeline.now w.time := c.timeline.now_perform w
  omega

/-- A job leaves the spawned checks alone, or one of them does what is next. -/
theorem spawned_did (there : w ∈ c.timeline.wakes) :
    (c.did w).timeline.spawned = c.timeline.spawned ∨
      ∃ k ∈ c.timeline.spawned, c.timeline.spawnWake? k = some w ∧ ∃ phase,
        (c.did w).timeline.spawned = (c.timeline.setSpawned k.serial phase).spawned := by
  rcases Timeline.mem_wakes_iff.mp there with ⟨id, wake⟩ | ⟨k, member, wake⟩
  · obtain ⟨l, -, rfl⟩ := Option.map_eq_some_iff.mp wake
    exact .inl (Timeline.spawned_stepLoop _ id)
  · have unfinished := Timeline.unfinished_of_spawnWake? wake
    refine .inr ⟨k, member, wake, ?_⟩
    obtain ⟨time, -, rfl⟩ := Option.map_eq_some_iff.mp wake
    exact ⟨_, Timeline.spawned_stepSpawned _ unfinished⟩

/-- The handles and ids of the spawned checks. -/
def labels (c : Coordinator) : List (String × String) :=
  c.timeline.spawned.map fun k => (k.handle, k.id)

theorem labels_ran (orderly : c.Orderly) (limit : Nat) : (c.ran limit).labels = c.labels := by
  refine (ran_preserves (P := fun next => next.labels = c.labels) orderly rfl ?_).1
  intro next w _ due same
  rw [← same, labels, labels]
  rcases spawned_did (Timeline.mem_of_next? due).1 with stays | ⟨k, -, -, phase, set⟩
  · rw [stays]
  · rw [set, Timeline.setSpawned, List.map_map]
    apply List.map_congr_left
    intro j _
    rw [Function.comp_apply]
    split <;> rfl

/-- The id of the latest check under a handle is told by the handles and ids. -/
theorem id_spawned? (c : Coordinator) (handle : String) :
    (c.timeline.spawned? handle).map SpawnedCheck.id =
      ((c.labels.filter fun label => label.1 == handle).getLast?).map Prod.snd := by
  rw [labels, List.filter_map, List.getLast?_map, Option.map_map]
  rfl

/-- A probe of a spawned check goes on through a run until it ends. -/
theorem probing_ran (orderly : c.Orderly) {k : SpawnedCheck} {probe : Probe} {config : HealthConfig}
    (there : k ∈ c.timeline.spawned) (phase : k.phase = .probing probe config)
    (late : limit ≤ probe.ends) : k ∈ (c.ran limit).timeline.spawned := by
  refine (ran_preserves (P := fun c => k ∈ c.timeline.spawned) orderly there ?_).1
  intro c w orderly next member
  obtain ⟨due, before⟩ := Timeline.mem_of_next? next
  rcases spawned_did due with stays | ⟨j, member', wake, phase', set⟩
  · rw [stays]
    exact member
  · have differ : k.serial ≠ j.serial := by
      intro same
      rw [← SpawnedCheck.eq_of_serial orderly.ascend member member' same, Timeline.spawnWake?,
        Timeline.wakeOfSpawned?, phase] at wake
      cases wake
      exact absurd before late.not_gt
    rw [set, Timeline.setSpawned]
    exact List.mem_map.mpr ⟨k, member, if_neg differ⟩

end Coordinator

end ServiceMesh
