import Mathlib.Data.List.Induction
import ServiceMesh.Proofs.Coordinator.Probings
import ServiceMesh.Proofs.Coordinator.Prompt

/-!
# The pace of probes

The probes that the loop of an id begins are listed along the acts of a run. A loop is told from the
other loops of its id by its number, and where it stands is told by the probes that it has begun.
Any act on time keeps that, whoever else is probed meanwhile and whatever the probes meet.
-/

namespace ServiceMesh

namespace Coordinator

variable {c next : Coordinator} {id : String} {serial : Nat} {log : List Launch}

/-! ## The probes that a loop begins -/

/-- The probe that an act begins as a step of the loop of an id with a number, if it begins one. -/
def launch? (c : Coordinator) (id : String) (serial : Nat) : Act → Option Launch
  | .loop other =>
    match c.mesh.monitor.post? id with
    | some (config, number) =>
      if other = id ∧ number = serial then
        (c.timeline.beginningOfLoop? id).map fun probe => { config, probe }
      else none
    | none => none
  | .call _ | .clock _ | .spawned _ | .finish .. => none

/-- The probes that the loop of an id with a number begins in acts. -/
def launches (c : Coordinator) (id : String) (serial : Nat) : List Act → List Launch
  | [] => []
  | a :: rest => (c.launch? id serial a).toList ++ (c.act a).launches id serial rest

theorem loopWake?_of_watched {config : HealthConfig} {l : Loop}
    (watched : c.mesh.monitor.watches[id]? = some { config, loop := some l }) :
    c.timeline.loopWake? id =
      some ⟨Timeline.wakeOfLoop c.timeline.now l, l.serial, .loop id⟩ :=
  congrArg (Option.map _) (Monitor.loop?_eq_some_iff.mpr ⟨_, watched, rfl⟩)

theorem mem_wakes_of_watched {config : HealthConfig} {l : Loop}
    (watched : c.mesh.monitor.watches[id]? = some { config, loop := some l }) :
    ⟨Timeline.wakeOfLoop c.timeline.now l, l.serial, .loop id⟩ ∈ c.timeline.wakes :=
  Timeline.mem_wakes_iff.mpr (.inl ⟨id, loopWake?_of_watched watched⟩)

theorem launch?_of_watched {config : HealthConfig} {l : Loop}
    (watched : c.mesh.monitor.watches[id]? = some { config, loop := some l })
    (own : l.serial = serial) :
    c.launch? id serial (.loop id) =
      (c.timeline.beginningOfLoop? id).map fun probe => { config, probe } := by
  have posted : c.mesh.monitor.post? id = some (config, l.serial) := by
    rw [Monitor.post?, watched]
    rfl
  rw [launch?, posted]
  exact if_pos ⟨rfl, own⟩

/-- A step of another loop begins no probe of this one. -/
theorem launch?_of_foreign {other : String}
    (foreign : ¬(other = id ∧ (c.mesh.monitor.loop? id).map Loop.serial = some serial)) :
    c.launch? id serial (.loop other) = none := by
  rw [Monitor.loop?_map_serial] at foreign
  rw [launch?]
  cases posted : c.mesh.monitor.post? id with
  | none => rfl
  | some post =>
    refine if_neg fun own => foreign ⟨own.1, ?_⟩
    rw [posted, Option.map_some, own.2]

/-- A loop with a number, while it lives and afterwards, and the probes that it has begun. -/
structure InPace (c : Coordinator) (id : String) (serial : Nat) (log : List Launch) : Prop where
  begun : log ≠ [] → serial < c.mesh.monitor.begun
  steady : Launch.Steady log
  stands : ∀ config l, c.mesh.monitor.watches[id]? = some { config, loop := some l } →
    l.serial = serial → l.phase.Stands c.timeline.now config log

theorem inPace_fresh (config : Config) (id : String) (serial : Nat) :
    (fresh config).InPace id serial [] where
  begun began := absurd rfl began
  steady := .nil
  stands config l watched := by cases watched

namespace InPace

/-- What leaves watches, numbers and the clock alone. -/
theorem of_same (h : c.InPace id serial log)
    (watches : next.mesh.monitor.watches = c.mesh.monitor.watches)
    (begun : next.mesh.monitor.begun = c.mesh.monitor.begun)
    (now : next.timeline.now = c.timeline.now) : next.InPace id serial log := by
  refine ⟨begun ▸ h.begun, h.steady, ?_⟩
  intro config l watched same
  rw [watches] at watched
  exact now ▸ h.stands config l watched same

/-- An operation at once lets the loop stand where it stands, or takes its number away for ever. -/
theorem call (h : c.InPace id serial log) {op : Operation} {answer : Answer}
    (made : Call c op answer next) : next.InPace id serial log := by
  have renews := renews_call made
  refine ⟨fun began => (h.begun began).trans_le renews.begun, h.steady, ?_⟩
  intro config l watched same
  rw [now_call made]
  rcases renews.loops id _ l watched rfl with old | ⟨first, new, -⟩
  · exact h.stands config l old same
  -- a number that is given now has begun nothing yet
  · have empty : log = [] := by
      by_contra began
      exact absurd (same ▸ h.begun began) new.not_gt
    rw [empty, first]
    exact .fresh

theorem clock (h : c.InPace id serial log) {later : Nat} (onTime : c.OnTime (.clock later)) :
    (c.act (.clock later)).InPace id serial log := by
  refine ⟨h.begun, h.steady, ?_⟩
  intro config l watched same
  refine (h.stands config l watched same).goOn onTime.1 fun goes => ?_
  exact onTime.2 goes _ (mem_wakes_of_watched watched)

/-- Where the loop stands after a step of its own. -/
theorem steps (h : c.InPace id serial log) (attached : c.mesh.Attached) {config : HealthConfig}
    {l : Loop} (watched : c.mesh.monitor.watches[id]? = some { config, loop := some l })
    (own : l.serial = serial) (onTime : c.OnTime (.loop id)) :
    Launch.Steady (log ++ (c.launch? id serial (.loop id)).toList) ∧
      (c.timeline.nextPhase id config l.phase).Stands c.timeline.now config
        (log ++ (c.launch? id serial (.loop id)).toList) := by
  have stands := h.stands config l watched own
  have found : c.timeline.mesh.monitor.watches[id]? = _ := watched
  have taken := onTime _ (loopWake?_of_watched watched)
  have there := Timeline.contains_of_watched attached watched
  have begins := Probe.underWay_begin c.timeline.now config.timeoutMs.toNat
    (c.timeline.target id).reaction
  have started := Probe.started_begin c.timeline.now config.timeoutMs.toNat
    (c.timeline.target id).reaction
  rw [launch?_of_watched watched own, Timeline.beginningOfLoop?, found]
  obtain ⟨number, phase⟩ := l
  cases phase with
  | fresh =>
    simp only [if_pos there]
    exact stands.begun h.steady (.inl ⟨rfl, rfl⟩) (Nat.le_refl _) begins.within started
  | waiting due =>
    simp only [if_pos there]
    exact stands.begun h.steady (.inr rfl) taken begins.within started
  | probing probe due =>
    rw [Option.map_none, Option.toList_none, List.append_nil]
    exact ⟨h.steady, stands.ended taken⟩

theorem loop (h : c.InPace id serial log) (attached : c.mesh.Attached)
    (given : ∀ l, c.mesh.monitor.loop? id = some l → l.serial < c.mesh.monitor.begun)
    {other : String} (onTime : c.OnTime (.loop other)) :
    (c.act (.loop other)).InPace id serial
      (log ++ (c.launch? id serial (.loop other)).toList) := by
  have begun : (c.act (.loop other)).mesh.monitor.begun = c.mesh.monitor.begun :=
    Timeline.begun_stepLoop attached other
  have now : (c.act (.loop other)).timeline.now = c.timeline.now :=
    c.timeline.now_stepLoop other
  have watches := Timeline.getElem?_watches_stepLoop attached other id
  by_cases own : other = id ∧ (c.mesh.monitor.loop? id).map Loop.serial = some serial
  case pos =>
    obtain ⟨rfl, numbered⟩ := own
    obtain ⟨l, live, same⟩ := Option.map_eq_some_iff.mp numbered
    obtain ⟨⟨config, _⟩, watched, rfl⟩ := Monitor.loop?_eq_some_iff.mp live
    obtain ⟨steady, stands⟩ := h.steps attached watched same onTime
    refine ⟨fun _ => begun ▸ same ▸ given l live, steady, ?_⟩
    intro config' l' watched' _
    rw [now]
    have found : c.timeline.mesh.monitor.watches[other]? = _ := watched
    have turned := watches.symm.trans watched'
    rw [if_pos rfl, found] at turned
    cases turned
    exact stands
  case neg =>
    rw [launch?_of_foreign own, Option.toList_none, List.append_nil]
    refine ⟨begun ▸ h.begun, h.steady, ?_⟩
    intro config l watched same
    rw [now]
    have turned := watches.symm.trans watched
    split at turned
    case isTrue self =>
      obtain ⟨⟨config', loop⟩, found, stepped⟩ := Option.map_eq_some_iff.mp turned
      obtain ⟨rfl, loops⟩ := Watch.mk.inj stepped
      obtain ⟨old, rfl, rfl⟩ := Option.map_eq_some_iff.mp loops
      have live := Monitor.loop?_eq_some_iff.mpr ⟨_, found, rfl⟩
      exact absurd ⟨self, (congrArg (Option.map Loop.serial) live).trans (congrArg some same)⟩ own
    case isFalse => exact h.stands config l turned same

/-- Every act on time keeps the loop at its pace. -/
theorem act (h : c.InPace id serial log) (attached : c.mesh.Attached)
    (given : ∀ l, c.mesh.monitor.loop? id = some l → l.serial < c.mesh.monitor.begun)
    {a : Act} (onTime : c.OnTime a) :
    (c.act a).InPace id serial (log ++ (c.launch? id serial a).toList) := by
  cases a with
  | call op =>
    rw [launch?, Option.toList_none, List.append_nil]
    rcases c.act_call_cases op with same | made
    · rwa [same]
    · exact h.call made
  | clock later =>
    rw [launch?, Option.toList_none, List.append_nil]
    exact h.clock onTime
  | loop other => exact h.loop attached given onTime
  | spawned k =>
    rw [launch?, Option.toList_none, List.append_nil]
    exact h.of_same (Timeline.watches_stepSpawned attached k)
      (Timeline.begun_stepSpawned attached k) (c.timeline.now_stepSpawned k)
  | finish other probe config =>
    rw [launch?, Option.toList_none, List.append_nil]
    exact h.of_same (Timeline.watches_endProbe attached other probe config)
      (Timeline.begun_endProbe attached other probe config)
      (c.timeline.now_endProbe other probe config)

end InPace

theorem launches_concat (c : Coordinator) (id : String) (serial : Nat) (acts : List Act) (a : Act) :
    c.launches id serial (acts ++ [a]) =
      c.launches id serial acts ++ ((c.acted acts).launch? id serial a).toList := by
  induction acts generalizing c with
  | nil => exact List.append_nil _
  | cons first rest ih =>
    rw [List.cons_append, launches, ih, launches, List.append_assoc, acted_cons]

/-- Every loop of a run is at its pace at every moment. -/
theorem inPace_acted (config : Config) (id : String) (serial : Nat) {acts : List Act}
    (prompt : (fresh config).Prompt acts) :
    ((fresh config).acted acts).InPace id serial ((fresh config).launches id serial acts) := by
  induction acts using List.reverseRecOn with
  | nil => exact inPace_fresh config id serial
  | append_singleton acts a ih =>
    obtain ⟨early, onTime, -⟩ := prompt_append.mp prompt
    have attached := attached_acted (attached_fresh config) acts
    have next := (ih early).act attached
      (fun l live => serial_lt_begun_of_changes (acted_changes _ acts) live) onTime
    rwa [launches_concat, acted_append]

/-- Until a loop has begun its first probe, the clock does not move. -/
theorem now_of_unlaunched {config : Config} {first since : List Act} {old l : Loop}
    (prompt : (fresh config).Prompt (first ++ since))
    (began : ((fresh config).acted first).mesh.monitor.loop? id = some old)
    (live : ((fresh config).acted (first ++ since)).mesh.monitor.loop? id = some l)
    (same : old.serial = l.serial)
    (unlaunched : (fresh config).launches id l.serial (first ++ since) = []) :
    ((fresh config).acted (first ++ since)).timeline.now =
      ((fresh config).acted first).timeline.now := by
  induction since using List.reverseRecOn generalizing l with
  | nil => rw [List.append_nil]
  | append_singleton since a ih =>
    rw [← List.append_assoc] at prompt live unlaunched ⊢
    obtain ⟨early, onTime, -⟩ := prompt_append.mp prompt
    obtain ⟨before, -⟩ := List.append_eq_nil_iff.mp ((launches_concat ..).symm.trans unlaunched)
    rw [acted_append, acted_cons, acted_nil] at live ⊢
    have attached := attached_acted (attached_fresh config) (first ++ since)
    -- the loop is no new one, for its number was given by the time it began
    have given := serial_lt_begun_of_changes (acted_changes (fresh config) first) began
    have later := acted_changes ((fresh config).acted first) since
    rw [← acted_append] at later
    have grown := (ages_changes later (attached_acted (attached_fresh config) first)).begun
    rcases (ages_changes (act_changes _ a) attached).loops id l live with
      ⟨middle, there, same'⟩ | ⟨new, -⟩
    · rw [← ih early there (same.trans same'.symm) (same' ▸ before), now_act]
      cases a with
      | clock later =>
        obtain ⟨⟨settings, _⟩, watched, rfl⟩ := Monitor.loop?_eq_some_iff.mp there
        have stands := (inPace_acted config id l.serial early).stands settings middle watched same'
        refine Nat.le_antisymm (Nat.le_of_not_lt fun goes => ?_) onTime.1
        have reached := onTime.2 goes _ (mem_wakes_of_watched watched)
        exact absurd (reached.trans_eq (stands.wake_of_unlaunched before)) goes.not_ge
      | _ => rfl
    · omega

/-! ## Spawned checks -/

/-- A step that leaves a spawned check with a probe has begun the probe. -/
theorem underWay_of_nextSpawnPhase {k : SpawnedCheck} {probe : Probe} {config : HealthConfig}
    (phase : c.timeline.nextSpawnPhase k = .probing probe config) :
    probe.UnderWay c.timeline.now config.timeoutMs.toNat := by
  unfold Timeline.nextSpawnPhase at phase
  split at phase
  case h_1 =>
    cases accepted : c.timeline.checkConfig k.id with
    | error e =>
      rw [accepted] at phase
      cases phase
    | ok config =>
      rw [accepted] at phase
      cases phase
      exact Probe.underWay_begin _ _ _
  case h_2 => cases phase
  case h_3 => cases phase

/-- The probes of spawned checks are under way and end in time. -/
def SpawnedInTime (c : Coordinator) : Prop :=
  ∀ k ∈ c.timeline.spawned, ∀ probe config, k.phase = .probing probe config →
    probe.UnderWay c.timeline.now config.timeoutMs.toNat

namespace SpawnedInTime

theorem of_same (h : c.SpawnedInTime) (spawned : next.timeline.spawned = c.timeline.spawned)
    (now : next.timeline.now = c.timeline.now) : next.SpawnedInTime := by
  intro k member probe config phase
  rw [spawned] at member
  exact now ▸ h k member probe config phase

theorem clock (h : c.SpawnedInTime) {later : Nat} (onTime : c.OnTime (.clock later)) :
    (c.act (.clock later)).SpawnedInTime := by
  intro k member probe config phase
  obtain ⟨within, begun, unended⟩ := h k member probe config phase
  have wake : c.timeline.spawnWake? k = some ⟨probe.ends, k.serial, .spawned k⟩ := by
    rw [Timeline.spawnWake?, Timeline.wakeOfSpawned?, phase]
    rfl
  refine ⟨within, begun.trans onTime.1, ?_⟩
  rcases onTime.1.eq_or_lt with stays | goes
  · exact stays ▸ unended
  · exact onTime.2 goes _ (Timeline.mem_wakes_iff.mpr (.inr ⟨k, member, wake⟩))

theorem call (h : c.SpawnedInTime) {op : Operation} {answer : Answer}
    (made : Call c op answer next) : next.SpawnedInTime := by
  by_cases spawns : ∃ handle id, op = .spawn handle id
  · obtain ⟨handle, id, rfl⟩ := spawns
    cases made with
    | refused => exact h
    | spawn =>
      intro k member probe config phase
      rcases List.mem_append.mp member with old | new
      · exact h k old probe config phase
      · rw [List.mem_singleton.mp new] at phase
        cases phase
  · exact h.of_same (spawned_call made fun handle id same => spawns ⟨handle, id, same⟩)
      (now_call made)

theorem stepSpawned (h : c.SpawnedInTime) (k : SpawnedCheck) :
    (c.act (.spawned k)).SpawnedInTime := by
  by_cases done : ∃ result, k.phase = .finished result
  · obtain ⟨result, phase⟩ := done
    rw [Coordinator.act, Timeline.stepSpawned, phase]
    exact h
  · have unfinished : ∀ result, k.phase ≠ .finished result := fun result same => done ⟨result, same⟩
    intro j member probe config phase
    change probe.UnderWay (c.timeline.stepSpawned k).now _
    rw [Timeline.now_stepSpawned]
    change j ∈ (c.timeline.stepSpawned k).spawned at member
    rw [Timeline.spawned_stepSpawned _ unfinished] at member
    obtain ⟨old, listed, rfl⟩ := List.mem_map.mp member
    split at phase
    case isFalse => exact h old listed probe config phase
    case isTrue => exact underWay_of_nextSpawnPhase phase

theorem act (h : c.SpawnedInTime) {a : Act} (onTime : c.OnTime a) : (c.act a).SpawnedInTime := by
  cases a with
  | call op =>
    rcases c.act_call_cases op with same | made
    · rwa [same]
    · exact h.call made
  | clock later => exact h.clock onTime
  | loop id => exact h.of_same (c.timeline.spawned_stepLoop id) (c.timeline.now_stepLoop id)
  | spawned k => exact h.stepSpawned k
  | finish id probe config =>
    exact h.of_same (c.timeline.spawned_endProbe id probe config)
      (c.timeline.now_endProbe id probe config)

theorem acted (h : c.SpawnedInTime) {acts : List Act} (prompt : c.Prompt acts) :
    (c.acted acts).SpawnedInTime := by
  induction acts generalizing c with
  | nil => exact h
  | cons a rest ih => exact ih (h.act prompt.1) prompt.2

end SpawnedInTime

/-! ## The pace of a run -/

/-- A loop of a run that lives after the acts so far: it has begun its first probe before the clock
moved on, and its latest one no longer ago than the interval or the time limit, whichever is longer.
If it probes, this is its latest probe, which is under way. -/
structure AtPace (config : Config) (early : List Act) (id : String) (settings : HealthConfig)
    (l : Loop) : Prop where
  first : ∀ before since old, early = before ++ since →
    ((fresh config).acted before).mesh.monitor.loop? id = some old → old.serial = l.serial →
    (fresh config).launches id l.serial early = [] →
    ((fresh config).acted early).timeline.now = ((fresh config).acted before).timeline.now
  latest : ∀ last, ((fresh config).launches id l.serial early).getLast? = some last →
    last.config = settings ∧ ((fresh config).acted early).timeline.now ≤
      last.probe.started + max last.interval last.timeout
  underWay : ∀ probe due, l.phase = .probing probe due →
    ((fresh config).launches id l.serial early).getLast? = some ⟨settings, probe⟩ ∧
      probe.UnderWay ((fresh config).acted early).timeline.now settings.timeoutMs.toNat

theorem atPace_of_prompt {config : Config} {early : List Act} {settings : HealthConfig} {l : Loop}
    (prompt : (fresh config).Prompt early)
    (watched : ((fresh config).acted early).mesh.monitor.watches[id]? =
      some { config := settings, loop := some l }) :
    AtPace config early id settings l := by
  have pace := inPace_acted config id l.serial prompt
  have stands := pace.stands settings l watched rfl
  refine ⟨?_, fun last final => stands.now_le pace.steady final, ?_⟩
  · rintro before since old rfl began same none
    exact now_of_unlaunched prompt began (Monitor.loop?_eq_some_iff.mpr ⟨_, watched, rfl⟩) same none
  · intro probe due phase
    rw [phase] at stands
    exact stands.underWay pace.steady

/-- Probes keep a pace that is bounded on both sides. At every moment of a run the probes that a
loop has begun are steady: each starts at least the interval less the tolerance and at most the
interval or the time limit, whichever is longer, after the one before, and no two of them overlap.
A loop that lives has begun its latest probe no longer ago than that. No probe is under way for
longer than its time limit: neither the latest one of a loop, nor that of a spawned check, nor that
of a check whose caller waits for it. -/
theorem probes_keep_pace (config : Config) (ops : List Operation) {early late : List Act}
    (moment : (fresh config).history (ops.map .operation) = early ++ late) :
    let c := (fresh config).acted early
    (∀ id serial, Launch.Steady ((fresh config).launches id serial early) ∧
      ((fresh config).launches id serial early).Pairwise fun first second =>
        first.probe.ends ≤ second.probe.started) ∧
    (∀ id settings l, c.mesh.monitor.watches[id]? = some { config := settings, loop := some l } →
      AtPace config early id settings l) ∧
    c.SpawnedInTime ∧
    ∀ id probe settings rest, late = .finish id probe settings :: rest →
      ∃ before wait, (fresh config).Awaited early id probe settings before wait ∧
        ∀ part, part <+: wait →
          probe.UnderWay ((fresh config).acted
              (before ++ .call (.setTarget id Target.called) :: part)).timeline.now
            settings.timeoutMs.toNat := by
  intro c
  have prompt : (fresh config).Prompt early := by
    have all := prompt_history (orderly_fresh config) ops
    rw [moment] at all
    exact (prompt_append.mp all).1
  refine ⟨?_, fun id settings l watched => atPace_of_prompt prompt watched, ?_, ?_⟩
  · intro id serial
    have steady := (inPace_acted config id serial prompt).steady
    exact ⟨steady, steady.apart⟩
  · have silent : (fresh config).SpawnedInTime := fun k member => absurd member List.not_mem_nil
    exact silent.acted prompt
  · rintro id probe settings rest rfl
    obtain ⟨before, wait, awaited⟩ := awaited_of_finish moment
    exact ⟨before, wait, awaited, fun part between => awaited.underWay prompt between⟩

/-- A loop that meets an instance which hangs twice, answers after the next probe was due three
times and then answers at once, until it hangs again while a caller waits for a check. A probe that
is taken three milliseconds late leaves the schedule as it is, so the one at 186 starts seventeen
milliseconds after the one before. -/
theorem probes_keep_pace_of_slow :
    let r : Record := { serviceName := "svc", id := "a", endpoint := "127.0.0.1", port := 8080 }
    let slow : HealthConfig := { intervalMs := 20, timeoutMs := 50 }
    let meets (hanging : Bool) (delay : Nat) : Operation :=
      .setTarget "a" fun t => { t with hanging, delay }
    let ops := [.register r, meets true 0, .watch "a" (some slow), .start, .advance 60,
      meets false 23, .advance 90, meets false 1, .advance 60, meets true 0, .spawn "check" "a",
      .check "a"]
    let acts := (fresh {}).history (ops.map .operation)
    let early := acts.take (acts.length - 1)
    let c := (fresh {}).acted early
    let launched := (fresh {}).launches "a" 0 early
    launched.map (fun x => (x.probe.started, x.probe.ends)) =
      [(0, 50), (50, 100), (100, 123), (123, 146), (146, 169), (169, 170), (186, 187), (206, 207),
        (226, 276)] ∧
    Launch.Steady launched ∧
    c.timeline.now = 260 ∧
    c.mesh.monitor.watches["a"]? =
      some { config := slow, loop := some ⟨0, .probing ⟨226, 276, true⟩ 246⟩ } ∧
    Probe.UnderWay 260 50 ⟨226, 276, true⟩ ∧ c.SpawnedInTime := by
  intro r slow meets ops acts early c launched
  have moment : acts = early ++ acts.drop (acts.length - 1) := (List.take_append_drop _ acts).symm
  have line : launched.map (fun x => (x.probe.started, x.probe.ends)) =
      [(0, 50), (50, 100), (100, 123), (123, 146), (146, 169), (169, 170), (186, 187), (206, 207),
        (226, 276)] := by
    decide +kernel
  have now : c.timeline.now = 260 := by decide +kernel
  have watched : c.mesh.monitor.watches["a"]? =
      some { config := slow, loop := some ⟨0, .probing ⟨226, 276, true⟩ 246⟩ } := by
    decide +kernel
  -- from here on the acts so far are only a list
  clear_value early
  obtain ⟨steady, loops, spawned, -⟩ := probes_keep_pace {} ops moment
  have underWay := ((loops "a" slow _ watched).underWay _ _ rfl).2
  exact ⟨line, (steady "a" 0).1, now, watched, now ▸ underWay, spawned⟩

end Coordinator

end ServiceMesh
