import ServiceMesh.Proofs.Coordinator.Attached

/-!
# Loops and their numbers

A loop keeps the number it was begun with, and numbers are never given twice. So the loops
of a later state are loops of an earlier one or were begun since, and a loop that was
ended does not come back.
-/

namespace ServiceMesh

namespace Monitor

/-- The loop of a watched id. -/
def loop? (m : Monitor) (id : String) : Option Loop := (m.watches[id]?).bind Watch.loop

theorem loop?_eq_some_iff {m : Monitor} {id : String} {l : Loop} :
    m.loop? id = some l ↔ ∃ w, m.watches[id]? = some w ∧ w.loop = some l :=
  Option.bind_eq_some_iff

/-! ## Loops that go on -/

/-- Each loop of a later monitor stands where it stood in the earlier one, or was begun in between
and has not done anything yet. -/
structure Renews (m next : Monitor) : Prop where
  begun : m.begun ≤ next.begun
  loops : ∀ (id : String) (w : Watch) (l : Loop), next.watches[id]? = some w → w.loop = some l →
    m.watches[id]? = some w ∨ (l.phase = .fresh ∧ m.begun ≤ l.serial ∧ l.serial < next.begun)

namespace Renews

variable {m middle next : Monitor}

theorem of_same (begun : m.begun ≤ next.begun) (watches : next.watches = m.watches) :
    m.Renews next :=
  ⟨begun, fun _ _ _ watched _ => .inl (watches ▸ watched)⟩

theorem refl (m : Monitor) : m.Renews m := of_same (Nat.le_refl _) rfl

theorem trans (first : m.Renews middle) (second : middle.Renews next) : m.Renews next := by
  refine ⟨first.begun.trans second.begun, ?_⟩
  intro id w l watched loop
  rcases second.loops id w l watched loop with between | ⟨phase, reached, before⟩
  · rcases first.loops id w l between loop with old | ⟨phase, reached, before⟩
    · exact .inl old
    · exact .inr ⟨phase, reached, before.trans_le second.begun⟩
  · exact .inr ⟨phase, first.begun.trans reached, before⟩

/-- Another watch of one id, with a new loop or none. -/
theorem insert (id : String) {w : Watch} (begun : m.begun ≤ next.begun)
    (watches : next.watches = m.watches.insert id w)
    (own : ∀ l, w.loop = some l → l.phase = .fresh ∧ m.begun ≤ l.serial ∧ l.serial < next.begun) :
    m.Renews next := by
  refine ⟨begun, ?_⟩
  intro other found l watched loop
  rw [watches] at watched
  rcases Table.insert_cases watched with ⟨rfl, rfl⟩ | ⟨-, old⟩
  · exact .inr (own l loop)
  · exact .inl old

theorem erase (id : String) (begun : next.begun = m.begun)
    (watches : next.watches = m.watches.erase id) : m.Renews next := by
  refine ⟨Nat.le_of_eq begun.symm, fun other w l watched _ => .inl ?_⟩
  rw [watches] at watched
  exact (Table.erase_cases watched).2

theorem beginLoop (m : Monitor) (id : String) : m.Renews (m.beginLoop id) := by
  unfold Monitor.beginLoop
  split
  case h_1 config _ =>
    refine insert id (Nat.le_succ _) rfl ?_
    rintro l ⟨⟩
    exact ⟨rfl, Nat.le_refl _, Nat.lt_succ_self _⟩
  case h_2 => exact refl m

theorem endLoop (m : Monitor) (id : String) : m.Renews (m.endLoop id) := by
  unfold Monitor.endLoop
  split
  case h_1 => exact insert id (Nat.le_refl _) rfl nofun
  case h_2 => exact refl m

theorem foldl {step : Monitor → String → Monitor}
    (each : ∀ (m : Monitor) id, m.Renews (step m id)) (m : Monitor) (ids : List String) :
    m.Renews (ids.foldl step m) := by
  induction ids generalizing m with
  | nil => exact refl m
  | cons id rest ih => exact (each m id).trans (ih _)

theorem run (m : Monitor) : m.Renews m.run := by
  have running : m.Renews { m with running := true } := of_same (Nat.le_refl _) rfl
  exact running.trans (foldl beginLoop _ m.watches.keys)

theorem halt (m : Monitor) : m.Renews m.halt := by
  have halted : m.Renews { m with running := false } := of_same (Nat.le_refl _) rfl
  exact halted.trans (foldl endLoop _ m.watches.keys)

theorem watch {store : Store} {id : String} {config : HealthConfig}
    (done : m.watch store id config = .ok next) : m.Renews next := by
  obtain ⟨-, rfl⟩ := watch_eq done
  have renewed : m.Renews ((m.endLoop id).renewed id config) :=
    (endLoop m id).trans (insert id (Nat.le_refl _) rfl nofun)
  unfold rewatched
  split
  · exact renewed.trans (beginLoop _ id)
  · exact renewed

theorem drop (m : Monitor) (id : String) : m.Renews (m.drop id) :=
  (endLoop m id).trans (erase id rfl rfl)

theorem forget (m : Monitor) (id : String) : m.Renews (m.forget id) :=
  (drop m id).trans (of_same (Nat.le_refl _) rfl)

end Renews

/-! ## Numbers of loops -/

/-- Each loop of a later monitor is one of the earlier monitor or was begun in between. -/
structure Ages (m next : Monitor) : Prop where
  begun : m.begun ≤ next.begun
  loops : ∀ id l, next.loop? id = some l →
    (∃ old, m.loop? id = some old ∧ old.serial = l.serial) ∨
    (m.begun ≤ l.serial ∧ l.serial < next.begun)

namespace Ages

variable {m middle next : Monitor}

theorem of_same (begun : next.begun = m.begun) (watches : next.watches = m.watches) :
    m.Ages next := by
  refine ⟨begun.ge, fun id l live => .inl ⟨l, ?_, rfl⟩⟩
  rwa [loop?, watches] at live

theorem refl (m : Monitor) : m.Ages m := of_same rfl rfl

theorem trans (first : m.Ages middle) (second : middle.Ages next) : m.Ages next := by
  refine ⟨first.begun.trans second.begun, ?_⟩
  intro id l live
  rcases second.loops id l live with ⟨between, there, same⟩ | ⟨reached, before⟩
  · rw [← same]
    rcases first.loops id between there with old | ⟨reached, before⟩
    · exact .inl old
    · exact .inr ⟨reached, before.trans_le second.begun⟩
  · exact .inr ⟨first.begun.trans reached, before⟩

/-- Another phase is not another loop. -/
theorem setPhase (t : Timeline) (id : String) (phase : Phase) :
    t.mesh.monitor.Ages (t.setPhase id phase).mesh.monitor := by
  refine ⟨Nat.le_refl _, fun other l live => .inl ?_⟩
  obtain ⟨found, there, loop⟩ := loop?_eq_some_iff.mp live
  rcases Table.update_cases there with ⟨-, old, before, rfl⟩ | ⟨-, kept⟩
  · obtain ⟨same, running, rfl⟩ := Option.map_eq_some_iff.mp loop
    exact ⟨same, loop?_eq_some_iff.mpr ⟨old, before, running⟩, rfl⟩
  · exact ⟨l, loop?_eq_some_iff.mpr ⟨found, kept, loop⟩, rfl⟩

end Ages

/-- A loop that goes on keeps its number. -/
theorem Renews.ages {m next : Monitor} (renews : m.Renews next) : m.Ages next := by
  refine ⟨renews.begun, fun id l live => ?_⟩
  obtain ⟨w, watched, loop⟩ := loop?_eq_some_iff.mp live
  rcases renews.loops id w l watched loop with old | ⟨-, since⟩
  · exact .inl ⟨l, loop?_eq_some_iff.mpr ⟨w, old, loop⟩, rfl⟩
  · exact .inr since

end Monitor

namespace Coordinator

variable {c next : Coordinator}

theorem ages_beat {t : Timeline} (b : Beat c.timeline t) (attached : c.mesh.Attached) :
    c.mesh.monitor.Ages t.mesh.monitor := by
  cases b with
  | aside same => exact .of_same (by rw [same]; rfl) (by rw [same]; rfl)
  | setPhase id phase => exact .setPhase c.timeline id phase
  | abandon id =>
    have gone : c.mesh.monitor.Renews (c.timeline.abandon id).mesh.monitor := .erase id rfl rfl
    exact gone.ages
  | count result => exact .of_same rfl rfl
  | apply id outcome time config =>
    change c.mesh.monitor.Ages (c.mesh.applyCheck id outcome time config false).2.monitor
    rcases attached.applyCheck_eq id outcome time config with
      ⟨-, e, -, refused⟩ | ⟨r, -, -, applied⟩
    · rw [refused]
      exact .of_same rfl rfl
    · rw [applied]
      exact .of_same (Mesh.begun_checked ..) (Mesh.watches_checked ..)

theorem renews_configured (m : Mesh) (health : Option HealthConfig)
    (balancer : Option BalancerConfig) :
    m.monitor.Renews (configured m health balancer).monitor := by
  cases health <;> cases balancer <;> exact .of_same (Nat.le_refl _) rfl

/-- An operation at once leaves loops where they stand, or begins new ones. -/
theorem renews_call {op : Operation} {answer : Answer} (made : Call c op answer next) :
    c.mesh.monitor.Renews next.mesh.monitor := by
  cases made with
  | unregister => exact .forget c.mesh.monitor _
  | watch done => exact .watch done
  | unwatch id => exact .drop c.mesh.monitor id
  | spawn handle id => exact .of_same (Nat.le_succ _) rfl
  | configure health balancer => exact renews_configured c.mesh health balancer
  | start => exact .run c.mesh.monitor
  | stop => exact .halt c.mesh.monitor
  | refused | register | setMetadata | select | report | readBreaker | resetBreaker | startAgain
  | stopAgain | listenHealth | listenServices | setTarget | wait =>
    exact .of_same (Nat.le_refl _) rfl

theorem ages_change (change : Change c next) (attached : c.mesh.Attached) :
    c.mesh.monitor.Ages next.mesh.monitor := by
  cases change with
  | call made => exact (renews_call made).ages
  | beat b => exact ages_beat b attached

theorem ages_changes (chain : Changes c next) (attached : c.mesh.Attached) :
    c.mesh.monitor.Ages next.mesh.monitor := by
  have step : ∀ middle last, Change middle last → middle.mesh.Attached →
      c.mesh.monitor.Ages middle.mesh.monitor → c.mesh.monitor.Ages last.mesh.monitor :=
    fun middle last change attached ages => ages.trans (ages_change change attached)
  exact changes_preserve_attached step chain attached (.refl _)

end Coordinator

end ServiceMesh
