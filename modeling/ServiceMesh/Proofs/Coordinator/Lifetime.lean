import ServiceMesh.Proofs.Coordinator.Act
import ServiceMesh.Proofs.Coordinator.Selection

/-!
# Lifetimes

The breakers have a clock of their own, and between two acts any time may pass on it, not only
whole milliseconds. A lifetime is a list of acts and of such times. The clock of the breakers
never goes back in it, and what every change preserves is preserved by it.
-/

namespace ServiceMesh

namespace Timeline

variable (t : Timeline) (id : String)

/-! ## The clock of the breakers -/

@[simp] theorem moment_endProbe (probe : Probe) (config : HealthConfig) :
    (t.endProbe id probe config).2.moment = t.moment := by
  unfold endProbe
  split <;> rfl

@[simp] theorem moment_tick (config : HealthConfig) (due : Nat) :
    (t.tick id config due).moment = t.moment := by
  unfold tick
  split <;> rfl

@[simp] theorem moment_stepLoop : (t.stepLoop id).moment = t.moment := by
  unfold stepLoop
  split
  case h_1 config loop _ =>
    split
    case h_1 => exact t.moment_tick id config t.now
    case h_2 due _ => exact t.moment_tick id config due
    case h_3 probe due _ =>
      have ended := t.moment_endProbe id probe config
      split
      case h_1 h =>
        rw [h] at ended
        exact ended
      case h_2 h =>
        rw [h] at ended
        exact ended
      case h_3 h =>
        rw [h] at ended
        exact ended
  case h_2 => rfl

@[simp] theorem moment_stepSpawned (k : SpawnedCheck) : (t.stepSpawned k).moment = t.moment := by
  unfold stepSpawned
  split
  case h_1 => split <;> rfl
  case h_2 probe config _ => exact t.moment_endProbe k.id probe config
  case h_3 => rfl

end Timeline

/-! ## Lifetimes -/

/-- An act, or time that passes on the clock of the breakers. -/
inductive Happening where
  | act (a : Act)
  | elapse (nanoseconds : Nat)

namespace Coordinator

variable {c next : Coordinator}

/-- The node after a happening. -/
def happen (c : Coordinator) : Happening → Coordinator
  | .act a => c.act a
  | .elapse nanoseconds =>
    { c with timeline := { c.timeline with moment := c.timeline.moment + nanoseconds } }

/-- The node after a lifetime. -/
def lived (c : Coordinator) (life : List Happening) : Coordinator := life.foldl happen c

@[simp] theorem lived_nil (c : Coordinator) : c.lived [] = c := rfl

@[simp] theorem lived_cons (c : Coordinator) (h : Happening) (life : List Happening) :
    c.lived (h :: life) = (c.happen h).lived life := rfl

theorem lived_append (c : Coordinator) (first second : List Happening) :
    c.lived (first ++ second) = (c.lived first).lived second :=
  List.foldl_append

/-- Every history is a lifetime. -/
theorem lived_history (c : Coordinator) (events : List Event) :
    c.lived ((c.history events).map .act) = c.after events := by
  rw [lived, List.foldl_map, ← acted_history]
  rfl

theorem happen_changes (c : Coordinator) (h : Happening) : Changes c (c.happen h) := by
  cases h with
  | act a => exact c.act_changes a
  | elapse => exact .single (.beat (.aside rfl))

theorem lived_changes (c : Coordinator) (life : List Happening) : Changes c (c.lived life) := by
  induction life generalizing c with
  | nil => exact .refl
  | cons h rest ih => exact (c.happen_changes h).trans (ih _)

theorem attached_happen (attached : c.mesh.Attached) (h : Happening) :
    (c.happen h).mesh.Attached :=
  attached_changes (c.happen_changes h) attached

theorem attached_of_lived (attached : c.mesh.Attached) (life : List Happening) :
    (c.lived life).mesh.Attached :=
  attached_changes (c.lived_changes life) attached

theorem attached_lived (config : Config) (life : List Happening) :
    ((fresh config).lived life).mesh.Attached :=
  attached_of_lived (attached_fresh config) life

theorem coherent_happen (attached : c.mesh.Attached) (coherent : c.mesh.balancer.Coherent)
    (h : Happening) : (c.happen h).mesh.balancer.Coherent :=
  changes_preserve_attached (fun _ _ => coherent_change) (c.happen_changes h) attached coherent

theorem coherent_of_lived (attached : c.mesh.Attached) (coherent : c.mesh.balancer.Coherent)
    (life : List Happening) : (c.lived life).mesh.balancer.Coherent :=
  changes_preserve_attached (fun _ _ => coherent_change) (c.lived_changes life) attached coherent

theorem coherent_lived (config : Config) (life : List Happening) :
    ((fresh config).lived life).mesh.balancer.Coherent :=
  coherent_of_lived (attached_fresh config) (.ofConfig config.loadBalancer) life

/-- A happening is an operation at once, or it leaves alone what no beat changes. -/
theorem happen_cases {α : Type} (part : Mesh → α)
    (beat : ∀ {c : Coordinator} {t : Timeline}, Beat c.timeline t → c.mesh.Attached →
      part t.mesh = part c.mesh)
    (attached : c.mesh.Attached) (h : Happening) :
    (∃ op, h = .act (.call op) ∧ Call c op (c.perform op).1 (c.happen h)) ∨
    ((∀ op, h = .act (.call op) → op.waits = true) ∧
      part (c.happen h).mesh = part c.mesh) := by
  cases h with
  | elapse => exact .inr ⟨nofun, rfl⟩
  | act a =>
    obtain ⟨op, rfl, -, made⟩ | ⟨op, rfl, takes, still⟩ | timed := c.act_kinds a
    · exact .inl ⟨op, rfl, made⟩
    · rw [happen, still]
      refine .inr ⟨?_, rfl⟩
      rintro _ ⟨⟩
      exact takes
    · refine .inr ⟨?_, act_leaves part beat attached timed⟩
      rintro op ⟨⟩
      exact absurd rfl (timed op)

/-! ## Time goes on -/

/-- No operation at once moves the clock of the probes. -/
theorem now_call {op : Operation} {answer : Answer} (made : Call c op answer next) :
    next.timeline.now = c.timeline.now := by
  cases made <;> rfl

theorem moment_call {op : Operation} {answer : Answer} (made : Call c op answer next) :
    c.timeline.moment ≤ next.timeline.moment := by
  cases made with
  | wait later =>
    rw [← later]
    exact Nat.le_add_right _ _
  | _ => exact Nat.le_refl _

theorem moment_happen (c : Coordinator) (h : Happening) :
    c.timeline.moment ≤ (c.happen h).timeline.moment := by
  cases h with
  | elapse => exact Nat.le_add_right _ _
  | act a =>
    cases a with
    | call op =>
      rw [happen]
      rcases c.act_call_cases op with same | made
      · rw [same]
      · exact moment_call made
    | clock => exact Nat.le_refl _
    | loop id => exact (c.timeline.moment_stepLoop id).ge
    | spawned k => exact (c.timeline.moment_stepSpawned k).ge
    | finish id probe config => exact (c.timeline.moment_endProbe id probe config).ge

theorem moment_lived (c : Coordinator) (life : List Happening) :
    c.timeline.moment ≤ (c.lived life).timeline.moment := by
  induction life generalizing c with
  | nil => exact Nat.le_refl _
  | cons h rest ih => exact Nat.le_trans (c.moment_happen h) (ih _)

end Coordinator

end ServiceMesh
