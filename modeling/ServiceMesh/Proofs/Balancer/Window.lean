import Mathlib.Data.Finset.Lattice.Fold
import Mathlib.Data.List.DropRight
import Mathlib.Data.List.Induction
import ServiceMesh.Proofs.Balancer.Counts
import ServiceMesh.Proofs.Decimal.Quotient

/-!
# The window of outcomes

An instance is selected and reported on in any order, and each report brings the window that is in
force by then. The outcomes that are kept are the latest ones: a report adds one to them, a window
that has become short drops the oldest ones at once, and one that has become long again does not
bring them back.

A report without a selection leaves the count of open ones at zero. So the count is not what the
calls sum up to, but how far they have risen above their lowest sum. It is held in a word of 64
bits, so this is so as long as they do not rise by `2 ^ 64`.
-/

namespace ServiceMesh.Load

/-- A call on the load of an instance. -/
inductive Call where
  | start
  | finish (success : Bool) (time : Duration) (alpha : Float) (window : Nat)

variable {success : Bool} {time : Duration} {alpha : Float} {window : Nat} {calls : List Call}

/-- The load after a call. -/
def call (l : Load) : Call → Load
  | .start => l.start
  | .finish success time alpha window => l.finish success time alpha window

/-- The load after calls from the beginning. -/
def after (calls : List Call) : Load := calls.foldl call {}

@[simp] theorem after_concat (calls : List Call) (c : Call) :
    after (calls ++ [c]) = (after calls).call c := by
  simp [after]

/-! ## The outcomes that are kept -/

/-- The outcome that a call reports. -/
def Call.outcome? : Call → Option Bool
  | .start => none
  | .finish success .. => some success

/-- The outcomes that calls report, the latest one at the end. -/
def outcomes (calls : List Call) : List Bool := calls.filterMap Call.outcome?

@[simp] theorem outcomes_concat_start (calls : List Call) :
    outcomes (calls ++ [.start]) = outcomes calls := by
  simp [outcomes, Call.outcome?]

@[simp] theorem outcomes_concat_finish (calls : List Call) :
    outcomes (calls ++ [.finish success time alpha window]) = outcomes calls ++ [success] := by
  simp [outcomes, Call.outcome?]

/-- How many outcomes are kept after a call. -/
def Call.keeps (kept : Nat) : Call → Nat
  | .start => kept
  | .finish _ _ _ window => min (kept + 1) (max window 1)

/-- How many outcomes are kept after calls from the beginning. -/
def kept (calls : List Call) : Nat := calls.foldl Call.keeps 0

@[simp] theorem kept_concat (calls : List Call) (c : Call) :
    kept (calls ++ [c]) = c.keeps (kept calls) := by
  simp [kept]

theorem kept_le (calls : List Call) : kept calls ≤ (outcomes calls).length := by
  induction calls using List.reverseRecOn with
  | nil => exact le_rfl
  | append_singleton calls c ih =>
    cases c with
    | start => simpa [Call.keeps] using ih
    | finish =>
      simp only [kept_concat, Call.keeps, outcomes_concat_finish, List.length_append,
        List.length_singleton]
      omega

private theorem rtake_rtake (outcomes : List Bool) (m n : Nat) :
    (outcomes.rtake m).rtake n = outcomes.rtake (min n m) := by
  simp [List.rtake_eq_reverse_take_reverse, List.take_take]

private theorem keepLast_eq (window : Nat) (outcomes : List Bool) :
    keepLast window outcomes = outcomes.rtake (max window 1) := rfl

/-- What is kept are the latest outcomes. -/
theorem recent_after (calls : List Call) :
    (after calls).recent = (outcomes calls).rtake (kept calls) := by
  induction calls using List.reverseRecOn with
  | nil => rfl
  | append_singleton calls c ih =>
    cases c with
    | start => simpa [call, Call.keeps] using ih
    | finish success time alpha window =>
      rw [after_concat, outcomes_concat_finish, kept_concat]
      show keepLast window ((after calls).recent ++ [success]) = _
      rw [ih, keepLast_eq, ← List.rtake_concat_succ, rtake_rtake, min_comm, Call.keeps]

/-- There is something to keep as soon as there is a report. -/
theorem kept_pos (reported : outcomes calls ≠ []) : 0 < kept calls := by
  induction calls using List.reverseRecOn with
  | nil => exact absurd rfl reported
  | append_singleton calls c ih =>
    cases c with
    | start => simpa [Call.keeps] using ih (by simpa using reported)
    | finish => simp [Call.keeps]

private theorem length_rtake_outcomes (calls : List Call) :
    ((outcomes calls).rtake (kept calls)).length = kept calls := by
  have le := kept_le calls
  simp only [List.rtake, List.length_drop]
  omega

/-- The successes among the outcomes that are kept. -/
def successes (calls : List Call) : Nat := ((outcomes calls).rtake (kept calls)).count true

theorem successes_le (calls : List Call) : successes calls ≤ kept calls :=
  List.count_le_length.trans_eq (length_rtake_outcomes calls)

/-- The rate is the share of the successes among the outcomes that are kept. -/
theorem successRate_after (reported : outcomes calls ≠ []) :
    (after calls).successRate = Float.ofNat (successes calls) / Float.ofNat (kept calls) := by
  have filled : ¬ ((outcomes calls).rtake (kept calls)).isEmpty = true := by
    have pos := kept_pos reported
    rw [List.isEmpty_iff_length_eq_zero, length_rtake_outcomes]
    omega
  rw [successRate, recent_after, if_neg filled, length_rtake_outcomes, successes]

theorem successRate_after_of_nil (unreported : outcomes calls = []) :
    (after calls).successRate = 1.0 := by
  rw [successRate, recent_after, unreported, List.rtake_nil]
  rfl

/-! ## The count of open calls -/

/-- What a call adds to the starts that are not finished. -/
def Call.change : Call → Int
  | .start => 1
  | .finish .. => -1

/-- The starts without the finishes, which can be more. -/
def balance (calls : List Call) : Int := (calls.map Call.change).sum

@[simp] theorem balance_concat (calls : List Call) (c : Call) :
    balance (calls ++ [c]) = balance calls + c.change := by
  simp [balance]

/-- The lowest balance of calls on their way. -/
def lowest (calls : List Call) : Int :=
  (Finset.range (calls.length + 1)).inf' Finset.nonempty_range_add_one
    fun n => balance (calls.take n)

theorem lowest_concat (calls : List Call) (c : Call) :
    lowest (calls ++ [c]) = min (lowest calls) (balance (calls ++ [c])) := by
  have before : ∀ n ∈ Finset.range (calls.length + 1),
      balance ((calls ++ [c]).take n) = balance (calls.take n) := by
    intro n mem
    rw [List.take_append_of_le_length (by simpa [Nat.lt_succ_iff] using mem)]
  have all : (calls ++ [c]).take (calls.length + 1) = calls ++ [c] :=
    List.take_of_length_le (by simp)
  calc
    lowest (calls ++ [c]) = (insert (calls.length + 1) (Finset.range (calls.length + 1))).inf'
        (Finset.insert_nonempty _ _) fun n => balance ((calls ++ [c]).take n) :=
      Finset.inf'_congr _ (by simp [Finset.range_add_one]) fun _ _ => rfl
    _ = min (balance (calls ++ [c])) (lowest calls) := by
      rw [Finset.inf'_insert Finset.nonempty_range_add_one, all,
        Finset.inf'_congr Finset.nonempty_range_add_one rfl before]
      rfl
    _ = min (lowest calls) (balance (calls ++ [c])) := min_comm _ _

private theorem lowest_nonpos (calls : List Call) : lowest calls ≤ 0 :=
  Finset.inf'_le _ (Finset.mem_range.mpr (Nat.succ_pos _))

theorem lowest_le_balance (calls : List Call) : lowest calls ≤ balance calls := by
  have last : balance (calls.take calls.length) = balance calls := by rw [List.take_length]
  rw [← last]
  exact Finset.inf'_le _ (Finset.self_mem_range_succ _)

/-- How far the balance is above its lowest point. -/
def height (calls : List Call) : Int := balance calls - lowest calls

theorem height_concat_start (calls : List Call) :
    height (calls ++ [.start]) = height calls + 1 := by
  have above := lowest_le_balance calls
  rw [height, height, lowest_concat, balance_concat, Call.change]
  omega

theorem height_concat_finish (calls : List Call) :
    height (calls ++ [.finish success time alpha window]) = max 0 (height calls - 1) := by
  have above := lowest_le_balance calls
  rw [height, height, lowest_concat, balance_concat, Call.change]
  omega

/-- Whether a call is a start. -/
def Call.isStart : Call → Bool
  | .start => true
  | .finish .. => false

theorem height_le_countP (calls : List Call) : height calls ≤ calls.countP Call.isStart := by
  induction calls using List.reverseRecOn with
  | nil => exact le_rfl
  | append_singleton calls c ih =>
    cases c with
    | start =>
      rw [height_concat_start, List.countP_append, List.countP_singleton, Call.isStart, if_pos rfl]
      omega
    | finish success time alpha window =>
      rw [height_concat_finish, List.countP_append, List.countP_singleton, Call.isStart]
      omega

/-- The open calls always fit in a word. -/
def Fits (calls : List Call) : Prop := ∀ early, early <+: calls → height early < 2 ^ 64

theorem fits_of_countP (few : calls.countP Call.isStart < 2 ^ 64) : Fits calls := by
  intro early part
  have fewer : early.countP Call.isStart ≤ calls.countP Call.isStart :=
    part.sublist.countP_le
  have below := height_le_countP early
  omega

theorem Fits.init {c : Call} (fits : Fits (calls ++ [c])) : Fits calls :=
  fun early part => fits early (part.trans (List.prefix_append calls [c]))

/-- The count of open calls is the height of the balance above its lowest point. -/
theorem inFlight_after (fits : Fits calls) : ((after calls).inFlight : Int) = height calls := by
  induction calls using List.reverseRecOn with
  | nil => rfl
  | append_singleton calls c ih =>
    have before := ih fits.init
    rw [after_concat]
    cases c with
    | start =>
      have next := fits _ List.prefix_rfl
      rw [height_concat_start] at next ⊢
      rw [call, inFlight_start, Nat.mod_eq_of_lt (by omega)]
      omega
    | finish success time alpha window =>
      rw [height_concat_finish, call, inFlight_finish]
      omega

/-- No more calls are open than there were starts. -/
theorem inFlight_le_countP (calls : List Call) :
    (after calls).inFlight ≤ calls.countP Call.isStart := by
  induction calls using List.reverseRecOn with
  | nil => exact le_rfl
  | append_singleton calls c ih =>
    rw [after_concat, List.countP_append, List.countP_singleton]
    cases c with
    | start =>
      rw [call, inFlight_start, Call.isStart]
      exact (Nat.mod_le _ _).trans (Nat.succ_le_succ ih)
    | finish success time alpha window =>
      rw [call, inFlight_finish]
      exact (Nat.sub_le _ 1).trans ih

/-- After any calls, the outcomes that are kept are the latest ones, as many as the windows have
left. There are some as soon as there was a report, and the rate, which is one before that, is the
share of successes among them, as near as a number in floating point can be. As long as the open
calls fit in a word, as they do with fewer than `2 ^ 64` starts, their count is the height of the
balance above its lowest point on the way. So it is not less than the balance, and never more than
the starts. -/
theorem window_and_inFlight_after (calls : List Call) :
    kept calls ≤ (outcomes calls).length ∧
      (after calls).recent = (outcomes calls).rtake (kept calls) ∧
      (after calls).recent.length = kept calls ∧
      (outcomes calls = [] → (after calls).successRate = 1.0) ∧
      (outcomes calls ≠ [] → (after calls).recent ≠ [] ∧
        (after calls).successRate = Float.ofNat (successes calls) / Float.ofNat (kept calls) ∧
        (kept calls < 2 ^ 53 →
          Decimal.NearestTo (successes calls / kept calls) (after calls).successRate)) ∧
      (Fits calls → ((after calls).inFlight : Int) = balance calls -
          (Finset.range (calls.length + 1)).inf' Finset.nonempty_range_add_one
            (fun j => balance (calls.take j)) ∧
        max 0 (balance calls) ≤ (after calls).inFlight) ∧
      (after calls).inFlight ≤ calls.countP Call.isStart ∧
      (calls.countP Call.isStart < 2 ^ 64 → Fits calls) := by
  have length : (after calls).recent.length = kept calls := by
    rw [recent_after, length_rtake_outcomes]
  refine ⟨kept_le calls, recent_after calls, length, successRate_after_of_nil, fun reported => ?_,
    fun fits => ?_, inFlight_le_countP calls, fits_of_countP⟩
  · have pos := kept_pos reported
    refine ⟨List.ne_nil_of_length_pos (by omega), successRate_after reported, fun few => ?_⟩
    rw [successRate_after reported]
    exact Decimal.nearestTo_share pos ((successes_le calls).trans_lt few) few
  · have opened : ((after calls).inFlight : Int) = balance calls - lowest calls :=
      inFlight_after fits
    have bottom := lowest_nonpos calls
    exact ⟨opened, by omega⟩

/-- Reports without selections, with windows that shrink to one outcome and grow again. -/
def regrown : List Call :=
  [.finish true .zero 0.5 3, .finish true .zero 0.5 3, .finish false .zero 0.5 0, .start,
    .finish true .zero 0.5 5, .start, .start]

theorem window_and_inFlight_after_regrown :
    (outcomes [.start] = [] ∧ (after [.start]).successRate = 1.0) ∧
      (outcomes regrown = [true, true, false, true] ∧ outcomes regrown ≠ [] ∧
        kept regrown = 2 ∧ kept regrown < 2 ^ 53) ∧
      (after regrown).recent = [false, true] ∧
      Decimal.NearestTo (1 / 2) (after regrown).successRate ∧
      (regrown.countP Call.isStart = 3 ∧ Fits regrown) ∧
      balance regrown = -1 ∧ (after regrown).inFlight = 2 := by
  obtain ⟨-, -, -, first, -⟩ := window_and_inFlight_after [.start]
  obtain ⟨-, recent, -, -, rate, count, -, starts⟩ := window_and_inFlight_after regrown
  have reported : outcomes regrown ≠ [] := by decide
  have few : kept regrown < 2 ^ 53 := by decide
  have share := (rate reported).2.2 few
  have counts : successes regrown = 1 ∧ kept regrown = 2 := ⟨rfl, rfl⟩
  have bottom : balance regrown - lowest regrown = 2 := rfl
  have fits : Fits regrown := starts (by decide)
  refine ⟨⟨rfl, first rfl⟩, ⟨rfl, reported, rfl, few⟩, recent, ?_, ⟨rfl, fits⟩, rfl, ?_⟩
  · rwa [counts.1, counts.2, Nat.cast_one, Nat.cast_two] at share
  · exact_mod_cast (count fits).1.trans bottom

end ServiceMesh.Load
