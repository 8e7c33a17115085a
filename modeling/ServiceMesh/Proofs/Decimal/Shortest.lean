import Mathlib.Algebra.Order.Ring.Nat
import Mathlib.Data.Nat.Digits.Defs
import Mathlib.Tactic.Ring
import ServiceMesh.Decimal.Shortest
import ServiceMesh.Proofs.Decimal.Order

/-!
# Decimals of numbers up to one

The decimal of a number between zero and one does not exceed two, wherever the search for it ends.
So its point stands behind its first digit or before it.
-/

namespace ServiceMesh.Decimal

variable {x : Float} {b : Binary64} {i : Interval} {e : Int} {k fuel : Nat} {d : Scientific}

/-- A decimal of at most two. If there is no digit but zero, there is a place behind the point. -/
structure Scientific.Small (d : Scientific) : Prop where
  bound : d.digits * 10 ^ d.exponent.toNat ≤ 2 * 10 ^ (-d.exponent).toNat
  placed : 0 < d.digits ∨ d.exponent < 0

/-- An interval that does not reach beyond two. -/
structure Interval.Small (i : Interval) : Prop where
  unit : i.unit ≤ 0
  value : i.value ≤ i.high
  high : i.high ≤ 2 * 2 ^ (-i.unit).toNat

namespace Interval

theorem le_of_contains (inside : i.contains e k = true) :
    k * (i.scales e).2 ≤ i.high * (i.scales e).1 := by
  simp only [contains] at inside
  split at inside
  · simp only [Bool.and_eq_true, decide_eq_true_eq] at inside
    exact inside.2
  · simp only [Bool.and_eq_true, decide_eq_true_eq] at inside
    exact Nat.le_of_lt inside.2

theorem contains_of_nearest? (found : i.nearest? e = some k) : 0 < k ∧ i.contains e k = true := by
  simp only [nearest?] at found
  split at found
  case h_1 lower upper =>
    simp only [Bool.and_eq_true, bne_iff_ne] at lower
    split at found
    · cases found
      exact ⟨Nat.pos_of_ne_zero lower.2, lower.1⟩
    split at found
    · cases found
      exact ⟨Nat.succ_pos _, upper⟩
    split at found <;> cases found
    · exact ⟨Nat.pos_of_ne_zero lower.2, lower.1⟩
    · exact ⟨Nat.succ_pos _, upper⟩
  case h_2 lower _ =>
    simp only [Bool.and_eq_true, bne_iff_ne] at lower
    cases found
    exact ⟨Nat.pos_of_ne_zero lower.2, lower.1⟩
  case h_3 upper =>
    cases found
    exact ⟨Nat.succ_pos _, upper⟩
  case h_4 => cases found

/-- A grid point that is not above an interval of numbers of at most two is at most two itself. -/
theorem Small.bound (small : i.Small) (le : k * (i.scales e).2 ≤ i.high * (i.scales e).1) :
    k * 10 ^ e.toNat ≤ 2 * 10 ^ (-e).toNat := by
  have unit : i.unit.toNat = 0 := Int.toNat_of_nonpos small.unit
  simp only [scales, unit, Nat.shiftLeft_eq, pow_zero, mul_one] at le
  have scaled : k * 10 ^ e.toNat * 2 ^ (-i.unit).toNat ≤
      2 * 10 ^ (-e).toNat * 2 ^ (-i.unit).toNat := by
    calc
      k * 10 ^ e.toNat * 2 ^ (-i.unit).toNat = k * (10 ^ e.toNat * 2 ^ (-i.unit).toNat) := by
        rw [mul_assoc]
      _ ≤ i.high * 10 ^ (-e).toNat := le
      _ ≤ 2 * 2 ^ (-i.unit).toNat * 10 ^ (-e).toNat := Nat.mul_le_mul_right _ small.high
      _ = 2 * 10 ^ (-e).toNat * 2 ^ (-i.unit).toNat := by ring
  exact Nat.le_of_mul_le_mul_right scaled (Nat.two_pow_pos _)

theorem Small.small_search (small : i.Small) (room : e < fuel) : (i.search fuel e).Small := by
  induction fuel generalizing e with
  | zero =>
    refine ⟨small.bound ?_, .inr room⟩
    exact (Nat.div_mul_le_self _ _).trans (Nat.mul_le_mul_right _ small.value)
  | succ fuel ih =>
    rw [search]
    split
    case h_1 k found =>
      obtain ⟨pos, inside⟩ := contains_of_nearest? found
      exact ⟨small.bound (le_of_contains inside), .inl pos⟩
    case h_2 => exact ih (by omega)

end Interval

namespace Scientific

/-- A zero that is left out of the digits is counted by the exponent. -/
theorem Small.trim (small : d.Small) : (trim fuel d).Small := by
  induction fuel generalizing d with
  | zero => exact small
  | succ fuel ih =>
    rw [Scientific.trim]
    split
    case isFalse => exact small
    case isTrue zero =>
      have bound := small.bound
      have digits : d.digits = d.digits / 10 * 10 := by omega
      refine ih ⟨?_, .inl (by show 0 < d.digits / 10; omega)⟩
      show d.digits / 10 * 10 ^ (d.exponent + 1).toNat ≤ 2 * 10 ^ (-(d.exponent + 1)).toNat
      rw [digits] at bound
      rcases Int.lt_or_le d.exponent 0 with below | above
      · have up : (d.exponent + 1).toNat = 0 := by omega
        have now : d.exponent.toNat = 0 := by omega
        have down : (-d.exponent).toNat = (-(d.exponent + 1)).toNat + 1 := by omega
        rw [now, down, pow_succ] at bound
        rw [up]
        omega
      · have up : (d.exponent + 1).toNat = d.exponent.toNat + 1 := by omega
        have down : (-(d.exponent + 1)).toNat = (-d.exponent).toNat := by omega
        rw [up, down, pow_succ, ← mul_assoc, mul_right_comm]
        exact bound

/-- The point of a decimal of at most two stands behind its first digit or before it. -/
theorem Small.point_le (small : d.Small) :
    ((Nat.toDigits 10 d.digits).length : Int) + d.exponent ≤ 1 := by
  have bound := small.bound
  rcases Int.lt_or_le d.exponent 0 with below | above
  · have now : d.exponent.toNat = 0 := by omega
    rw [now, pow_zero, mul_one] at bound
    have length : (Nat.toDigits 10 d.digits).length ≤ (-d.exponent).toNat + 1 := by
      rw [Nat.length_toDigits_le_iff (by decide) (Nat.succ_pos _), pow_succ]
      have pos := Nat.pow_pos (n := (-d.exponent).toNat) (show 0 < 10 by decide)
      omega
    omega
  · have now : (-d.exponent).toNat = 0 := by omega
    have digit := small.placed.resolve_right (by omega)
    rw [now, pow_zero, mul_one] at bound
    have exponent : d.exponent.toNat = 0 := by
      by_contra more
      have large : 10 ^ 1 ≤ 10 ^ d.exponent.toNat := Nat.pow_le_pow_right (by decide) (by omega)
      have product := Nat.mul_le_mul digit large
      omega
    rw [exponent, pow_zero, mul_one] at bound
    have length : (Nat.toDigits 10 d.digits).length ≤ 1 := by
      rw [Nat.length_toDigits_le_iff (by decide) Nat.one_pos]
      omega
    omega

end Scientific

/-- The numbers that read back as a number up to one do not exceed two. -/
theorem Binary64.small_interval (below : b.exponent ≤ 0)
    (bound : b.significand ≤ 2 ^ (-b.exponent).toNat) : b.interval.Small := by
  have unit : (-(b.exponent - 2)).toNat = (-b.exponent).toNat + 2 := by omega
  have pos := Nat.two_pow_pos (-b.exponent).toNat
  refine ⟨?_, ?_, ?_⟩
  · show b.exponent - 2 ≤ 0
    omega
  · exact Nat.le_add_right _ _
  · show 4 * b.significand + 2 ≤ 2 * 2 ^ (-(b.exponent - 2)).toNat
    rw [unit, pow_add]
    omega

/-- A number between zero and one has an exact value up to one, and it has a sign only if it is
zero. -/
theorem exists_ofFloat? (low : 0.0 ≤ x) (high : x ≤ 1.0) :
    ∃ b, Binary64.ofFloat? x = some b ∧ (b.negative = true → b.significand = 0) ∧
      b.exponent ≤ 0 ∧ b.significand ≤ 2 ^ (-b.exponent).toNat := by
  obtain ⟨signed, near⟩ := magnitude_le_one low high
  have bits := toBits_toNat_lt x
  rw [Signed] at signed
  simp only [magnitude, signBit, Nat.one_shiftLeft] at signed near bits
  simp only [Binary64.ofFloat?, Binary64.leadingBit, Nat.one_shiftLeft,
    Nat.shiftRight_eq_div_pow]
  generalize x.toBits.toNat = n at *
  rw [if_neg (by omega)]
  split
  case isTrue zero =>
    have nonpos : (-1074 : Int) ≤ 0 := by decide
    have large : 52 ≤ (-(-1074 : Int)).toNat := by decide
    have fraction : n % 2 ^ 52 < 2 ^ 52 := Nat.mod_lt _ (by decide)
    refine ⟨_, rfl, fun negative => ?_, nonpos,
      fraction.le.trans (Nat.pow_le_pow_right Nat.two_pos large)⟩
    have top : n / 2 ^ 63 = 1 := beq_iff_eq.mp negative
    show n % 2 ^ 52 = 0
    omega
  case isFalse stored =>
    generalize exponent : n / 2 ^ 52 % 2048 = s at *
    have up : (-((s : Int) - 1075)).toNat = 1075 - s := by omega
    refine ⟨_, rfl, fun negative => ?_, by show (s : Int) - 1075 ≤ 0; omega, ?_⟩
    · have top : n / 2 ^ 63 = 1 := beq_iff_eq.mp negative
      omega
    · show 2 ^ 52 + n % 2 ^ 52 ≤ 2 ^ (-((s : Int) - 1075)).toNat
      rw [up]
      rcases Nat.lt_or_ge s 1023 with less | one
      · have large : 2 ^ 53 ≤ 2 ^ (1075 - s) := Nat.pow_le_pow_right (by decide) (by omega)
        omega
      · have last : s = 1023 := by omega
        rw [last]
        omega

theorem Binary64.small_shortest (below : b.exponent ≤ 0)
    (bound : b.significand ≤ 2 ^ (-b.exponent).toNat) : b.shortest.Small :=
  ((small_interval below bound).small_search (by decide)).trim

end ServiceMesh.Decimal
