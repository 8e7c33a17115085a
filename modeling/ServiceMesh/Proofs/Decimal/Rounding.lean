import Mathlib.Data.Rat.Cast.Order
import Mathlib.Tactic.FieldSimp
import Mathlib.Tactic.Linarith
import Mathlib.Tactic.Positivity
import Mathlib.Tactic.Ring
import ServiceMesh.Proofs.Decimal.Order

/-!
# Rounding to significands of 53 bits

A significand is rounded with two bits of what is left of the number behind it, which are enough to
tell what the number is nearer to. They stand for that number, before and after any shift to the
right. Rounded significands of 53 bits are packed and unpacked without a change, and what has no
more bits is not changed by rounding.
-/

namespace ServiceMesh.Decimal

open Float.Model UnpackedFloat

/-! ## Rounding -/

/-- What a significand with its two residual bits stands for: the round bit is a half, and the
sticky bit tells of something that is less. -/
def Stands (em : ExtendedMantissa) (v : ℚ) : Prop :=
  ∃ rest : ℚ, 0 ≤ rest ∧ rest < 1 / 2 ∧ (em.stickyBit = true ↔ rest ≠ 0) ∧
    v = em.mantissa + (if em.roundBit then 1 / 2 else 0) + rest

theorem Stands.shiftRightOne {em : ExtendedMantissa} {v : ℚ} (stands : Stands em v) :
    Stands em.shiftRightOne (v / 2) := by
  obtain ⟨m, r, s⟩ := em
  obtain ⟨rest, nonneg, less, sticky, rfl⟩ := stands
  have digits : (m : ℚ) = 2 * (m / 2 : ℕ) + (m % 2 : ℕ) := by
    exact_mod_cast (Nat.div_add_mod m 2).symm
  have half : (if r then 1 / 2 else 0 : ℚ) = 0 ∧ r = false ∨
      (if r then 1 / 2 else 0 : ℚ) = 1 / 2 ∧ r = true := by
    cases r <;> simp
  refine ⟨((if r then 1 / 2 else 0) + rest) / 2, ?_, ?_, ?_, ?_⟩
  · rcases half with ⟨half, -⟩ | ⟨half, -⟩ <;> rw [half] <;> linarith
  · rcases half with ⟨half, -⟩ | ⟨half, -⟩ <;> rw [half] <;> linarith
  · show (r || s) = true ↔ _
    rcases half with ⟨half, rfl⟩ | ⟨half, rfl⟩ <;> rw [half]
    · simpa using sticky
    · have left : 0 < (1 / 2 + rest) / 2 := by linarith
      exact iff_of_true rfl left.ne'
  · show ((m : ℚ) + _ + rest) / 2 = (m / 2 : ℕ) + (if m % 2 != 0 then 1 / 2 else 0) + _
    have odd : (if m % 2 != 0 then 1 / 2 else 0 : ℚ) = (m % 2 : ℕ) / 2 := by
      rcases Nat.mod_two_eq_zero_or_one m with bit | bit <;> rw [bit] <;> simp
    rw [odd, digits]
    ring

theorem Stands.shiftRight {em : ExtendedMantissa} {v : ℚ} (stands : Stands em v) (k : ℕ) :
    Stands (em >>> k) (v / 2 ^ k) := by
  induction k with
  | zero =>
    rw [pow_zero, div_one]
    exact stands
  | succ k ih =>
    rw [pow_succ, ← div_div]
    exact ih.shiftRightOne

theorem roundedMantissa_cases (em : ExtendedMantissa) :
    em.roundedMantissa = em.mantissa ∧ (em.roundBit = true → em.stickyBit = false) ∨
      em.roundedMantissa = em.mantissa + 1 ∧ em.roundBit = true := by
  obtain ⟨m, r, s⟩ := em
  have bit := Nat.mod_two_eq_zero_or_one m
  cases r <;> cases s <;>
    simp [ExtendedMantissa.roundedMantissa, ExtendedMantissa.accuracy,
      Accuracy.roundToNearestEven]
  omega

/-- No whole number is nearer than the rounded significand. -/
theorem Stands.nearest {em : ExtendedMantissa} {v : ℚ} (stands : Stands em v) (n : ℤ) :
    |(em.roundedMantissa : ℚ) - v| ≤ |(n : ℚ) - v| := by
  obtain ⟨rest, nonneg, less, sticky, known⟩ := stands
  have around : (n : ℚ) ≤ em.mantissa ∨ (em.mantissa : ℚ) + 1 ≤ n := by
    rcases Int.lt_or_le (em.mantissa : ℤ) n with above | below
    · exact .inr (by exact_mod_cast above)
    · exact .inl (by exact_mod_cast below)
  rcases roundedMantissa_cases em with ⟨down, even⟩ | ⟨up, half⟩
  · -- Rounded down: the number is at most a half above its significand.
    have low : (em.mantissa : ℚ) ≤ v ∧ v ≤ em.mantissa + 1 / 2 := by
      cases round : em.roundBit with
      | false =>
        rw [round] at known
        norm_num at known
        constructor <;> linarith
      | true =>
        have zero : rest = 0 := by
          by_contra left
          exact nomatch (even round).symm.trans (sticky.mpr left)
        rw [round, zero] at known
        norm_num at known
        constructor <;> linarith
    rw [down, abs_of_nonpos (by linarith)]
    rcases around with below | above
    · rw [abs_of_nonpos (by linarith)]
      linarith
    · rw [abs_of_nonneg (by linarith)]
      linarith
  · rw [half, if_pos rfl] at known
    rw [up, Nat.cast_add, Nat.cast_one, abs_of_nonneg (by linarith)]
    rcases around with below | above
    · rw [abs_of_nonpos (by linarith)]
      linarith
    · rw [abs_of_nonneg (by linarith)]
      linarith

/-- No step of a ladder is nearer than the rounded one. -/
theorem Stands.nearest_mul {em : ExtendedMantissa} {v : ℚ} (stands : Stands em v) (n : ℤ) (t : ℚ) :
    |em.roundedMantissa * t - v * t| ≤ |n * t - v * t| := by
  rw [← sub_mul, ← sub_mul, abs_mul, abs_mul]
  exact mul_le_mul_of_nonneg_right (stands.nearest n) (abs_nonneg t)

theorem stands_exact (m : ℕ) : Stands (.ofMantissaAndAccuracy m .exact) m :=
  ⟨0, le_rfl, by norm_num, by simp [ExtendedMantissa.ofMantissaAndAccuracy], by
    simp [ExtendedMantissa.ofMantissaAndAccuracy]⟩

theorem stands_fraction (m : ℕ) {num den : ℕ} (less : num < den) :
    Stands (.ofMantissaAndAccuracy m (accuracyOfFraction num den)) (m + num / den) := by
  have pos : (0 : ℚ) < den := by exact_mod_cast Nat.zero_lt_of_lt less
  rcases Nat.eq_zero_or_pos num with rfl | nonzero
  · simpa [accuracyOfFraction] using stands_exact m
  have above : (0 : ℚ) < num / den := div_pos (by exact_mod_cast nonzero) pos
  have below : (num : ℚ) / den < 1 := (div_lt_one pos).mpr (by exact_mod_cast less)
  rw [accuracyOfFraction, if_neg nonzero.ne']
  rcases Nat.lt_trichotomy (2 * num) den with small | half | large
  · have under : (num : ℚ) / den < 1 / 2 := by
      rw [div_lt_div_iff₀ pos two_pos]
      exact_mod_cast (by omega : num * 2 < 1 * den)
    rw [compare_lt_iff_lt.mpr small]
    exact ⟨num / den, above.le, under, iff_of_true rfl above.ne',
      by simp [ExtendedMantissa.ofMantissaAndAccuracy]⟩
  · have middle : (num : ℚ) / den = 1 / 2 := by
      rw [div_eq_div_iff pos.ne' two_ne_zero]
      exact_mod_cast (by omega : num * 2 = 1 * den)
    rw [compare_eq_iff_eq.mpr half, middle]
    exact ⟨0, le_rfl, by norm_num, by simp [ExtendedMantissa.ofMantissaAndAccuracy],
      by simp [ExtendedMantissa.ofMantissaAndAccuracy]⟩
  · have beyond : 1 / 2 < (num : ℚ) / den := by
      rw [div_lt_div_iff₀ two_pos pos]
      exact_mod_cast (by omega : 1 * den < num * 2)
    rw [compare_gt_iff_gt.mpr large]
    exact ⟨num / den - 1 / 2, by linarith, by linarith,
      iff_of_true rfl (sub_pos.mpr beyond).ne', by simp [ExtendedMantissa.ofMantissaAndAccuracy]⟩

/-! ## Significands of 53 bits -/

variable {m k : ℕ} {e : ℤ}

theorem mantissa_shiftRight (em : ExtendedMantissa) (k : ℕ) :
    (em >>> k).mantissa = em.mantissa / 2 ^ k := by
  induction k with
  | zero => exact (Nat.div_one _).symm
  | succ k ih =>
    rw [pow_succ, ← Nat.div_div_eq_div_mul, ← ih]
    rfl

theorem log2_mul_two_pow (pos : 0 < m) (k : ℕ) : (m * 2 ^ k).log2 = m.log2 + k := by
  obtain ⟨low, high⟩ := (Nat.log2_eq_iff pos.ne').mp rfl
  refine (Nat.log2_eq_iff (Nat.mul_pos pos (Nat.two_pow_pos k)).ne').mpr ⟨?_, ?_⟩
  · rw [pow_add]
    exact Nat.mul_le_mul_right _ low
  · rw [Nat.add_right_comm, pow_add]
    exact Nat.mul_lt_mul_of_pos_right high (Nat.two_pow_pos k)

/-- A normal number is written with its exponent raised and without its leading bit. -/
theorem pack_eq {s : Sign} {stored : ℕ} (pos : 0 < m) (long : m.log2 = 52) (top : stored < 2047) :
    UnpackedFloat.pack .binary64 (.finite s m (stored - 1075) pos) =
      packComponents .binary64 s (BitVec.ofNat 11 stored) (BitVec.ofNat 52 m) := by
  have biased : ((stored : ℤ) - 1075 + (1023 : ℕ) + (52 : ℕ)).toNat = stored := by omega
  show (if 2 ^ 11 ≤ ((stored : ℤ) - 1075 + (1023 : ℕ) + (52 : ℕ)).toNat + 1 then _
    else if m.log2 + 1 = 53 then packComponents .binary64 s
      (BitVec.ofNat 11 ((stored : ℤ) - 1075 + (1023 : ℕ) + (52 : ℕ)).toNat) (BitVec.ofNat 52 m)
    else _) = _
  rw [biased, if_neg (by omega), if_pos (by omega)]

theorem toNat_leadingBit_append (least : 2 ^ 52 ≤ m) (less : m < 2 ^ 53) :
    (1#1 ++ BitVec.ofNat 52 m).toNat = m := by
  have fraction : (BitVec.ofNat 52 m).toNat = m - 2 ^ 52 := by
    show m % 2 ^ 52 = m - 2 ^ 52
    omega
  rw [BitVec.toNat_append, ← Nat.shiftLeft_add_eq_or_of_lt (BitVec.isLt _), fraction]
  show 1 <<< 52 + (m - 2 ^ 52) = m
  omega

/-- Normal numbers are read as they were written. -/
theorem unpack_pack {s : Sign} (pos : 0 < m) (long : m.log2 = 52) (low : -1074 ≤ e)
    (high : e ≤ 971) :
    (Float.Model.pack (.finite s m e pos)).unpack = .finite s m e pos := by
  obtain ⟨stored, rfl⟩ : ∃ stored : ℕ, e = stored - 1075 := ⟨(e + 1075).toNat, by omega⟩
  obtain ⟨least, less⟩ := (Nat.log2_eq_iff pos.ne').mp long
  have exponent : (BitVec.ofNat 11 stored).toNat = stored := Nat.mod_eq_of_lt (by omega)
  have ends : (-1#11).toNat = 2047 ∧ (0#11).toNat = 0 := ⟨rfl, rfl⟩
  have finite : BitVec.ofNat 11 stored ≠ -1#11 := by
    rw [Ne, ← BitVec.toNat_inj, exponent]
    omega
  have normal : BitVec.ofNat 11 stored ≠ 0#11 := by
    rw [Ne, ← BitVec.toNat_inj, exponent]
    omega
  have leading := toNat_leadingBit_append least less
  have sign : Sign.ofBitVec s.toBitVec = s := by cases s <;> rfl
  have unbiased : ((BitVec.ofNat 11 stored).toNat : ℤ) - ((1023 : ℕ) + (52 : ℕ)) =
      stored - 1075 := by
    rw [exponent]
    omega
  show UnpackedFloat.unpack .binary64 (UnpackedFloat.pack .binary64 _) = _
  rw [pack_eq pos long (by omega), UnpackedFloat.unpack]
  simp only [unpackMantissa_packComponents, unpackExponent_packComponents,
    unpackSign_packComponents]
  rw [if_neg finite, if_neg normal]
  congr 1

theorem shiftToTargetExponent_eq (acc : Accuracy) (long : m.log2 = 52 + k) (low : -1074 ≤ e + k) :
    shiftToTargetExponent .binary64 m e acc =
      (ExtendedMantissa.ofMantissaAndAccuracy m acc >>> k, e + k) := by
  have target : Format.binary64.targetExponent (totalExponent m e) = e + k := by
    simp only [Format.targetExponent, totalExponent, long, Format.mantissaBits, Format.minExponent]
    norm_num
    omega
  simp only [shiftToTargetExponent, target, shiftToExponent, add_sub_cancel_left,
    Int.toNat_natCast]

theorem mantissa_ofMantissaAndAccuracy (m : ℕ) (acc : Accuracy) :
    (ExtendedMantissa.ofMantissaAndAccuracy m acc).mantissa = m := by
  cases acc with
  | exact => rfl
  | inexact order => cases order <;> rfl

/-- A carry out of a significand of 53 bits makes it one bit longer, and the last bit is a zero. -/
theorem exists_carry {em : ExtendedMantissa} (least : 2 ^ 52 ≤ em.mantissa)
    (less : em.mantissa < 2 ^ 53) : ∃ j ≤ 1, em.roundedMantissa.log2 = 52 + j ∧
      2 ^ j ∣ em.roundedMantissa := by
  have rounded : 2 ^ 52 ≤ em.roundedMantissa ∧ em.roundedMantissa ≤ 2 ^ 53 := by
    rcases roundedMantissa_cases em with ⟨down, -⟩ | ⟨up, -⟩ <;> omega
  rcases Nat.lt_or_eq_of_le rounded.2 with short | full
  · exact ⟨0, Nat.zero_le 1, (Nat.log2_eq_iff (by omega)).mpr ⟨rounded.1, short⟩, one_dvd _⟩
  · exact ⟨1, le_rfl, by rw [full, Nat.log2_two_pow], by rw [full]; decide⟩

/-- Rounding leaves 53 bits, and their value is that of the rounded significand. -/
theorem roundWithAccuracy_eq (s : Sign) (acc : Accuracy) (long : m.log2 = 52 + k)
    (low : -1074 ≤ e + k) : ∃ M E pos, roundWithAccuracy .binary64 s m e acc = .finite s M E pos ∧
      M.log2 = 52 ∧ e + k ≤ E ∧ E ≤ e + k + 1 ∧ (M : ℚ) * 2 ^ E =
        (ExtendedMantissa.ofMantissaAndAccuracy m acc >>> k).roundedMantissa * 2 ^ (e + k) := by
  have pos : m ≠ 0 := by
    rintro rfl
    simp at long
    omega
  obtain ⟨least, less⟩ := (Nat.log2_eq_iff pos).mp long
  have digits : 2 ^ 52 ≤ m / 2 ^ k ∧ m / 2 ^ k < 2 ^ 53 := by
    rw [Nat.le_div_iff_mul_le (Nat.two_pow_pos k), Nat.div_lt_iff_lt_mul (Nat.two_pow_pos k),
      ← pow_add, ← pow_add, Nat.add_right_comm 52 1]
    exact ⟨least, less⟩
  generalize first : ExtendedMantissa.ofMantissaAndAccuracy m acc >>> k = em
  rw [← mantissa_ofMantissaAndAccuracy m acc, ← mantissa_shiftRight, first] at digits
  obtain ⟨carry, once, longer, half, double⟩ := exists_carry digits.1 digits.2
  have second := shiftToTargetExponent_eq .exact longer
    (by omega : -1074 ≤ e + k + carry)
  have left : (ExtendedMantissa.ofMantissaAndAccuracy em.roundedMantissa .exact >>>
      carry).mantissa = half := by
    rw [mantissa_shiftRight, mantissa_ofMantissaAndAccuracy, double,
      Nat.mul_div_cancel_left _ (Nat.two_pow_pos carry)]
  have nonzero : 0 < half := by
    rcases Nat.eq_zero_or_pos half with rfl | nonzero
    · rw [double, mul_zero, Nat.log2_zero] at longer
      omega
    · exact nonzero
  refine ⟨half, e + k + carry, nonzero, ?_, ?_, by omega, by omega, ?_⟩
  · simp only [roundWithAccuracy, shiftToTargetExponent_eq acc long low, first, second, left]
    rw [dif_neg nonzero.ne']
  · rw [double, mul_comm, log2_mul_two_pow nonzero] at longer
    omega
  · rw [double, zpow_add₀ two_ne_zero _ (carry : ℤ), zpow_natCast]
    push_cast
    ring

/-- What has at most 53 bits is not changed by rounding. -/
theorem roundWithAccuracy_exact (s : Sign) (pos : 0 < m) (long : m.log2 = 52)
    (low : -1074 ≤ e + k) :
    roundWithAccuracy .binary64 s (m * 2 ^ k) e .exact = .finite s m (e + k) pos := by
  have longer : (m * 2 ^ k).log2 = 52 + k := by rw [log2_mul_two_pow pos, long]
  have stands := (stands_exact (m * 2 ^ k)).shiftRight k
  rw [Nat.cast_mul, Nat.cast_pow, Nat.cast_two, mul_div_cancel_right₀ _ (by positivity)] at stands
  have same : (ExtendedMantissa.ofMantissaAndAccuracy (m * 2 ^ k) .exact >>> k).roundedMantissa
      = m := by
    have nearest := stands.nearest m
    rw [Int.cast_natCast, sub_self, abs_zero, abs_nonpos_iff, sub_eq_zero] at nearest
    exact_mod_cast nearest
  have again : -1074 ≤ e + k + (0 : ℕ) := by omega
  have long' : m.log2 = 52 + 0 := long
  simp only [roundWithAccuracy, shiftToTargetExponent_eq .exact longer low, same,
    shiftToTargetExponent_eq .exact long' again, mantissa_shiftRight,
    mantissa_ofMantissaAndAccuracy, pow_zero, Nat.div_one, Nat.cast_zero, add_zero, dif_neg pos.ne']

end ServiceMesh.Decimal
