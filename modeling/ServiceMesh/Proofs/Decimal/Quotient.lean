import Mathlib.Algebra.Order.Field.Power
import ServiceMesh.Proofs.Decimal.Rounding

/-!
# Quotients of counts

Two whole numbers of at most 53 bits are exact in floating point, and no number in floating point is
nearer to their quotient than the one that comes out of the division. The division keeps 53 bits of
the quotient or one more and rounds once. All numbers that are not less than the least significand
of 53 bits are steps of one ladder then, the rounded one is the nearest of the steps, and what is
below the ladder is no nearer than its foot.
-/

namespace ServiceMesh.Decimal

open Float.Model UnpackedFloat

variable {x y : Float} {m n k : ℕ} {e d : ℤ}

/-! ## Counts -/

/-- A count of at most 53 bits is normal if it is shifted to the left. -/
theorem round_eq {j : ℕ} (pos : 0 < n * 2 ^ j) (long : n.log2 + j = 52) :
    UnpackedFloat.round .binary64 .positive n 0 = .finite .positive (n * 2 ^ j) (-j) pos := by
  have target : Format.binary64.targetExponent (totalExponent n 0) = -j := by
    simp only [Format.targetExponent, totalExponent, Format.mantissaBits, Format.minExponent]
    norm_num
    omega
  have bits : (n * 2 ^ j).log2 = 52 := by
    rw [log2_mul_two_pow (Nat.pos_of_mul_pos_right pos), long]
  have fits := roundWithAccuracy_exact (k := 0) (e := -j) .positive pos bits (by omega)
  rw [pow_zero, mul_one, Nat.cast_zero, add_zero] at fits
  simp only [UnpackedFloat.round, target, decreaseExponent, Nat.shiftLeft_eq, zero_sub, neg_neg,
    Int.toNat_natCast]
  exact fits

theorem unpack_toFloat {j : ℕ} (pos : 0 < n * 2 ^ j) (long : n.log2 + j = 52) :
    n.toUInt64.toFloat.toModel.unpack = .finite .positive (n * 2 ^ j) (-j) pos := by
  have nonzero : 0 < n := Nat.pos_of_mul_pos_right pos
  have short : n < 2 ^ 53 := (Nat.log2_lt nonzero.ne').mp (by omega)
  have bits : (n * 2 ^ j).log2 = 52 := by rw [log2_mul_two_pow nonzero, long]
  have word : n.toUInt64.toNat = n := Nat.mod_eq_of_lt (by omega)
  have above : compare (n : ℤ) 0 = .gt := compare_gt_iff_gt.mpr (by omega)
  show (Float.Model.pack (normalize .binary64 (n.toUInt64.toNat : ℤ) 0 .positive)).unpack = _
  rw [word, UnpackedFloat.normalize, above]
  show (Float.Model.pack (UnpackedFloat.round .binary64 .positive n 0)).unpack = _
  rw [round_eq pos long, unpack_pack pos bits (by omega) (by omega)]

theorem unpack_one : (Float.exactlyRepresentablePowersOfTen[0]).toModel.unpack =
    .finite .positive (2 ^ 52) (-52) (by decide) := by
  have packed : (Float.exactlyRepresentablePowersOfTen[0]).toModel =
      Float.Model.pack (.finite .positive (2 ^ 52) (-52) (by decide)) := by decide +kernel
  rw [packed, unpack_pack _ Nat.log2_two_pow (by decide) (by decide)]

/-- A count of at most 53 bits is exact in floating point. -/
theorem unpack_ofNat {j : ℕ} (pos : 0 < n * 2 ^ j) (long : n.log2 + j = 52) :
    (Float.ofNat n).toModel.unpack = .finite .positive (n * 2 ^ j) (-j) pos := by
  have nonzero : 0 < n := Nat.pos_of_mul_pos_right pos
  have short : n < 2 ^ 53 := (Nat.log2_lt nonzero.ne').mp (by omega)
  have bits : (n * 2 ^ j).log2 = 52 := by rw [log2_mul_two_pow nonzero, long]
  -- A count is read as a decimal without an exponent, so it is multiplied by one.
  have fast : Float.ofNat n = n.toUInt64.toFloat * Float.exactlyRepresentablePowersOfTen[0] := by
    rw [Float.ofNat]
    show Float.ofScientific n false 0 = _
    rw [Float.ofScientific, dif_pos ⟨short, by decide⟩]
    rfl
  rw [fast]
  show (Float.Model.pack (UnpackedFloat.mul .binary64 _ _)).unpack = _
  rw [unpack_toFloat pos long, unpack_one]
  show (Float.Model.pack
    (roundWithAccuracy .binary64 .positive (n * 2 ^ j * 2 ^ 52) (-j + -52) .exact)).unpack = _
  have whole : -(j : ℤ) + -52 + (52 : ℕ) = -j := by omega
  rw [roundWithAccuracy_exact .positive pos bits (by omega), whole,
    unpack_pack pos bits (by omega) (by omega)]

/-- A count that is not zero is a number of 53 bits. -/
theorem exists_unpack_ofNat (nonzero : 0 < n) (short : n < 2 ^ 53) :
    ∃ (j : ℕ) (pos : 0 < n * 2 ^ j),
    j ≤ 52 ∧ (n * 2 ^ j).log2 = 52 ∧
      (Float.ofNat n).toModel.unpack = .finite .positive (n * 2 ^ j) (-j) pos := by
  have less := (Nat.log2_lt nonzero.ne').mpr short
  have pos : 0 < n * 2 ^ (52 - n.log2) := Nat.mul_pos nonzero (Nat.two_pow_pos _)
  refine ⟨52 - n.log2, pos, Nat.sub_le _ _, ?_, unpack_ofNat pos (by omega)⟩
  rw [log2_mul_two_pow nonzero]
  omega

theorem mul_two_pow_mul_zpow_neg (n k : ℕ) : ((n * 2 ^ k : ℕ) : ℚ) * 2 ^ (-(k : ℤ)) = n := by
  rw [zpow_neg, zpow_natCast, Nat.cast_mul, Nat.cast_pow, Nat.cast_two]
  field_simp

/-! ## Values -/

/-- The value of a finite number. -/
def Binary64.value (x : Binary64) : ℚ :=
  (if x.negative then -1 else 1) * (x.significand * 2 ^ x.exponent)

/-- A finite number than which no finite number is nearer. -/
def NearestTo (q : ℚ) (x : Float) : Prop :=
  ∃ b, Binary64.ofFloat? x = some b ∧
    ∀ y c, Binary64.ofFloat? y = some c → |b.value - q| ≤ |c.value - q|

theorem significand_lt {b : Binary64} (finite : Binary64.ofFloat? x = some b) :
    b.significand < 2 ^ 53 := by
  have fraction := Nat.mod_lt x.toBits.toNat (Nat.two_pow_pos 52)
  simp only [Binary64.ofFloat?, Binary64.leadingBit, Nat.one_shiftLeft] at finite
  split at finite
  · cases finite
  split at finite <;> cases finite <;> dsimp only <;> omega

theorem ofFloat?_of_unpack {pos : 0 < m} (unpacked : x.toModel.unpack = .finite .positive m e pos) :
    Binary64.ofFloat? x = some ⟨false, m, e⟩ := by
  have reads : Reads x.toModel.unpack _ _ := reads_unpack x.toModel.toBits.toBitVec
  have sign := signed_iff (x := x)
  have bits : x.toModel.toBits.toBitVec.toNat = x.toBits.toNat := rfl
  rw [unpacked] at reads
  rw [bits] at reads
  generalize Sign.ofBitVec _ = s at reads sign
  generalize left : x.toBits.toNat % signBit = n at reads
  cases reads with
  | finite _ stored fraction _ _ _ top rest parts =>
    have unsigned : x.toBits.toNat < signBit := Nat.not_le.mp fun signed => nomatch sign.mp signed
    rw [Nat.mod_eq_of_lt unsigned] at left
    rw [signBit, Nat.one_shiftLeft] at unsigned
    simp only [Binary64.ofFloat?, Binary64.leadingBit, Nat.one_shiftLeft, Nat.shiftRight_eq_div_pow]
    have exponent : x.toBits.toNat / 2 ^ 52 % 2048 = stored := by omega
    have significand : x.toBits.toNat % 2 ^ 52 = fraction := by omega
    have positive : (x.toBits.toNat / 2 ^ 63 == 1) = false := beq_false_of_ne (by omega)
    rw [exponent, significand, positive, if_neg (by omega)]
    rcases parts with ⟨zero, rfl, rfl⟩ | ⟨nonzero, rfl, rfl⟩
    · rw [if_pos zero]
    · rw [if_neg nonzero.ne']

/-- The foot of a ladder is its least significand of 53 bits. Whatever has a smaller exponent is not
above the foot, and all else is a step, so it is enough to be no further away than the steps. -/
theorem abs_value_sub_le {q : ℚ} {t : ℤ} {b c : Binary64} (high : 2 ^ 52 * 2 ^ t ≤ q)
    (near : ∀ n : ℤ, |b.value - q| ≤ |n * 2 ^ t - q|) (short : c.significand < 2 ^ 53) :
    |b.value - q| ≤ |c.value - q| := by
  rcases le_or_gt t c.exponent with steps | lower
  · obtain ⟨j, longer⟩ := Int.le.dest steps
    have step :
        c.value = ((if c.negative then -1 else 1) * (c.significand * 2 ^ j) : ℤ) * 2 ^ t := by
      rw [Binary64.value, ← longer, zpow_add₀ two_ne_zero, zpow_natCast]
      push_cast
      ring
    rw [step]
    exact near _
  · have half : (2 : ℚ) ^ c.exponent ≤ 2 ^ t / 2 := by
      rw [div_eq_mul_inv, ← zpow_sub_one₀ two_ne_zero]
      exact zpow_le_zpow_right₀ one_le_two (by omega)
    have size : (c.significand : ℚ) * 2 ^ c.exponent ≤ 2 ^ 53 * (2 ^ t / 2) :=
      mul_le_mul (by exact_mod_cast short.le) half (by positivity) (by positivity)
    have below : c.value ≤ 2 ^ 52 * 2 ^ t := by
      have nonneg : (0 : ℚ) ≤ c.significand * 2 ^ c.exponent := by positivity
      rw [Binary64.value]
      split <;> linarith
    have foot := near (2 ^ 52)
    rw [Int.cast_pow, Int.cast_ofNat, abs_of_nonpos (sub_nonpos.mpr high)] at foot
    rw [abs_of_nonpos (sub_nonpos.mpr (below.trans high))]
    linarith

/-! ## Quotients -/

theorem divCore_eq (left : m.log2 = 52) (right : n.log2 = 52) (low : -1021 ≤ e - d) :
    divCore .binary64 m e n d =
      (m * 2 ^ 53 / n, e - d - 53, accuracyOfFraction (m * 2 ^ 53 % n) n) := by
  have target : min (e - d) (Format.binary64.targetExponent
      (totalExponent m e - totalExponent n d)) = e - d - 53 := by
    simp only [Format.targetExponent, totalExponent, left, right, Format.mantissaBits,
      Format.minExponent]
    norm_num
    omega
  have shift : (e - d - (e - d - 53)).toNat = 53 := by omega
  simp only [divCore, target, shift, Nat.shiftLeft_eq]

/-- The quotient has 53 bits or one more. -/
theorem log2_quotient (left : m.log2 = 52) (right : n.log2 = 52) :
    ∃ k ≤ 1, (m * 2 ^ 53 / n).log2 = 52 + k ∧ 2 ^ (52 + k) ≤ m * 2 ^ 53 / n := by
  have nonzero : m ≠ 0 ∧ n ≠ 0 := by
    constructor <;> rintro rfl <;> simp at left right
  have low := (Nat.log2_eq_iff nonzero.1).mp left
  have high := (Nat.log2_eq_iff nonzero.2).mp right
  have least : 2 ^ 52 ≤ m * 2 ^ 53 / n := by
    rw [Nat.le_div_iff_mul_le (Nat.pos_of_ne_zero nonzero.2)]
    omega
  have less : m * 2 ^ 53 / n < 2 ^ 54 := by
    rw [Nat.div_lt_iff_lt_mul (Nat.pos_of_ne_zero nonzero.2)]
    omega
  rcases Nat.lt_or_ge (m * 2 ^ 53 / n) (2 ^ 53) with short | long
  · exact ⟨0, Nat.zero_le 1, (Nat.log2_eq_iff (by omega)).mpr ⟨least, short⟩, least⟩
  · exact ⟨1, le_rfl, (Nat.log2_eq_iff (by omega)).mpr ⟨long, less⟩, long⟩

/-- The quotient of two significands, scaled to 53 bits, is a step of a ladder with what is left. -/
theorem quotient_eq (pos : 0 < n) (k : ℕ) : (m * 2 ^ e / (n * 2 ^ d) : ℚ) =
    ((m * 2 ^ 53 / n : ℕ) + (m * 2 ^ 53 % n : ℕ) / n) / 2 ^ k * 2 ^ (e - d - 53 + k) := by
  have whole := Nat.div_add_mod' (m * 2 ^ 53) n
  have scaled : ((m * 2 ^ 53 / n : ℕ) : ℚ) + (m * 2 ^ 53 % n : ℕ) / n = m * 2 ^ 53 / n := by
    field_simp
    exact_mod_cast whole
  rw [scaled, zpow_add₀ two_ne_zero, zpow_sub₀ two_ne_zero, zpow_sub₀ two_ne_zero, zpow_natCast]
  field_simp

/-- The division rounds the quotient once. -/
theorem unpack_div {pos : 0 < m} {pos' : 0 < n}
    (dividend : x.toModel.unpack = .finite .positive m e pos)
    (divisor : y.toModel.unpack = .finite .positive n d pos') (left : m.log2 = 52)
    (right : n.log2 = 52) (low : -1021 ≤ e - d) :
    (x / y).toModel.unpack = (Float.Model.pack (roundWithAccuracy .binary64 .positive
      (m * 2 ^ 53 / n) (e - d - 53) (accuracyOfFraction (m * 2 ^ 53 % n) n))).unpack := by
  show (Float.Model.pack (UnpackedFloat.div .binary64 _ _)).unpack = _
  rw [dividend, divisor]
  show (Float.Model.pack (roundWithAccuracy .binary64 .positive (divCore .binary64 m e n d).1
    (divCore .binary64 m e n d).2.1 (divCore .binary64 m e n d).2.2)).unpack = _
  rw [divCore_eq left right low]

/-- Nothing is nearer to the quotient of two numbers of 53 bits than what the division gives. -/
theorem nearestTo_div {pos : 0 < m} {pos' : 0 < n}
    (dividend : x.toModel.unpack = .finite .positive m e pos)
    (divisor : y.toModel.unpack = .finite .positive n d pos') (left : m.log2 = 52)
    (right : n.log2 = 52) (low : -1021 ≤ e - d) (high : e - d ≤ 1022) :
    NearestTo (m * 2 ^ e / (n * 2 ^ d)) (x / y) := by
  obtain ⟨k, once, long, foot⟩ := log2_quotient left right
  obtain ⟨M, E, nonzero, rounded, bits, least, most, value⟩ := roundWithAccuracy_eq .positive
    (accuracyOfFraction (m * 2 ^ 53 % n) n) long (by omega : -1074 ≤ e - d - 53 + k)
  have unpacked := unpack_div dividend divisor left right low
  rw [rounded, unpack_pack nonzero bits (by omega) (by omega)] at unpacked
  have stands := (stands_fraction (m * 2 ^ 53 / n) (Nat.mod_lt (m * 2 ^ 53) pos')).shiftRight k
  refine ⟨_, ofFloat?_of_unpack unpacked, fun z c finite => ?_⟩
  refine abs_value_sub_le (t := e - d - 53 + k) ?_ (fun i => ?_) (significand_lt finite) <;>
    rw [quotient_eq pos' k]
  · have least : (2 : ℚ) ^ 52 * 2 ^ k ≤ (m * 2 ^ 53 / n : ℕ) := by
      rw [← pow_add]
      exact_mod_cast foot
    refine mul_le_mul_of_nonneg_right ?_ (by positivity)
    rw [le_div_iff₀ (by positivity)]
    exact least.trans (le_add_of_nonneg_right (by positivity))
  · have same : (⟨false, M, E⟩ : Binary64).value = M * 2 ^ E := one_mul _
    rw [same, value]
    exact stands.nearest_mul i _

/-- Nothing divided by a count is zero. -/
theorem nearestTo_zero {pos : 0 < n} (divisor : y.toModel.unpack = .finite .positive n d pos) :
    NearestTo 0 (Float.ofNat 0 / y) := by
  have zero : (Float.ofNat 0).toModel = Float.Model.pack (.zero .positive) := by decide +kernel
  have same : Float.ofNat 0 / y = Float.ofModel (Float.Model.pack (.zero .positive)) := by
    show Float.ofModel (Float.Model.pack (UnpackedFloat.div .binary64
      (Float.ofNat 0).toModel.unpack y.toModel.unpack)) = _
    rw [zero, divisor]
    rfl
  have read : Binary64.ofFloat? (Float.ofModel (Float.Model.pack (.zero .positive))) =
      some ⟨false, 0, -1074⟩ := by decide +kernel
  refine ⟨⟨false, 0, -1074⟩, same ▸ read, fun z c _ => ?_⟩
  have nothing : (⟨false, 0, -1074⟩ : Binary64).value = 0 := by simp [Binary64.value]
  rw [nothing, sub_zero, abs_zero]
  exact abs_nonneg _

/-- Nothing is nearer to a share of two counts than their quotient in floating point. -/
theorem nearestTo_share (pos : 0 < n) (left : m < 2 ^ 53) (right : n < 2 ^ 53) :
    NearestTo (m / n) (Float.ofNat m / Float.ofNat n) := by
  obtain ⟨j, _, few, bits, divisor⟩ := exists_unpack_ofNat pos right
  rcases Nat.eq_zero_or_pos m with rfl | nonzero
  · rw [Nat.cast_zero, zero_div]
    exact nearestTo_zero divisor
  · obtain ⟨i, _, few', bits', dividend⟩ := exists_unpack_ofNat nonzero left
    have nearest := nearestTo_div dividend divisor bits' bits (by omega) (by omega)
    rwa [mul_two_pow_mul_zpow_neg, mul_two_pow_mul_zpow_neg] at nearest

end ServiceMesh.Decimal
