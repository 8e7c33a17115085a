import Mathlib
import ServiceMesh.Decimal.Binary64
import ServiceMesh.Proofs.Decimal.Equality

/-!
# The total order of floating point numbers

The bits of a number in floating point are a sign and a magnitude. Read as a whole number, the
magnitude grows with the distance from zero, through the infinities up to what is not a number. The
total order puts negative signs in front of positive ones and goes by the magnitudes among equal
signs. It tells the two zeros apart, and otherwise extends the order of the numbers.
-/

namespace ServiceMesh.Decimal

open Float.Model

variable {x y : Float}

/-- The number without its sign, as a whole number. -/
def magnitude (x : Float) : Nat := x.toBits.toNat % signBit

/-- Whether the sign is set. -/
def Signed (x : Float) : Prop := signBit ≤ x.toBits.toNat

/-- One number is in front of another one in the total order. -/
inductive Below (x y : Float) : Prop
  /-- Negative signs are in front of positive ones. -/
  | signs (left : Signed x) (right : ¬ Signed y)
  /-- Negative numbers are nearer to the front if they are further from zero. -/
  | negative (left : Signed x) (right : Signed y) (far : magnitude y < magnitude x)
  /-- Positive numbers are nearer to the front if they are nearer to zero. -/
  | positive (left : ¬ Signed x) (right : ¬ Signed y) (near : magnitude x < magnitude y)

theorem toBits_toNat_lt (x : Float) : x.toBits.toNat < 2 * signBit := x.toBits.toNat_lt

theorem orderKey_of_signed (signed : Signed x) : orderKey x = signBit - 1 - magnitude x := by
  have bound := toBits_toNat_lt x
  have magn : magnitude x = x.toBits.toNat - signBit := by
    rw [magnitude, Nat.mod_eq_sub_mod signed, Nat.mod_eq_of_lt (by omega)]
  rw [orderKey, if_neg (Nat.not_lt.mpr signed), magn]
  rw [Signed] at signed
  omega

theorem orderKey_of_not_signed (unsigned : ¬ Signed x) : orderKey x = signBit + magnitude x := by
  have less : x.toBits.toNat < signBit := Nat.not_le.mp unsigned
  rw [orderKey, if_pos less, magnitude, Nat.mod_eq_of_lt less, Nat.add_comm]

theorem magnitude_lt (x : Float) : magnitude x < signBit := Nat.mod_lt _ (by decide)

/-- Keys are ordered as the numbers are in the total order. -/
theorem orderKey_lt_iff : orderKey x < orderKey y ↔ Below x y := by
  have left := magnitude_lt x
  have right := magnitude_lt y
  by_cases sx : Signed x <;> by_cases sy : Signed y
  · rw [orderKey_of_signed sx, orderKey_of_signed sy]
    refine ⟨fun less => .negative sx sy (by omega), fun below => ?_⟩
    cases below
    case signs unsigned => exact absurd sy unsigned
    case negative far => omega
    case positive unsigned _ _ => exact absurd sx unsigned
  · rw [orderKey_of_signed sx, orderKey_of_not_signed sy]
    exact ⟨fun _ => .signs sx sy, fun _ => by omega⟩
  · rw [orderKey_of_not_signed sx, orderKey_of_signed sy]
    refine ⟨fun less => by omega, fun below => ?_⟩
    cases below <;> contradiction
  · rw [orderKey_of_not_signed sx, orderKey_of_not_signed sy]
    refine ⟨fun less => .positive sx sy (by omega), fun below => ?_⟩
    cases below
    case signs signed _ => exact absurd signed sx
    case negative signed _ _ => exact absurd signed sx
    case positive near => omega

/-- Numbers with one key are the same. -/
theorem orderKey_inj : orderKey x = orderKey y ↔ x = y := by
  refine ⟨fun same => ?_, fun same => same ▸ rfl⟩
  have left := toBits_toNat_lt x
  have right := toBits_toNat_lt y
  have bits : x.toBits.toNat = y.toBits.toNat := by
    simp only [orderKey] at same
    split at same <;> split at same <;> omega
  exact Float.toBits_inj.mp (UInt64.toNat_inj.mp bits)

/-! ## The order of the numbers -/

/-- What a number with a sign and a magnitude stands for. -/
inductive Reads : UnpackedFloat → UnpackedFloat.Sign → Nat → Prop
  | zero (s : UnpackedFloat.Sign) : Reads (.zero s) s 0
  | finite (s : UnpackedFloat.Sign) (stored fraction m : Nat) (e : Int) (pos : 0 < m)
      (top : stored < 2047) (rest : fraction < 2 ^ 52)
      (parts : stored = 0 ∧ m = fraction ∧ e = -1074 ∨
        0 < stored ∧ m = 2 ^ 52 + fraction ∧ e = stored - 1075) :
      Reads (.finite s m e pos) s (stored * 2 ^ 52 + fraction)
  | infinity (s : UnpackedFloat.Sign) : Reads (.infinity s) s (2047 * 2 ^ 52)
  | notANumber (s : UnpackedFloat.Sign) (n : Nat) : Reads .notANumber s n

theorem unpackMantissa_toNat (b : BitVec Format.binary64.numBits) :
    (UnpackedFloat.unpackMantissa b).toNat = b.toNat % 2 ^ 52 := by
  rw [UnpackedFloat.unpackMantissa_def, BitVec.extractLsb'_toNat, Nat.shiftRight_zero]

theorem unpackExponent_toNat (b : BitVec Format.binary64.numBits) :
    (UnpackedFloat.unpackExponent b).toNat = b.toNat / 2 ^ 52 % 2 ^ 11 := by
  rw [UnpackedFloat.unpackExponent_def, BitVec.extractLsb'_toNat, Nat.shiftRight_eq_div_pow]

/-- The bits of a number stand for what they unpack to. -/
theorem reads_unpack (b : BitVec Format.binary64.numBits) :
    Reads (UnpackedFloat.unpack .binary64 b) (.ofBitVec (UnpackedFloat.unpackSign b))
      (b.toNat % signBit) := by
  have parts : b.toNat % signBit = (UnpackedFloat.unpackExponent b).toNat * 2 ^ 52 +
      (UnpackedFloat.unpackMantissa b).toNat := by
    rw [unpackMantissa_toNat, unpackExponent_toNat, signBit, Nat.one_shiftLeft]
    omega
  have fraction := (UnpackedFloat.unpackMantissa b).isLt
  have stored := (UnpackedFloat.unpackExponent b).isLt
  simp only [Nat.reducePow] at fraction stored
  rw [parts, UnpackedFloat.unpack]
  by_cases last : UnpackedFloat.unpackExponent b = -1#_
  · rw [if_pos last, last]
    split
    case isTrue zero =>
      rw [zero]
      exact .infinity _
    case isFalse => exact .notANumber _ _
  · rw [if_neg last]
    have top : (UnpackedFloat.unpackExponent b).toNat ≠ 2047 := fun h =>
      last (BitVec.eq_of_toNat_eq h)
    by_cases first : UnpackedFloat.unpackExponent b = 0#_
    · rw [if_pos first, first]
      split
      case isTrue zero =>
        rw [zero]
        exact .zero _
      case isFalse =>
        exact .finite _ 0 _ _ _ _ (by decide) fraction (.inl ⟨rfl, rfl, rfl⟩)
    · rw [if_neg first]
      have bottom : (UnpackedFloat.unpackExponent b).toNat ≠ 0 := fun h =>
        first (BitVec.eq_of_toNat_eq h)
      refine .finite _ _ _ _ _ _ (by omega) fraction (.inr ⟨by omega, ?_, ?_⟩)
      · rw [BitVec.toNat_append, ← Nat.shiftLeft_add_eq_or_of_lt fraction]
        rfl
      · show _ - ((1023 : Int) + 52) = _
        omega

/-- Numbers of one sign are compared by the exponents first. -/
theorem compare_then_eq_lt {e e' : Int} {m m' : Nat} :
    (compare e e').then (compare m m') = .lt ↔ e < e' ∨ e = e' ∧ m < m' := by
  rw [Ordering.then_eq_lt, compare_lt_iff_lt, compare_eq_iff_eq, compare_lt_iff_lt]

theorem compare_then_eq_gt {e e' : Int} {m m' : Nat} :
    (compare e e').then (compare m m') = .gt ↔ e' < e ∨ e = e' ∧ m' < m := by
  rw [Ordering.then_eq_gt, compare_gt_iff_gt, compare_eq_iff_eq, compare_gt_iff_gt]

/-- What is less than another number is in front of it. -/
theorem below_of_compare {a b : UnpackedFloat} {s t : UnpackedFloat.Sign} {m n : Nat}
    (left : Reads a s m) (right : Reads b t n) (less : a.compare b = some .lt) :
    s = .negative ∧ t = .positive ∨ s = .negative ∧ t = .negative ∧ n < m ∨
      s = .positive ∧ t = .positive ∧ m < n := by
  cases left with
  | notANumber => cases less
  | zero s =>
    cases right with
    | notANumber => cases less
    | zero => cases less
    | infinity t => cases s <;> cases t <;> simp_all [UnpackedFloat.compare]
    | finite t => cases s <;> cases t <;> simp_all [UnpackedFloat.compare]; omega
  | infinity s =>
    cases right with
    | notANumber => cases less
    | zero t => cases s <;> cases t <;> simp_all [UnpackedFloat.compare]
    | infinity t => cases s <;> cases t <;> simp_all [UnpackedFloat.compare, compare]
    | finite t => cases s <;> cases t <;> simp_all [UnpackedFloat.compare]; omega
  | finite s stored fraction k e pos top rest parts =>
    cases right with
    | notANumber => cases less
    | zero t => cases s <;> cases t <;> simp_all [UnpackedFloat.compare]; omega
    | infinity t => cases s <;> cases t <;> simp_all [UnpackedFloat.compare]; omega
    | finite t stored' fraction' k' e' pos' top' rest' parts' =>
      cases s <;> cases t
      case negative.negative =>
        have earlier := compare_then_eq_gt.mp (Ordering.swap_eq_lt.mp (Option.some.inj less))
        exact .inr (.inl ⟨rfl, rfl, by omega⟩)
      case negative.positive => exact .inl ⟨rfl, rfl⟩
      case positive.negative => cases less
      case positive.positive =>
        have earlier := compare_then_eq_lt.mp (Option.some.inj less)
        exact .inr (.inr ⟨rfl, rfl, by omega⟩)

/-- Numbers that are equal are equally far from zero. -/
theorem eq_of_compare {a b : UnpackedFloat} {s t : UnpackedFloat.Sign} {m n : Nat}
    (left : Reads a s m) (right : Reads b t n) (equal : a.compare b = some .eq) : m = n := by
  have same : a.beq b = true := beq_iff_eq.mpr equal
  obtain ⟨number, -, rfl | ⟨rfl, rfl⟩ | ⟨rfl, rfl⟩⟩ :=
    (UnpackedFloat.beq_iff_ne_notANumber_and_eq a b).mp same
  · cases left with
    | notANumber => exact absurd rfl number
    | zero =>
      cases right
      rfl
    | infinity =>
      cases right
      rfl
    | finite s stored fraction k e pos top rest parts =>
      cases right
      omega
  all_goals
    cases left
    cases right
    rfl

theorem signed_iff : Signed x ↔ UnpackedFloat.Sign.ofBitVec
    (@UnpackedFloat.unpackSign .binary64 x.toModel.toBits.toBitVec) = .negative := by
  have bound := toBits_toNat_lt x
  have bit : (@UnpackedFloat.unpackSign .binary64 x.toModel.toBits.toBitVec).toNat =
      x.toBits.toNat / 2 ^ 63 % 2 ^ 1 := by
    rw [UnpackedFloat.unpackSign_def, BitVec.extractLsb'_toNat, Nat.shiftRight_eq_div_pow]
    rfl
  rw [signBit, Nat.one_shiftLeft] at bound
  rw [Signed, signBit, Nat.one_shiftLeft, UnpackedFloat.Sign.ofBitVec, ite_eq_right_iff,
    ← BitVec.toNat_inj, bit]
  simp only [reduceCtorEq, imp_false, BitVec.toNat_ofNat]
  omega

/-- The total order extends the order of the numbers. -/
theorem below_of_lt (less : x < y) : Below x y := by
  have model : x.toModel < y.toModel := of_decide_eq_true less
  have ordered : x.toModel.unpack.compare y.toModel.unpack = some .lt := eq_of_beq model
  obtain ⟨sx, sy⟩ | ⟨sx, sy, far⟩ | ⟨sx, sy, near⟩ :=
    below_of_compare (reads_unpack _) (reads_unpack _) ordered
  · exact .signs (signed_iff.mpr sx) fun h => nomatch sy.symm.trans (signed_iff.mp h)
  · exact .negative (signed_iff.mpr sx) (signed_iff.mpr sy) far
  · exact .positive (fun h => nomatch sx.symm.trans (signed_iff.mp h))
      (fun h => nomatch sy.symm.trans (signed_iff.mp h)) near

/-! ## Ranges -/

theorem le_of_lt (less : x < y) : x ≤ y := by
  have model : x.toModel < y.toModel := of_decide_eq_true less
  have ordered : x.toModel.unpack.compare y.toModel.unpack = some .lt := eq_of_beq model
  have model' : x.toModel ≤ y.toModel := by
    show (x.toModel.unpack.compare y.toModel.unpack).any Ordering.isLE = true
    rw [ordered]
    rfl
  exact decide_eq_true model'

theorem below_or_magnitude_eq_of_le (le : x ≤ y) : Below x y ∨ magnitude x = magnitude y := by
  have model : (x.toModel.unpack.compare y.toModel.unpack).any Ordering.isLE = true :=
    of_decide_eq_true (p := x.toModel ≤ y.toModel) le
  cases ordered : x.toModel.unpack.compare y.toModel.unpack with
  | none => simp [ordered] at model
  | some order =>
    cases order with
    | lt =>
      have less : x.toModel < y.toModel := beq_of_eq ordered
      exact .inl (below_of_lt (decide_eq_true less))
    | eq => exact .inr (eq_of_compare (reads_unpack _) (reads_unpack _) ordered)
    | gt => simp [ordered] at model

/-- A number between zero and one is a zero if it has a sign, and no further from zero than one. -/
theorem magnitude_le_one (low : 0.0 ≤ x) (high : x ≤ 1.0) :
    (Signed x → magnitude x = 0) ∧ magnitude x ≤ 1023 * 2 ^ 52 := by
  have zero : magnitude 0.0 = 0 := by decide +kernel
  have one : magnitude 1.0 = 1023 * 2 ^ 52 := by decide +kernel
  have unsigned : ¬ Signed 0.0 ∧ ¬ Signed 1.0 := by
    rw [Signed, Signed]
    decide +kernel
  have signed : Signed x → magnitude x = 0 := by
    intro sx
    rcases below_or_magnitude_eq_of_le low with below | same
    · cases below with
      | signs left => exact absurd left unsigned.1
      | negative left => exact absurd left unsigned.1
      | positive _ right => exact absurd sx right
    · rw [← same, zero]
  refine ⟨signed, ?_⟩
  rcases below_or_magnitude_eq_of_le high with below | same
  · cases below with
    | signs left => exact (signed left).le.trans (Nat.zero_le _)
    | negative _ right => exact absurd right unsigned.2
    | positive _ _ near => exact one ▸ near.le
  · rw [same, one]

/-- What lies between finite numbers is finite. -/
theorem isFinite_of_mem_range {z : Float} (low : x ≤ y) (high : y ≤ z)
    (bottom : x.isFinite = true) (top : z.isFinite = true) : y.isFinite = true := by
  have low' : (x.toModel.unpack.compare y.toModel.unpack).any Ordering.isLE = true :=
    of_decide_eq_true (p := x.toModel ≤ y.toModel) low
  have high' : (y.toModel.unpack.compare z.toModel.unpack).any Ordering.isLE = true :=
    of_decide_eq_true (p := y.toModel ≤ z.toModel) high
  change x.toModel.unpack.isFinite = true at bottom
  change z.toModel.unpack.isFinite = true at top
  change y.toModel.unpack.isFinite = true
  generalize x.toModel.unpack = a at *
  generalize y.toModel.unpack = b at *
  generalize z.toModel.unpack = c at *
  cases b with
  | finite => rfl
  | zero => rfl
  | notANumber => cases a <;> simp [UnpackedFloat.compare] at low'
  | infinity s =>
    cases s with
    | negative => cases a <;> simp_all [UnpackedFloat.compare, UnpackedFloat.isFinite]
    | positive => cases c <;> simp_all [UnpackedFloat.compare, UnpackedFloat.isFinite]

end ServiceMesh.Decimal
