import Mathlib

/-!
# Equality of floating point numbers

Numbers in floating point are compared as numbers: the two zeros are equal, and what is not a
number does not equal itself. Apart from that it is an equality. Whatever lies in a range is a
number.
-/

namespace ServiceMesh.Decimal

open Float.Model

variable {x y z : Float}

theorem beq_trans (first : (x == y) = true) (second : (y == z) = true) : (x == z) = true := by
  rw [Float.beq_iff_ne_nan_and_eq] at first second ⊢
  grind

theorem beq_symm (h : (x == y) = true) : (y == x) = true := by
  rw [Float.beq_iff_ne_nan_and_eq] at h ⊢
  grind

/-- A number that has a lower bound equals itself. -/
theorem beq_self_of_le (bounded : x ≤ y) : (y == y) = true := by
  have model : x.toModel ≤ y.toModel := of_decide_eq_true bounded
  have ordered : (x.toModel.unpack.compare y.toModel.unpack).any Ordering.isLE = true := model
  rw [Float.beq_self_iff]
  rintro rfl
  have nan : Float.nan.toModel.unpack = .notANumber := UnpackedFloat.unpack_packedNaN
  rw [nan] at ordered
  cases unpacked : x.toModel.unpack <;> simp [unpacked, UnpackedFloat.compare] at ordered

end ServiceMesh.Decimal
