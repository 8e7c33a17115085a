import ServiceMesh.Proofs.Decimal.Shortest
import ServiceMesh.Proofs.Json.Reading

/-!
# Reading numbers between zero and one

A number is refused if a power of ten lifts it beyond the range of binary64. The text of a number
between zero and one has one digit before its point and is scaled by a negative power of ten, so it
is always read.
-/

namespace ServiceMesh.Json

variable {cs rest digits : List Char} {c d : Char} {e : Int} {f : Float} {fuel n : Nat}

/-! ## Scaling -/

/-- A negative power of ten never lifts a number beyond the range. -/
theorem isSome_scale (negative : e < 0) : (scale fuel f e).isSome = true := by
  induction fuel generalizing f e with
  | zero => rfl
  | succ fuel ih =>
    have below : ¬ 0 ≤ e := by omega
    rw [scale, if_neg below, if_neg below]
    split
    · rfl
    split
    · rfl
    · exact ih (by omega)

theorem digitValue_lt (digit : c.isDigit = true) : digitValue c < 10 := by
  obtain ⟨low, high⟩ := toNat_of_isDigit digit
  show c.toNat - 48 < 10
  omega

theorem gather_snd_le (n : Nat) (cs : List Char) : (gather n cs).2 ≤ cs.length := by
  induction cs generalizing n with
  | nil => exact Nat.le_refl 0
  | cons c cs ih =>
    rw [gather]
    split
    · exact (ih _).trans (Nat.le_succ _)
    · exact Nat.le_refl _

theorem gather_digit (small : n < 10) (digit : c.isDigit = true) (rest : List Char) :
    gather n (c :: rest) = gather (10 * n + digitValue c) rest := by
  have bound := digitValue_lt digit
  rw [gather, if_pos]
  rw [UInt64.size]
  omega

theorem gather_singleton (digit : c.isDigit = true) : gather 0 [c] = (digitValue c, 0) := by
  rw [gather_digit (by decide) digit, Nat.mul_zero, Nat.zero_add, gather]

/-- A number with one digit before its point and digits behind it is read. -/
theorem Numeral.isSome_toFloat? (first : c.isDigit = true) (next : d.isDigit = true)
    (rest : List Char) :
    (Numeral.toFloat? ⟨false, [c], some (d :: rest), none⟩).isSome = true := by
  have whole := gather_singleton first
  have point := gather_digit (digitValue_lt first) next rest
  have left := gather_snd_le (10 * digitValue c + digitValue d) rest
  simp only [Numeral.toFloat?, whole, Option.getD_some, point, Option.isSome_map]
  generalize gather (10 * digitValue c + digitValue d) rest = gathered at *
  exact isSome_scale (by rw [List.length_cons]; omega)

/-- A number with one digit before its point and a negative power of ten is read. -/
theorem Numeral.isSome_toFloat?_of_negative (first : c.isDigit = true)
    (pos : 0 < digitsValue digits) (fraction : Option (List Char)) :
    (Numeral.toFloat? ⟨false, [c], fraction, some (true, digits)⟩).isSome = true := by
  have whole := gather_singleton first
  simp only [Numeral.toFloat?, whole, if_true, Option.isSome_map]
  generalize gather (digitValue c) (fraction.getD []) = gathered
  rw [if_pos (by omega)]
  exact isSome_scale (by omega)

/-! ## The text of a small decimal -/

/-- One digit before the point and some behind it are read to the end of the digits. -/
theorem read_point (first : c.isDigit = true) (nonempty : digits ≠ [])
    (all : ∀ c ∈ digits, c.isDigit = true) (stop : ∀ c ∈ rest.head?, c.isDigit = false) :
    Numeral.read (c :: '.' :: (digits ++ rest)) =
      (readExponent rest).map fun e => ⟨false, [c], some digits, e⟩ := by
  have minus : c ≠ '-' := by
    rintro rfl
    cases first
  have whole : takeDigits (c :: '.' :: (digits ++ rest)) = ([c], '.' :: (digits ++ rest)) := by
    simp [takeDigits, first]
  have fraction : takeDigits (digits ++ rest) = (digits, rest) := by
    obtain ⟨taken, dropped⟩ := span_append all stop
    rw [takeDigits, taken, dropped]
  simp [Numeral.read, minus, whole, fraction, nonempty]

/-- One digit is followed by its power of ten at once. -/
theorem read_exponent (first : c.isDigit = true) (rest : List Char) :
    Numeral.read (c :: 'e' :: rest) =
      (readExponent ('e' :: rest)).map fun e => ⟨false, [c], none, e⟩ := by
  have minus : c ≠ '-' := by
    rintro rfl
    cases first
  have whole : takeDigits (c :: 'e' :: rest) = ([c], 'e' :: rest) := by simp [takeDigits, first]
  simp [Numeral.read, minus, whole]

theorem readExponent_toDigits (n : Nat) :
    readExponent ('e' :: '-' :: Nat.toDigits 10 n) = some (some (true, Nat.toDigits 10 n)) := by
  have digits : ∀ c ∈ Nat.toDigits 10 n, c.isDigit = true := fun c mem => isDigit_toDigits mem
  simpa [readExponent, Nat.toDigits_ne_nil] using digits

theorem exists_read_point (first : c.isDigit = true) (nonempty : digits ≠ [])
    (all : ∀ c ∈ digits, c.isDigit = true) :
    ∃ y, (Numeral.read (c :: '.' :: digits)).bind Numeral.value? = some (.float y) := by
  obtain ⟨next, rest, rfl⟩ := List.exists_cons_of_ne_nil nonempty
  have nothing : ∀ c ∈ ([] : List Char).head?, c.isDigit = false := by simp
  have read := read_point first nonempty all nothing
  rw [List.append_nil] at read
  have found := Numeral.isSome_toFloat? first (List.forall_mem_cons.mp all).1 rest
  obtain ⟨y, value⟩ := Option.isSome_iff_exists.mp found
  exact ⟨y, by simp [read, readExponent, Numeral.value?, value]⟩

theorem exists_read_exponent (first : c.isDigit = true) (all : ∀ c ∈ digits, c.isDigit = true)
    (pos : 0 < n) (mantissa : cs = [c] ∨ digits ≠ [] ∧ cs = c :: '.' :: digits) :
    ∃ y, (Numeral.read (cs ++ 'e' :: '-' :: Nat.toDigits 10 n)).bind Numeral.value? =
      some (.float y) := by
  have value : 0 < digitsValue (Nat.toDigits 10 n) := by rwa [digitsValue_toDigits]
  have found := Numeral.isSome_toFloat?_of_negative first value
  rcases mantissa with rfl | ⟨nonempty, rfl⟩
  · obtain ⟨y, value⟩ := Option.isSome_iff_exists.mp (found none)
    have read := read_exponent first ('-' :: Nat.toDigits 10 n)
    rw [readExponent_toDigits] at read
    exact ⟨y, by simp [read, Numeral.value?, value]⟩
  · obtain ⟨y, value⟩ := Option.isSome_iff_exists.mp (found (some digits))
    have stop : ∀ c ∈ ('e' :: '-' :: Nat.toDigits 10 n).head?, c.isDigit = false := by simp
    have read := read_point first nonempty all stop
    rw [readExponent_toDigits] at read
    exact ⟨y, by simp [read, Numeral.value?, value]⟩

/-- A decimal of at most two is read from its text. -/
theorem exists_read_layout {d : Decimal.Scientific} (small : d.Small) :
    ∃ y, (Numeral.read d.layout.toList).bind Numeral.value? = some (.float y) := by
  have point := small.point_le
  have digits : ∀ c ∈ Nat.toDigits 10 d.digits, c.isDigit = true :=
    fun c mem => isDigit_toDigits mem
  have text : (toString d.digits).toList = Nat.toDigits 10 d.digits := Nat.toList_repr
  have size : (toString d.digits).length = (Nat.toDigits 10 d.digits).length := by
    rw [← String.length_toList, text]
  have nonempty : Nat.toDigits 10 d.digits ≠ [] := Nat.toDigits_ne_nil
  obtain ⟨first, others, shape⟩ := List.exists_cons_of_ne_nil nonempty
  rw [shape] at digits text size point
  obtain ⟨digit, rest⟩ := List.forall_mem_cons.mp digits
  simp only [List.length_cons] at size point
  simp only [Decimal.Scientific.layout, size]
  split
  case isTrue whole =>
    have single : others = [] := List.eq_nil_of_length_eq_zero (by omega)
    have level : d.exponent.toNat = 0 := by omega
    have zero : ∀ c ∈ ['0'], c.isDigit = true := by simp
    simp only [String.toList_append, toList_pushn, text, level, single]
    exact exists_read_point digit (List.cons_ne_nil _ _) zero
  split
  case isTrue inside =>
    have one : ((others.length + 1 : Nat) + d.exponent).toNat = 1 := by omega
    have behind : others ≠ [] := by
      rintro rfl
      have empty : ([] : List Char).length = 0 := rfl
      omega
    simp only [String.toList_append, String.toList_ofList, text, one]
    exact exists_read_point digit behind rest
  split
  case isTrue before =>
    simp only [String.toList_append, toList_pushn, text, List.append_assoc, String.toList_empty,
      List.nil_append]
    show ∃ y, (Numeral.read ('0' :: '.' :: (List.replicate _ '0' ++ first :: others))).bind _ = _
    refine exists_read_point (by decide) (by simp) fun c mem => ?_
    rcases List.mem_append.mp mem with zero | mem
    · rw [List.eq_of_mem_replicate zero]
      decide
    · exact digits c mem
  case isFalse =>
    have negative : (others.length + 1 : Nat) + d.exponent - 1 < 0 := by omega
    have pos : 0 < ((others.length + 1 : Nat) + d.exponent - 1).natAbs := by omega
    simp only [String.toList_append, toList_toString, if_pos negative, text, List.append_assoc]
    refine exists_read_exponent digit rest pos ?_
    cases others with
    | nil => exact .inl String.toList_ofList
    | cons next more => exact .inr ⟨List.cons_ne_nil _ _, String.toList_ofList⟩

/-- A number between zero and one is read from its text. -/
theorem exists_rereadFloat {x : Float} (low : 0.0 ≤ x) (high : x ≤ 1.0) :
    ∃ y, rereadFloat x = some (.float y) := by
  obtain ⟨b, parts, unsigned, below, bound⟩ := Decimal.exists_ofFloat? low high
  obtain ⟨y, read⟩ := exists_read_layout (b.small_shortest below bound)
  rw [rereadFloat, Decimal.shortestText?, parts]
  by_cases zero : b.significand = 0
  · cases negative : b.negative
    · exact ⟨_, by simp only [Option.bind_eq_bind, Option.bind_some, zero, negative]; rfl⟩
    · exact ⟨_, by simp only [Option.bind_eq_bind, Option.bind_some, zero, negative]; rfl⟩
  · have positive : b.negative = false := Bool.eq_false_iff.mpr (mt unsigned zero)
    exact ⟨y, by simpa [zero, positive] using read⟩

end ServiceMesh.Json
