import Mathlib.Data.List.Basic
import Mathlib.Tactic.IntervalCases
import ServiceMesh.Json.Printer
import ServiceMesh.Json.Token

/-!
# Reading the pieces of a printed text

A string in quotes is read as the text that was put in them, whatever its characters are. Numbers
and literals are read up to the first character that cannot belong to them, which in a printed text
is a comma, a bracket or white space.
-/

namespace ServiceMesh.Json

variable {c : Char} {cs rest : List Char}

/-- Properties of the characters of a list are decided one after the other, not for every character
that there is. -/
theorem forall_mem_of_all {p : Char → Prop} [DecidablePred p]
    (all : (cs.all fun c => decide (p c)) = true) : ∀ c ∈ cs, p c := by
  simpa using all

/-! ## Strings -/

theorem hexDigit?_hexChar : ∀ n < 16, hexDigit? (hexChar n) = some n := by decide

theorem hexValue?_control {n : Nat} (small : n < 0x20) :
    hexValue? ['0', '0', hexChar (n / 16), hexChar (n % 16)] = some n := by
  have high := hexDigit?_hexChar (n / 16) (by omega)
  have low := hexDigit?_hexChar (n % 16) (by omega)
  have zero : hexDigit? '0' = some 0 := rfl
  have parts : 16 * (n / 16) + n % 16 = n := by omega
  simp [hexValue?, List.foldlM, high, low, zero, parts]

/-- A character is read from its escape. -/
theorem readString_escapeChar (c : Char) (acc rest : List Char) :
    readString .plain acc (escapeChar c ++ rest) = readString .plain (c :: acc) rest := by
  fun_cases escapeChar c with
  | case8 c _ _ _ _ _ _ _ control =>
    have value := hexValue?_control control
    have back : Char.ofNat c.toNat = c := Char.ofNat_toNat c
    have low : ¬ (0xDC00 ≤ c.toNat ∧ c.toNat ≤ 0xDFFF) := by omega
    have high : ¬ (0xD800 ≤ c.toNat ∧ c.toNat ≤ 0xDBFF) := by omega
    simp [readString, value, back, low, high]
  | case9 c quote backslash _ _ _ _ _ visible =>
    rw [List.singleton_append, readString, if_neg quote, if_neg backslash, if_neg visible]
  | _ => simp [readString, simpleEscape?]

/-- A text is read from its quotes. -/
theorem readString_quoted (cs acc rest : List Char) :
    readString .plain acc (cs.flatMap escapeChar ++ '"' :: rest) =
      some (String.ofList (acc.reverse ++ cs), rest) := by
  induction cs generalizing acc with
  | nil => rw [List.flatMap_nil, List.nil_append, readString, if_pos rfl, List.append_nil]
  | cons c cs ih =>
    rw [List.flatMap_cons, List.append_assoc, readString_escapeChar, ih, List.reverse_cons,
      List.append_assoc, List.singleton_append]

/-! ## Numbers -/

/-- What is read before the first character that cannot belong to it. -/
theorem span_append {p : Char → Bool} (all : ∀ c ∈ cs, p c = true)
    (stop : ∀ c ∈ rest.head?, p c = false) :
    (cs ++ rest).takeWhile p = cs ∧ (cs ++ rest).dropWhile p = rest := by
  have head : rest.takeWhile p = [] ∧ rest.dropWhile p = rest := by
    cases rest with
    | nil => exact ⟨rfl, rfl⟩
    | cons c rest => simp [stop c rfl]
  rw [List.takeWhile_append_of_pos all, List.dropWhile_append_of_pos all, head.1, head.2,
    List.append_nil]
  exact ⟨rfl, rfl⟩

theorem toNat_of_isDigit (digit : c.isDigit = true) : 48 ≤ c.toNat ∧ c.toNat ≤ 57 := by
  simpa [Char.isDigit, UInt32.le_iff_toNat_le] using digit

theorem mem_digits (digit : c.isDigit = true) : c ∈ "0123456789".toList := by
  obtain ⟨low, high⟩ := toNat_of_isDigit digit
  rw [← Char.ofNat_toNat c]
  generalize c.toNat = n at *
  interval_cases n <;> decide

/-- A text that can be nothing but a number. -/
structure Numeric (cs : List Char) : Prop where
  begins : ∃ c ∈ cs.head?, c ∈ "-0123456789".toList
  all : ∀ c ∈ cs, isNumberChar c = true

theorem digitsValue_toDigits (n : Nat) : digitsValue (Nat.toDigits 10 n) = n :=
  Nat.ofDigitChars_ten_toDigits

/-- Digits are written without a needless leading zero. -/
theorem head?_toDigits {n : Nat} (pos : 0 < n) : (Nat.toDigits 10 n).head? ≠ some '0' := by
  induction n using Nat.strongRecOn with
  | ind n ih =>
    by_cases small : n < 10
    · rw [Nat.toDigits_of_lt_base small]
      interval_cases n <;> decide
    · have more := ih (n / 10) (by omega) (by omega)
      rw [Nat.toDigits_of_base_le (by decide) (by omega)]
      rwa [List.head?_append_of_ne_nil _ Nat.toDigits_ne_nil]

theorem isDigit_toDigits {n : Nat} (mem : c ∈ Nat.toDigits 10 n) : c.isDigit = true :=
  Nat.isDigit_of_mem_toDigits (by decide) (by decide) mem

/-- The digits of a number, with or without a minus, are read as a numeral without more parts. -/
theorem read_whole (negative : Bool) (n : Nat) :
    Numeral.read ((if negative then ['-'] else []) ++ Nat.toDigits 10 n) =
      some ⟨negative, Nat.toDigits 10 n, none, none⟩ := by
  have digits : takeDigits (Nat.toDigits 10 n) = (Nat.toDigits 10 n, []) := by
    have digit : ∀ c ∈ Nat.toDigits 10 n, c.isDigit = true := fun c mem => isDigit_toDigits mem
    have stop : ∀ c ∈ ([] : List Char).head?, c.isDigit = false := by simp
    obtain ⟨taken, dropped⟩ := span_append digit stop
    rw [List.append_nil] at taken dropped
    rw [takeDigits, taken, dropped]
  have nonempty : (Nat.toDigits 10 n).isEmpty = false := by simp [Nat.toDigits_ne_nil]
  have tidy : ¬ (1 < (Nat.toDigits 10 n).length ∧ (Nat.toDigits 10 n).head? = some '0') := by
    rintro ⟨long, zero⟩
    rcases Nat.eq_zero_or_pos n with rfl | pos
    · exact absurd long (by decide)
    · exact head?_toDigits pos zero
  have unsigned : ∀ rest, Nat.toDigits 10 n ≠ '-' :: rest := by
    intro rest minus
    have digit : '-'.isDigit = true := isDigit_toDigits (minus ▸ List.mem_cons_self)
    cases digit
  cases negative <;> simp [Numeral.read, digits, nonempty, tidy, readExponent]

theorem numeric_of_digits (nonempty : cs ≠ []) (digits : ∀ c ∈ cs, c.isDigit = true) :
    Numeric cs where
  begins := by
    obtain ⟨c, rest, rfl⟩ := List.exists_cons_of_ne_nil nonempty
    refine ⟨c, rfl, ?_⟩
    have digit := mem_digits (digits c List.mem_cons_self)
    exact List.mem_cons_of_mem '-' digit
  all c mem := by simp [isNumberChar, digits c mem]

theorem Numeric.append (number : Numeric cs) (all : ∀ c ∈ rest, isNumberChar c = true) :
    Numeric (cs ++ rest) where
  begins := by
    obtain ⟨c, head, first⟩ := number.begins
    exact ⟨c, List.mem_head?_append_of_mem_head? head, first⟩
  all c mem := (List.mem_append.mp mem).elim (number.all c) (all c)

theorem Numeric.minus (number : Numeric cs) : Numeric ('-' :: cs) where
  begins := ⟨'-', rfl, by decide⟩
  all := List.forall_mem_cons.mpr ⟨by decide, number.all⟩

theorem numeric_toDigits (n : Nat) : Numeric (Nat.toDigits 10 n) :=
  numeric_of_digits Nat.toDigits_ne_nil fun _ mem => isDigit_toDigits mem

/-- The text of an integer. -/
theorem toList_toString (n : Int) :
    (toString n).toList = (if n < 0 then ['-'] else []) ++ Nat.toDigits 10 n.natAbs := by
  cases n with
  | ofNat n => exact Nat.toList_repr
  | negSucc n =>
    show ("-" ++ (n + 1).repr).toList = _
    rw [String.toList_append, Nat.toList_repr, if_pos (Int.negSucc_lt_zero n)]
    rfl

theorem numeric_toString (n : Int) : Numeric (toString n).toList := by
  rw [toList_toString]
  split
  · exact (numeric_toDigits _).minus
  · exact numeric_toDigits _

/-- An integer of 64 bits, signed or unsigned, is read from its text. -/
theorem read_toString {n : Int} (low : -9_223_372_036_854_775_808 ≤ n)
    (high : n < 18_446_744_073_709_551_616) :
    (Numeral.read (toString n).toList).bind Numeral.value? = some (.int n) := by
  have read := read_whole (decide (n < 0)) n.natAbs
  simp only [decide_eq_true_eq] at read
  rw [toList_toString, read, Option.bind_some, Numeral.value?, digitsValue_toDigits]
  by_cases negative : n < 0
  · have nonzero : n.natAbs ≠ 0 := by omega
    have fits : n.natAbs ≤ 9_223_372_036_854_775_808 := by omega
    have back : n = -(n.natAbs : Int) := by omega
    generalize n.natAbs = m at *
    subst back
    simp [nonzero, fits]
  · have fits : n.natAbs < UInt64.size := by
      rw [UInt64.size]
      omega
    have back : n = (n.natAbs : Int) := by omega
    generalize n.natAbs = m at *
    subst back
    simp [fits]

theorem toList_pushn (s : String) (c : Char) (k : Nat) :
    (s.pushn c k).toList = s.toList ++ List.replicate k c := by
  rw [String.pushn_eq_repeat_push]
  induction k with
  | zero => simp [Nat.repeat]
  | succ k ih => simp [Nat.repeat, ih, List.replicate_succ']

/-- A decimal is laid out as a number, in each of the four ways. -/
theorem numeric_layout (d : Decimal.Scientific) : Numeric d.layout.toList := by
  have text : (toString d.digits).toList = Nat.toDigits 10 d.digits := Nat.toList_repr
  have digits := numeric_toDigits d.digits
  have zeros (k : Nat) : ∀ c ∈ List.replicate k '0', isNumberChar c = true := by
    intro c mem
    rw [List.eq_of_mem_replicate mem]
    decide
  simp only [Decimal.Scientific.layout]
  split
  · simp only [String.toList_append, toList_pushn, text]
    exact (digits.append (zeros _)).append (forall_mem_of_all (by decide))
  split
  case isTrue inside =>
    simp only [String.toList_append, String.toList_ofList, text]
    have front : Numeric ((Nat.toDigits 10 d.digits).take
        ((toString d.digits).length + d.exponent).toNat) := by
      refine numeric_of_digits ?_ fun c mem => isDigit_toDigits (List.mem_of_mem_take mem)
      intro empty
      rcases List.take_eq_nil_iff.mp empty with before | empty
      · omega
      · exact Nat.toDigits_ne_nil empty
    have rest : ∀ c ∈ (Nat.toDigits 10 d.digits).drop
        ((toString d.digits).length + d.exponent).toNat, isNumberChar c = true :=
      fun c mem => digits.all c (List.mem_of_mem_drop mem)
    exact (front.append (forall_mem_of_all (by decide))).append rest
  split
  · simp only [String.toList_append, toList_pushn, text]
    have zero : Numeric "0.".toList := ⟨⟨'0', rfl, by decide⟩, forall_mem_of_all (by decide)⟩
    exact (zero.append (zeros _)).append digits.all
  · have exponent := numeric_toString ((toString d.digits).length + d.exponent - 1)
    simp only [String.toList_append, text]
    refine ((?_ : Numeric _).append (forall_mem_of_all (by decide))).append exponent.all
    split
    case h_1 empty => exact absurd empty Nat.toDigits_ne_nil
    case h_2 c one =>
      rw [String.toList_ofList]
      exact one ▸ digits
    case h_3 c rest _ more =>
      rw [String.toList_ofList]
      rw [more] at digits
      obtain ⟨first, others⟩ := List.forall_mem_cons.mp digits.all
      exact ⟨digits.begins, List.forall_mem_cons.mpr ⟨first,
        List.forall_mem_cons.mpr ⟨by decide, others⟩⟩⟩

theorem numeric_shortestText? {x : Float} {text : String}
    (found : Decimal.shortestText? x = some text) : Numeric text.toList := by
  obtain ⟨b, -, shown⟩ := Option.bind_eq_some_iff.mp found
  have signed (t : String) (number : Numeric t.toList) :
      Numeric ((if b.negative then "-" else "") ++ t).toList := by
    rw [String.toList_append]
    split
    · exact number.minus
    · exact number
  change (if b.significand = 0 then some (_ ++ "0.0") else some (_ ++ b.shortest.layout)) =
    some text at shown
  by_cases zero : b.significand = 0
  · rw [if_pos zero, Option.some.injEq] at shown
    exact shown ▸ signed "0.0" ⟨⟨'0', rfl, by decide⟩, forall_mem_of_all (by decide)⟩
  · rw [if_neg zero, Option.some.injEq] at shown
    exact shown ▸ signed _ (numeric_layout _)

/-! ## Tokens -/

/-- What follows begins with nothing that can belong to a number or a literal. -/
def Stops (rest : List Char) : Prop :=
  ∀ c ∈ rest.head?, isNumberChar c = false ∧ c.isAlpha = false

theorem tokens_space (space : isSpace c = true) (rest : List Char) :
    tokens (c :: rest) = tokens rest := by
  simp only [isSpace, Bool.or_eq_true, beq_iff_eq] at space
  obtain ((rfl | rfl) | rfl) | rfl := space <;> simp [tokens, isSpace]

/-- White space is left out. -/
theorem tokens_append_of_space (blank : ∀ c ∈ cs, isSpace c = true) (rest : List Char) :
    tokens (cs ++ rest) = tokens rest := by
  induction cs with
  | nil => rfl
  | cons c cs ih =>
    obtain ⟨space, blank⟩ := List.forall_mem_cons.mp blank
    rw [List.cons_append, tokens_space space, ih blank]

/-- A string is one token. -/
theorem tokens_quoted (s : String) (rest : List Char) :
    tokens ((quoted s).toList ++ rest) = (tokens rest).map (.str s :: ·) := by
  have read := readString_quoted s.toList [] rest
  rw [List.reverse_nil, List.nil_append, String.ofList_toList] at read
  rw [quoted, String.toList_ofList, List.cons_append, List.append_assoc, List.singleton_append,
    tokens, if_neg (by decide)]
  split
  case h_1 unread => cases unread.symm.trans read
  case h_2 found =>
    cases found.symm.trans read
    rfl

/-- A character that a number begins with begins no other token. -/
theorem lead_iff : ∀ c ∈ "-0123456789".toList, c ∉ "[]\x7b\x7d,:\"".toList ∧ isSpace c = false ∧
    (isNumberChar c && c.toLower != 'e') = true := forall_mem_of_all (by decide)

/-- A number is one token, if it can be read at all. -/
theorem tokens_number (number : Numeric cs) (stops : Stops rest) :
    tokens (cs ++ rest) = ((Numeral.read cs).bind Numeral.value?).bind fun value =>
      (tokens rest).map (.scalar value :: ·) := by
  obtain ⟨c, head, first⟩ := number.begins
  obtain ⟨mark, blank, lead⟩ := lead_iff c first
  obtain ⟨cs, rfl⟩ := List.head?_eq_some_iff.mp head
  have stop : ∀ c ∈ rest.head?, isNumberChar c = false := fun c mem => (stops c mem).1
  obtain ⟨taken, dropped⟩ := span_append (List.forall_mem_cons.mp number.all).2 stop
  rw [List.cons_append, tokens, if_neg (by simp [blank]), if_pos lead, taken, dropped]
  · cases (Numeral.read (c :: cs)).bind Numeral.value? <;> rfl
  all_goals
    rintro rfl
    exact mark (by decide)

/-- A word ends where its letters do. -/
theorem tokens_word (lead : c ∈ "ntf".toList) (letters : ∀ c ∈ cs, c.isAlpha = true)
    (stops : Stops rest) :
    tokens (c :: cs ++ rest) =
      match String.ofList (c :: cs) with
      | "true" => (tokens rest).map (.scalar (.bool true) :: ·)
      | "false" => (tokens rest).map (.scalar (.bool false) :: ·)
      | "null" => (tokens rest).map (.scalar .null :: ·)
      | _ => none := by
  have word : ∀ c ∈ "ntf".toList, c ∉ "[]\x7b\x7d,:\"".toList ∧ isSpace c = false ∧
      (isNumberChar c && c.toLower != 'e') = false :=
    forall_mem_of_all (by decide)
  obtain ⟨mark, blank, letter⟩ := word c lead
  obtain ⟨taken, dropped⟩ := span_append letters fun c mem => (stops c mem).2
  rewrite [List.cons_append, tokens, if_neg (by simp [blank]), if_neg (by simp [letter]), taken,
    dropped]
  · rfl
  all_goals
    rintro rfl
    exact mark (by decide)

theorem tokens_null (stops : Stops rest) :
    tokens ("null".toList ++ rest) = (tokens rest).map (.scalar .null :: ·) := by
  have ull : ∀ c ∈ "ull".toList, c.isAlpha = true := forall_mem_of_all (by decide)
  exact tokens_word (c := 'n') (by decide) ull stops

theorem tokens_bool (b : Bool) (stops : Stops rest) :
    tokens ((if b then "true" else "false").toList ++ rest) =
      (tokens rest).map (.scalar (.bool b) :: ·) := by
  have rue : ∀ c ∈ "rue".toList, c.isAlpha = true := forall_mem_of_all (by decide)
  have alse : ∀ c ∈ "alse".toList, c.isAlpha = true := forall_mem_of_all (by decide)
  cases b with
  | true => exact tokens_word (c := 't') (by decide) rue stops
  | false => exact tokens_word (c := 'f') (by decide) alse stops

end ServiceMesh.Json
