import Mathlib.Data.Nat.ModEq
import Mathlib.Logic.Function.Basic
import ServiceMesh.Balancer.Ring

/-!
# Collisions of points

Two sequences of bytes are hashed to one point exactly if their FNV-1a values are equal, for the
bits of a value are spread without loss: an exclusive or with the same number shifted to the right
can be undone, and so can a product with an odd number. The steps of FNV-1a lose nothing of the
value before them either. So a collision outlasts whatever follows on both sides, and nothing that
follows makes up for a single byte that is another one.
-/

namespace ServiceMesh

/-! ## What can be undone -/

/-- Nothing is lost if a number is mixed with what is left of it after a shift to the right. -/
theorem xor_shiftRight_injective {k : UInt64} (shifts : k.toNat % 64 ≠ 0) :
    Function.Injective fun h : UInt64 => h ^^^ (h >>> k) := by
  intro g h same
  -- The difference of the two is its own shift, so it has no highest bit.
  have shifted : g ^^^ h = (g ^^^ h) >>> k := by
    rw [UInt64.shiftRight_xor, ← UInt64.xor_eq_zero_iff]
    calc g ^^^ h ^^^ ((g >>> k) ^^^ (h >>> k))
        = g ^^^ (g >>> k) ^^^ (h ^^^ (h >>> k)) := by ac_rfl
      _ = 0 := UInt64.xor_eq_zero_iff.mpr same
  have halved : (g ^^^ h).toNat = (g ^^^ h).toNat / 2 ^ (k.toNat % 64) := by
    have words := congrArg UInt64.toNat shifted
    rwa [UInt64.toNat_shiftRight, Nat.shiftRight_eq_div_pow] at words
  have cleared : (g ^^^ h).toNat = 0 := by
    by_contra left
    have less := Nat.div_lt_self (Nat.pos_of_ne_zero left) (Nat.one_lt_two_pow shifts)
    omega
  exact UInt64.xor_eq_zero_iff.mp (UInt64.toNat_inj.mp cleared)

/-- Nothing is lost in a product with an odd number. -/
theorem mul_odd_injective {c : UInt64} (odd : c.toNat % 2 = 1) :
    Function.Injective fun h : UInt64 => h * c := by
  intro g h same
  have products : g.toNat * c.toNat ≡ h.toNat * c.toNat [MOD 2 ^ 64] := by
    have words := congrArg UInt64.toNat same
    rwa [UInt64.toNat_mul, UInt64.toNat_mul] at words
  have coprime : Nat.Coprime (2 ^ 64) c.toNat := by
    apply Nat.Coprime.pow_left
    rw [Nat.Coprime, Nat.gcd_rec, odd, Nat.gcd_one_left]
  have factors := products.cancel_right_of_coprime coprime
  exact UInt64.toNat_inj.mp (factors.eq_of_lt_of_lt g.toNat_lt h.toNat_lt)

theorem spread_injective : Function.Injective spread :=
  (xor_shiftRight_injective (by decide)).comp <|
    (mul_odd_injective (by decide)).comp <| (xor_shiftRight_injective (by decide)).comp <|
      (mul_odd_injective (by decide)).comp (xor_shiftRight_injective (by decide))

/-! ## Steps of FNV-1a -/

variable {a b : List UInt8}

private theorem fnvStep_injective (byte : UInt8) : Function.Injective (fnvStep · byte) := by
  intro g h same
  exact (UInt64.xor_left_inj _).mp (mul_odd_injective (by decide) same)

private theorem fnvStep_ne {x y : UInt8} (h : UInt64) (differ : x ≠ y) :
    fnvStep h x ≠ fnvStep h y := by
  intro same
  have bytes := (UInt64.xor_right_inj _).mp (mul_odd_injective (by decide) same)
  exact differ (UInt8.toUInt64_inj.mp bytes)

private theorem foldl_fnvStep_injective (bytes : List UInt8) :
    Function.Injective fun h => bytes.foldl fnvStep h := by
  induction bytes with
  | nil => exact Function.injective_id
  | cons byte rest ih => exact ih.comp (fnvStep_injective byte)

/-- The FNV-1a value in whole numbers. -/
theorem toNat_fnv (bytes : List UInt8) :
    (fnv bytes).toNat = bytes.foldl (fun h byte => (h ^^^ byte.toNat) * 1_099_511_628_211 % 2 ^ 64)
      14_695_981_039_346_656_037 := by
  have steps : ∀ start : UInt64, (bytes.foldl fnvStep start).toNat =
      bytes.foldl (fun h byte => (h ^^^ byte.toNat) * 1_099_511_628_211 % 2 ^ 64)
        start.toNat := by
    induction bytes with
    | nil => exact fun _ => rfl
    | cons byte rest ih =>
      intro start
      rw [List.foldl_cons, ih, List.foldl_cons, fnvStep, UInt64.toNat_mul, UInt64.toNat_xor,
        UInt8.toNat_toUInt64]
      rfl
  exact steps _

theorem fnv_append_eq_iff (rest : List UInt8) :
    fnv (a ++ rest) = fnv (b ++ rest) ↔ fnv a = fnv b := by
  rw [fnv, fnv, List.foldl_append, List.foldl_append]
  exact (foldl_fnvStep_injective rest).eq_iff

theorem hashBytes_eq_iff : hashBytes a = hashBytes b ↔ fnv a = fnv b := spread_injective.eq_iff

/-- Whatever follows on both sides neither undoes a collision nor makes one. -/
theorem hashBytes_append_eq_iff (rest : List UInt8) :
    hashBytes (a ++ rest) = hashBytes (b ++ rest) ↔ hashBytes a = hashBytes b := by
  rw [hashBytes_eq_iff, fnv_append_eq_iff, hashBytes_eq_iff]

/-! ## One byte that is another one -/

/-- Two sequences of bytes have one length and differ in exactly one place. -/
def DifferOnce (a b : List UInt8) : Prop := a.length = b.length ∧ ∃! i : Nat, a[i]? ≠ b[i]?

theorem differOnce_iff : DifferOnce a b ↔
    ∃ before x y behind, x ≠ y ∧ a = before ++ x :: behind ∧ b = before ++ y :: behind := by
  constructor
  · rintro ⟨length, i, differ, only⟩
    have same : ∀ j, j ≠ i → a[j]? = b[j]? := fun j other =>
      not_not.mp fun differs => other (only j differs)
    have inside : i < a.length := by
      by_contra beyond
      exact differ (by rw [List.getElem?_eq_none (by omega), List.getElem?_eq_none (by omega)])
    have before : a.take i = b.take i := by
      apply List.ext_getElem?
      intro j
      rw [List.getElem?_take, List.getElem?_take]
      split
      case isTrue early => exact same j (by omega)
      case isFalse => rfl
    have behind : a.drop (i + 1) = b.drop (i + 1) := by
      apply List.ext_getElem?
      intro j
      rw [List.getElem?_drop, List.getElem?_drop]
      exact same _ (by omega)
    refine ⟨a.take i, a[i], b[i], a.drop (i + 1), ?_, ?_, ?_⟩
    · rwa [List.getElem?_eq_getElem inside, List.getElem?_eq_getElem (length ▸ inside),
        Ne, Option.some_inj] at differ
    · rw [← List.drop_eq_getElem_cons, List.take_append_drop]
    · rw [before, behind, ← List.drop_eq_getElem_cons, List.take_append_drop]
  · rintro ⟨before, x, y, behind, differ, rfl, rfl⟩
    refine ⟨by simp, before.length, by simpa using differ, ?_⟩
    intro j differs
    by_contra other
    rcases Nat.lt_or_gt_of_ne other with early | late
    · exact differs (by rw [List.getElem?_append_left early, List.getElem?_append_left early])
    · obtain ⟨n, rfl⟩ := Nat.exists_eq_add_of_lt late
      refine differs ?_
      rw [Nat.add_assoc, List.getElem?_append_right (Nat.le_add_right _ _),
        List.getElem?_append_right (Nat.le_add_right _ _), Nat.add_sub_cancel_left]
      rfl

theorem DifferOnce.hashBytes_ne (once : DifferOnce a b) : hashBytes a ≠ hashBytes b := by
  obtain ⟨before, x, y, behind, differ, rfl, rfl⟩ := differOnce_iff.mp once
  intro same
  have steps : fnvStep (fnv before) x = fnvStep (fnv before) y := by
    refine foldl_fnvStep_injective behind ?_
    simpa [fnv] using hashBytes_eq_iff.mp same
  exact fnvStep_ne _ differ steps

/-! ## Texts -/

private theorem toList_loop (bytes : ByteArray) (i : Nat) (seen : List UInt8) :
    ByteArray.toList.loop bytes i seen = seen.reverse ++ bytes.data.toList.drop i := by
  induction i, seen using ByteArray.toList.loop.induct bytes with
  | case1 i seen inside ih =>
    have listed : i < bytes.data.toList.length := inside
    have byte : bytes.get! i = bytes.data.toList[i] := getElem!_pos bytes.data i inside
    rw [ByteArray.toList.loop, if_pos inside, ih, byte, List.reverse_cons, List.append_assoc,
      List.singleton_append, ← List.drop_eq_getElem_cons listed]
  | case2 i seen beyond =>
    have past : bytes.data.toList.length ≤ i := Nat.not_lt.mp beyond
    rw [ByteArray.toList.loop, if_neg beyond, List.drop_eq_nil_of_le past, List.append_nil]

private theorem toList_toUTF8_append (s t : String) :
    (s ++ t).toUTF8.toList = s.toUTF8.toList ++ t.toUTF8.toList := by
  have bytes : ∀ u : String, u.toUTF8.toList = u.toByteArray.data.toList := fun u =>
    toList_loop u.toUTF8 0 []
  rw [bytes, bytes, bytes, String.toByteArray_append, ByteArray.toList_data_append]

theorem hashText_append_eq_iff {s t : String} (rest : String) :
    hashText (s ++ rest) = hashText (t ++ rest) ↔ hashText s = hashText t := by
  rw [hashText, hashText, toList_toUTF8_append, toList_toUTF8_append, hashBytes_append_eq_iff]
  rfl

namespace Ring

private theorem getElem?_pointsOf {replicas i : Nat} (known : i < replicas) (id : String) :
    ((pointsOf replicas id).map (·.1))[i]? = some (hashText (id ++ "#" ++ toString i)) := by
  rw [pointsOf, List.map_map, List.getElem?_map, List.getElem?_range known]
  rfl

/-- The points of a ring collide only where FNV-1a does. Two sequences of bytes are hashed to
one point exactly if their FNV-1a values are equal, for spreading a value loses nothing of it. A
collision outlasts whatever follows on both sides, so ids that collide by themselves or at one
replica collide at every replica. Sequences of one length that differ in a single byte do not
collide, so ids of this kind never share the point of the same replica. -/
theorem collisions_exact :
    let points (replicas : Nat) (id : String) := (pointsOf replicas id).map (·.1)
    (∀ bytes : List UInt8, (fnv bytes).toNat =
      bytes.foldl (fun h byte => (h ^^^ byte.toNat) * 1_099_511_628_211 % 2 ^ 64)
        14_695_981_039_346_656_037) ∧
    Function.Injective spread ∧
    (∀ a b : List UInt8, hashBytes a = hashBytes b ↔ fnv a = fnv b) ∧
    (∀ a b : List UInt8, fnv a = fnv b →
      ∀ rest, hashBytes (a ++ rest) = hashBytes (b ++ rest)) ∧
    (∀ a b : String,
      (hashText a = hashText b ∨ ∃ n, ∃ i < n, (points n a)[i]? = (points n b)[i]?) →
        ∀ n, points n a = points n b) ∧
    (∀ a b : List UInt8, DifferOnce a b → hashBytes a ≠ hashBytes b) ∧
    ∀ a b : String, DifferOnce a.toUTF8.toList b.toUTF8.toList →
      ∀ n, ∀ i < n, (points n a)[i]? ≠ (points n b)[i]? := by
  intro points
  have replica : ∀ (a b : String) (i : Nat),
      hashText (a ++ "#" ++ toString i) = hashText (b ++ "#" ++ toString i) ↔
        hashText a = hashText b := fun a b i =>
    (hashText_append_eq_iff _).trans (hashText_append_eq_iff _)
  have shared : ∀ (a b : String) (n i : Nat), i < n →
      ((points n a)[i]? = (points n b)[i]? ↔ hashText a = hashText b) := by
    intro a b n i known
    rw [getElem?_pointsOf known, getElem?_pointsOf known, Option.some_inj, replica]
  refine ⟨toNat_fnv, spread_injective, fun a b => hashBytes_eq_iff, ?_, ?_,
    fun a b once => once.hashBytes_ne, ?_⟩
  · intro a b same rest
    exact (hashBytes_append_eq_iff rest).mpr (hashBytes_eq_iff.mpr same)
  · intro a b collide n
    have same : hashText a = hashText b := by
      rcases collide with same | ⟨n, i, known, same⟩
      · exact same
      · exact (shared a b n i known).mp same
    simp only [points, pointsOf, List.map_map]
    exact List.map_congr_left fun i _ => (replica a b i).mpr same
  · intro a b once n i known same
    exact once.hashBytes_ne ((shared a b n i known).mp same)

/-- Two ids whose FNV-1a values are equal share all hundred points; two ids that differ in their
last byte share none of the same replica. -/
theorem collisions_exact_of_pairs :
    let x := "8yn0iYCKYHlIj4-BwPqk"
    let y := "GReLUrM4wMqfg9yzV3KQ"
    (x ≠ y ∧ hashText x = hashText y ∧
      (pointsOf 100 x).map (·.1) = (pointsOf 100 y).map (·.1)) ∧
    DifferOnce "web-1".toUTF8.toList "web-2".toUTF8.toList ∧
      ((pointsOf 100 "web-1").map (·.1))[7]? ≠ ((pointsOf 100 "web-2").map (·.1))[7]? := by
  intro x y
  obtain ⟨-, -, -, -, collide, -, apart⟩ := collisions_exact
  have same : hashText x = hashText y := by decide +kernel
  have once : DifferOnce "web-1".toUTF8.toList "web-2".toUTF8.toList :=
    differOnce_iff.mpr ⟨[119, 101, 98, 45], 49, 50, [], by decide, by decide +kernel,
      by decide +kernel⟩
  exact ⟨⟨by decide, same, collide x y (.inl same) 100⟩, once,
    apart "web-1" "web-2" once 100 7 (by decide)⟩

end Ring

end ServiceMesh
