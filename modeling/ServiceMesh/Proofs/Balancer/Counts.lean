import Mathlib.Algebra.Ring.Nat
import ServiceMesh.Balancer.Statistics

/-!
# Counts in words

The counts of loads and statistics are words of 64 bits. What a call does to the number that a
word stands for holds modulo `2 ^ 64`, and exactly as long as the word is not full.
-/

namespace ServiceMesh

namespace Load

theorem inFlight_lt (l : Load) : l.inFlight < 2 ^ 64 := l.pending.toNat_lt

theorem inFlight_start (l : Load) : l.start.inFlight = (l.inFlight + 1) % 2 ^ 64 :=
  UInt64.toNat_add l.pending 1

theorem total_start (l : Load) : l.start.total = (l.total + 1) % 2 ^ 64 :=
  UInt64.toNat_add l.selections 1

end Load

namespace Statistics

variable (s : Statistics)

theorem total_addSelection (id : String) (algorithm : Algorithm) :
    (s.addSelection id algorithm).total = (s.total + 1) % 2 ^ 64 :=
  UInt64.toNat_add s.selections 1

theorem succeeded_addReport (success : Bool) (time : Duration) (alpha : Float) :
    (s.addReport success time alpha).succeeded =
      (s.succeeded + if success = true then 1 else 0) % 2 ^ 64 := by
  cases success with
  | true => exact UInt64.toNat_add s.successes 1
  | false => exact (Nat.mod_eq_of_lt s.successes.toNat_lt).symm

theorem failed_addReport (success : Bool) (time : Duration) (alpha : Float) :
    (s.addReport success time alpha).failed =
      (s.failed + if success = false then 1 else 0) % 2 ^ 64 := by
  cases success with
  | true => exact (Nat.mod_eq_of_lt s.failures.toNat_lt).symm
  | false => exact UInt64.toNat_add s.failures 1

/-- The sum of the words of some statistics is that of their numbers, as far as a word can tell. -/
theorem toNat_foldl_add (count : Statistics → UInt64) (stats : List Statistics) (start : UInt64) :
    (stats.foldl (fun n s => n + count s) start).toNat =
      (start.toNat + (stats.map fun s => (count s).toNat).sum) % 2 ^ 64 := by
  induction stats generalizing start with
  | nil => exact (Nat.mod_eq_of_lt start.toNat_lt).symm
  | cons s rest ih =>
    rw [List.foldl_cons, ih, UInt64.toNat_add, Nat.mod_add_mod, List.map_cons, List.sum_cons,
      Nat.add_assoc]

end Statistics

end ServiceMesh
