import Mathlib.Data.List.Basic

/-!
# Counting since a mark

A counter that is set back now and then holds what has been counted since it was set back last.
A log of what has happened tells the same: the entries of a kind that stand behind the latest
mark.
-/

namespace ServiceMesh

variable {α : Type} {mark kind : α → Bool}

/-- The number of entries of a kind behind the latest entry that is a mark. Without a mark all
entries count. -/
def countSince (mark kind : α → Bool) (log : List α) : Nat :=
  (log.reverse.takeWhile fun e => !mark e).countP kind

theorem countSince_snoc_of_mark {e : α} (marks : mark e = true) (log : List α) :
    countSince mark kind (log ++ [e]) = 0 := by
  simp [countSince, marks]

theorem countSince_snoc {e : α} (goesOn : mark e = false) (log : List α) :
    countSince mark kind (log ++ [e]) =
      countSince mark kind log + if kind e = true then 1 else 0 := by
  simp [countSince, goesOn, List.countP_cons]

end ServiceMesh
