/-
The slice of an aggregated association.

Positions count from one, both bounds included, and bounds outside the list cut
nothing. A lateral subquery has already skipped and limited the rows of each
parent, so the window of a join starts at one. With several laterals the rows of
one are repeated by the others; a slice by position would then cut distinct
rows, so there is none.
-/
import SqlAdapter.Text.Digits

namespace SqlAdapter

structure Window where
  lower : Int
  upper : Int
  deriving DecidableEq

namespace Window

/-- The greatest position that an array can have. -/
def maxPosition : Int := 2 ^ 31 - 1

/-- The window of a join with a limit, among a number of laterals. -/
def forJoin (limit : Option Int64) (laterals : Nat) : Option Window :=
  match limit, laterals with
  | some limit, 1 => some ⟨1, min (max limit.toInt 0) maxPosition⟩
  | _, _ => none

/-- The window as it follows an array in SQL. -/
def sql (w : Window) : String := "[" ++ integerText w.lower ++ ":" ++ integerText w.upper ++ "]"

/-- The items at the positions of the window. -/
def apply {α : Type} (w : Window) (items : List α) : List α :=
  if w.upper < w.lower ∨ w.upper < 1 then []
  else (items.take w.upper.toNat).drop (max w.lower 1 - 1).toNat

end Window

end SqlAdapter
