/-
Slices at the widths of the machine.

The bounds of a window are signed numbers of 32 bits, a list is indexed by
unsigned ones of 64. `slice?` takes the steps at these widths: it is none where 32
bits do not hold a difference and where a range does not lie in the list, and a
negative index wraps. None of this happens, and what is cut is what the window cuts
(`slice?_eq`). `apply_eq_filter` says what that is by the positions alone.
-/
import SqlAdapter.Proofs.Record.FanOut

namespace SqlAdapter

namespace Window

variable {α : Type}

/-! ## Positions -/

/-- The items of a range of positions are a stretch of the list. -/
theorem filter_positions (items : List α) (first last place : Nat) :
    ((items.zipIdx place).filter fun (_, p) => first ≤ p ∧ p < last).map Prod.fst =
      (items.take (last - place)).drop (first - place) := by
  induction items generalizing place with
  | nil => simp
  | cons x xs ih =>
    rw [List.zipIdx_cons, List.filter_cons]
    by_cases hlast : place < last
    · have htake : last - place = (last - (place + 1)) + 1 := by omega
      rw [htake, List.take_succ_cons]
      by_cases hfirst : first ≤ place
      · have hdrop : first - place = 0 ∧ first - (place + 1) = 0 := by omega
        rw [if_pos (by simp [hfirst, hlast]), List.map_cons, ih, hdrop.1, hdrop.2, List.drop_zero, List.drop_zero]
      · have hdrop : first - place = (first - (place + 1)) + 1 := by omega
        rw [if_neg (by simp [hfirst]), ih, hdrop, List.drop_succ_cons]
    · have hnone : last - place = 0 ∧ last - (place + 1) = 0 := by omega
      rw [if_neg (by simp [hlast]), ih, hnone.1, hnone.2, List.take_zero, List.take_zero, List.drop_nil, List.drop_nil]

/-- A window keeps the items whose positions, counted from one, lie within its bounds. -/
theorem apply_eq_filter (w : Window) (items : List α) :
    w.apply items = ((items.zipIdx 1).filter fun (_, p) => w.lower ≤ p ∧ p ≤ w.upper).map Prod.fst := by
  have hbounds : ∀ p : Nat, (w.lower ≤ p ∧ (p : Int) ≤ w.upper) ↔ (w.lower.toNat ≤ p ∧ p < (w.upper + 1).toNat) := by
    intro p
    omega
  simp only [hbounds]
  rw [filter_positions, apply]
  split
  · next hnone =>
    have hshort : (items.take ((w.upper + 1).toNat - 1)).length ≤ w.lower.toNat - 1 := by
      rw [List.length_take]
      omega
    exact (List.drop_eq_nil_of_le hshort).symm
  · congr 2 <;> omega

/-! ## The steps of the machine -/

/-- A number as a signed one of 32 bits, if they hold it. -/
def int32? (n : Int) : Option Int32 :=
  if -2 ^ 31 ≤ n ∧ n < 2 ^ 31 then some (Int32.ofInt n) else none

/-- A signed number as an index: a negative one wraps to the upper half of 64 bits. -/
def index (n : Int32) : Nat := n.toInt64.toUInt64.toNat

/-- The items of a range of indices, if it is one and lies in the list. -/
def range? (items : List α) (start stop : Nat) : Option (List α) :=
  if start ≤ stop ∧ stop ≤ items.length then some ((items.take stop).drop start) else none

/-- The slice between two positions, none where a step of it fails. -/
def slice? (lower upper : Int32) (items : List α) : Option (List α) :=
  if upper < lower ∨ upper < 1 then some []
  else do
    let start ← int32? ((max lower 1).toInt - 1)
    let stop := min (index upper) items.length
    if index start ≥ stop then some [] else range? items (index start) stop

/-- The last position under a limit: a limit that 32 bits do not hold counts as their greatest number. -/
def lastPosition (limit : Int64) : Int32 := (int32? (max limit 0).toInt).getD Int32.maxValue

/-- The greater of two machine numbers stands for the greater of their values. -/
theorem toInt_ite_le {β : Type} [LE β] [DecidableLE β] (toInt : β → Int) (hle : ∀ a b, a ≤ b ↔ toInt a ≤ toInt b)
    (a b : β) : toInt (if a ≤ b then b else a) = max (toInt a) (toInt b) := by
  simp only [apply_ite toInt, hle, Int.max_def]

theorem int32?_of_range {n : Int} (hmin : -2 ^ 31 ≤ n) (hmax : n < 2 ^ 31) :
    ∃ m : Int32, int32? n = some m ∧ m.toInt = n :=
  ⟨Int32.ofInt n, if_pos ⟨hmin, hmax⟩, Int32.toInt_ofInt_of_le hmin hmax⟩

theorem index_of_nonneg {n : Int32} (h : 0 ≤ n.toInt) : index n = n.toInt.toNat := by
  have hwide : 0 ≤ n.toInt64 := by
    rw [Int64.le_iff_toInt_le, Int32.toInt_toInt64]
    exact h
  rw [index, Int64.toNat_toUInt64_of_le hwide, ← Int64.toNat_toInt, Int32.toInt_toInt64]

/-- A bound is raised to one before its difference is taken, which is then no less than zero. -/
theorem int32?_start (lower : Int32) :
    ∃ start, int32? ((max lower 1).toInt - 1) = some start ∧ start.toInt = max lower.toInt 1 - 1 := by
  have hraised : (max lower 1).toInt = max lower.toInt 1 :=
    toInt_ite_le Int32.toInt (fun _ _ => Int32.le_iff_toInt_le) lower 1
  have hbound := Int32.toInt_lt lower
  rw [hraised]
  exact int32?_of_range (by omega) (by omega)

/-- No step of a slice fails, and it cuts what the window cuts. -/
theorem slice?_eq (lower upper : Int32) (items : List α) :
    slice? lower upper items = some ((Window.mk lower.toInt upper.toInt).apply items) := by
  have hcrossed : (upper < lower ∨ upper < 1) ↔ (upper.toInt < lower.toInt ∨ upper.toInt < 1) := by
    rw [Int32.lt_iff_toInt_lt, Int32.lt_iff_toInt_lt, Int32.toInt_one]
  unfold slice? apply
  by_cases hnone : upper.toInt < lower.toInt ∨ upper.toInt < 1
  · rw [if_pos (hcrossed.mpr hnone), if_pos hnone]
  · obtain ⟨start, hstart, hvalue⟩ := int32?_start lower
    have hfirst : index start = (max lower.toInt 1 - 1).toNat := by
      rw [index_of_nonneg (by omega), hvalue]
    have hlast : index upper = upper.toInt.toNat := index_of_nonneg (by omega)
    rw [if_neg (mt hcrossed.mp hnone), if_neg hnone, hstart]
    simp only [Option.bind_eq_bind, Option.bind_some, hfirst, hlast]
    by_cases hshort : (max lower.toInt 1 - 1).toNat ≥ min upper.toInt.toNat items.length
    · rw [if_pos hshort, List.drop_eq_nil_of_le (by rwa [List.length_take])]
    · rw [if_neg hshort, range?, if_pos ⟨by omega, by omega⟩, ← List.take_eq_take_min]

/-- The window of a lateral alone has bounds of 32 bits, whatever the limit. -/
theorem lastPosition_toInt (limit : Int64) : (lastPosition limit).toInt = min (max limit.toInt 0) maxPosition := by
  have hraised : (max limit 0).toInt = max limit.toInt 0 :=
    toInt_ite_le Int64.toInt (fun _ _ => Int64.le_iff_toInt_le) limit 0
  unfold lastPosition maxPosition
  rw [hraised]
  by_cases hfits : max limit.toInt 0 < 2 ^ 31
  · obtain ⟨last, hlast, hvalue⟩ := int32?_of_range (by omega) hfits
    rw [hlast, Option.getD_some, hvalue]
    omega
  · rw [int32?, if_neg (fun h => hfits h.2), Option.getD_none, Int32.toInt_maxValue]
    omega

/-! ## What a slice is -/

/-- For any bounds a slice ends in a list, the items at the positions between them. The window under a limit,
whatever it is, leaves a list alone that is no longer than the limit and has no more items than an array can. -/
theorem slices_by_position (items : List α) :
    (∀ lower upper : Int32,
      slice? lower upper items = some ((Window.mk lower.toInt upper.toInt).apply items) ∧
      (Window.mk lower.toInt upper.toInt).apply items =
        ((items.zipIdx 1).filter fun (_, p) => lower.toInt ≤ p ∧ p ≤ upper.toInt).map Prod.fst) ∧
    ∀ limit : Int64,
      forJoin (some limit) 1 = some ⟨1, (lastPosition limit).toInt⟩ ∧
      ((items.length : Int) ≤ max limit.toInt 0 → (items.length : Int) ≤ Int32.maxValue.toInt →
        (Window.mk 1 (lastPosition limit).toInt).apply items = items ∧
        slice? 1 (lastPosition limit) items = some items) := by
  refine ⟨fun lower upper => ⟨slice?_eq lower upper items, apply_eq_filter _ items⟩, fun limit => ⟨?_, ?_⟩⟩
  · rw [forJoin, lastPosition_toInt]
  · intro hlimit hmax
    have hwhole : (Window.mk 1 (lastPosition limit).toInt).apply items = items := by
      apply apply_of_length_le
      rw [Int32.toInt_maxValue] at hmax
      rw [lastPosition_toInt, maxPosition]
      omega
    refine ⟨hwhole, ?_⟩
    rw [slice?_eq, Int32.toInt_one, hwhole]

/-- A crossed slice, one from a negative bound, and a limit beyond 32 bits. -/
theorem slices_by_position_of_three :
    slice? 3 2 ["a", "b", "c"] = some [] ∧ slice? (-5) 2 ["a", "b", "c"] = some ["a", "b"] ∧
      slice? 1 (lastPosition 5000000000) ["a", "b", "c"] = some ["a", "b", "c"] := by
  obtain ⟨hslices, hlimits⟩ := slices_by_position ["a", "b", "c"]
  refine ⟨?_, ?_, ?_⟩
  · rw [(hslices 3 2).1]
    decide
  · rw [(hslices (-5) 2).1]
    decide
  · exact ((hlimits 5000000000).2 (by decide) (by decide)).2

end Window

end SqlAdapter
