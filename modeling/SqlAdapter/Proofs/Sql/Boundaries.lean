/-
Cutting a name by bytes.

A name that has more bytes than the database keeps is cut behind as many of them
as do not end within a character: `cutBack?` walks back from the limit to such a
place. No character has more than four bytes, so there is one at most three bytes
before the limit (`boundaryBefore_truncate`), and what stands in front of it is the
longest front that fits (`cutBack?_eq`).
-/
import SqlAdapter.Proofs.Sql.Truncation

namespace SqlAdapter.Identifier

/-- Is there an end of the text or a place between two characters behind so many bytes? -/
def isBoundary (name : String) (bytes : Nat) : Bool := String.Pos.Raw.isValid name ⟨bytes⟩

/-- The walk back from a number of bytes to a boundary. None where it would go on before the start. -/
def boundaryBefore (name : String) : Nat → Option Nat
  | 0 => if isBoundary name 0 then some 0 else none
  | bytes + 1 => if isBoundary name (bytes + 1) then some (bytes + 1) else boundaryBefore name bytes

/-- So many bytes of a name. None where they end within a character. -/
def firstBytes? (name : String) (bytes : Nat) : Option String :=
  if h : isBoundary name bytes = true then
    some (name.sliceTo ⟨⟨bytes⟩, String.Pos.Raw.isValid_eq_true_iff.mp h⟩).copy
  else none

/-- A name cut at the last boundary within the bytes that the database keeps. None where there is no such place. -/
def cutBack? (name : String) : Option String :=
  if name.utf8ByteSize ≤ maxBytes then some name else (boundaryBefore name maxBytes).bind (firstBytes? name)

variable {name : String} {bytes stop : Nat}

/-! ## Boundaries -/

/-- The boundaries are where the fronts of a name end. -/
theorem isBoundary_iff : isBoundary name bytes = true ↔
    ∃ front, front <+: name.toList ∧ (String.ofList front).utf8ByteSize = bytes := by
  rw [isBoundary, String.Pos.Raw.isValid_eq_true_iff, String.Pos.Raw.isValid_iff_exists_append]
  constructor
  · rintro ⟨s, t, rfl, hbytes⟩
    refine ⟨s.toList, by simp, ?_⟩
    rw [String.ofList_toList]
    exact (congrArg String.Pos.Raw.byteIdx hbytes).symm
  · rintro ⟨front, ⟨rest, hwhole⟩, rfl⟩
    refine ⟨String.ofList front, String.ofList rest, ?_, rfl⟩
    rw [← String.ofList_append, hwhole, String.ofList_toList]

theorem boundaryBefore_eq_some_iff : boundaryBefore name bytes = some stop ↔
    isBoundary name stop = true ∧ stop ≤ bytes ∧ ∀ n, stop < n → n ≤ bytes → isBoundary name n = false := by
  induction bytes with
  | zero =>
    rw [boundaryBefore, Option.ite_none_right_eq_some]
    constructor
    · rintro ⟨hzero, ⟨⟩⟩
      exact ⟨hzero, Nat.le_refl 0, fun n hn hle => absurd hle (Nat.not_le_of_lt hn)⟩
    · rintro ⟨hstop, hle, -⟩
      obtain rfl := Nat.le_zero.mp hle
      exact ⟨hstop, rfl⟩
  | succ bytes ih =>
    rw [boundaryBefore]
    by_cases hhere : isBoundary name (bytes + 1) = true
    · rw [if_pos hhere]
      constructor
      · rintro ⟨⟩
        exact ⟨hhere, Nat.le_refl _, fun n hn hle => absurd hle (Nat.not_le_of_lt hn)⟩
      · rintro ⟨-, hle, hnone⟩
        by_cases hlt : stop < bytes + 1
        · exact absurd (hnone _ hlt (Nat.le_refl _)) (by simp [hhere])
        · rw [Nat.le_antisymm hle (Nat.le_of_not_lt hlt)]
    · rw [if_neg hhere, ih]
      constructor
      · rintro ⟨hstop, hle, hnone⟩
        refine ⟨hstop, Nat.le_succ_of_le hle, fun n hn hn' => ?_⟩
        rcases Nat.le_succ_iff.mp hn' with hn' | rfl
        · exact hnone n hn hn'
        · simpa using hhere
      · rintro ⟨hstop, hle, hnone⟩
        have hne : stop ≠ bytes + 1 := by
          rintro rfl
          exact hhere hstop
        exact ⟨hstop, by omega, fun n hn hn' => hnone n hn (Nat.le_succ_of_le hn')⟩

/-- The walk back ends behind what is taken with that many bytes. -/
theorem boundaryBefore_takeBytes (name : String) (bytes : Nat) :
    boundaryBefore name bytes = some (String.ofList (takeBytes bytes name.toList)).utf8ByteSize := by
  rw [boundaryBefore_eq_some_iff]
  refine ⟨isBoundary_iff.mpr ⟨_, takeBytes_front bytes name.toList, rfl⟩, size_takeBytes_le _ _, fun n hn hle => ?_⟩
  rw [Bool.eq_false_iff, ne_eq, isBoundary_iff]
  rintro ⟨front, hfront, rfl⟩
  obtain ⟨more, hmore⟩ := front_takeBytes hfront hle
  rw [← hmore, String.ofList_append, String.utf8ByteSize_append] at hn
  omega

/-- What is not taken whole leaves less room than a character can need. -/
theorem lt_size_takeBytes {cs : List Char} (h : takeBytes bytes cs ≠ cs) :
    bytes < (String.ofList (takeBytes bytes cs)).utf8ByteSize + 4 := by
  induction cs generalizing bytes with
  | nil => exact absurd rfl h
  | cons c cs ih =>
    have hsize := Char.utf8Size_le_four c
    rw [takeBytes] at h ⊢
    split
    · next hfits =>
      rw [if_pos hfits] at h
      have hrest := @ih (bytes - c.utf8Size) fun hcs => h (congrArg (c :: ·) hcs)
      rw [String.ofList_cons, String.utf8ByteSize_append, String.utf8ByteSize_singleton]
      omega
    · simp
      omega

/-- In a name that is too long the walk back from the limit ends, after three steps at most, behind what is kept. -/
theorem boundaryBefore_truncate (h : ¬ name.utf8ByteSize ≤ maxBytes) :
    boundaryBefore name maxBytes = some (truncate name).utf8ByteSize ∧ maxBytes < (truncate name).utf8ByteSize + 4 := by
  refine ⟨boundaryBefore_takeBytes name maxBytes, lt_size_takeBytes fun hwhole => h ?_⟩
  exact truncate_eq_self_iff.mp (by rw [truncate, hwhole, String.ofList_toList])

theorem firstBytes?_of_front {front : List Char} (h : front <+: name.toList) :
    firstBytes? name (String.ofList front).utf8ByteSize = some (String.ofList front) := by
  obtain ⟨rest, hwhole⟩ := h
  have hboundary := isBoundary_iff.mpr ⟨front, ⟨rest, hwhole⟩, rfl⟩
  have hvalid := String.Pos.Raw.isValid_eq_true_iff.mp hboundary
  have hsplits : (String.Pos.mk _ hvalid).Splits (String.ofList front) (String.ofList rest) :=
    ⟨by rw [← String.ofList_append, hwhole, String.ofList_toList], rfl⟩
  rw [firstBytes?, dif_pos hboundary]
  exact congrArg some ((String.Pos.splits _).eq_left hsplits)

/-- Walking back cuts every name to its longest front that fits. -/
theorem cutBack?_eq (name : String) : cutBack? name = some (truncate name) := by
  rw [cutBack?]
  split
  · next h => rw [truncate_eq_self_iff.mpr h]
  · next h =>
    rw [(boundaryBefore_truncate h).1, Option.bind_some]
    exact firstBytes?_of_front (takeBytes_front maxBytes name.toList)

end SqlAdapter.Identifier
