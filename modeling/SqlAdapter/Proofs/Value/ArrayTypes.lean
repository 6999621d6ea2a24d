/-
Which arrays bind as native arrays.

An array is bound by its first element that is not NULL: `arrayType?` gives the type of arrays of
its kind and the test for the others. Six kinds have one (`nativeTypes`), and the test tells their
values from all others (`arrayType?_native`). So an array binds as a native one of its elements
exactly when these are all of one kind, NULLs aside, and the kind is one of the six; every other
array with a value in it binds as JSON (`array_native_iff`).
-/
import SqlAdapter.Value.Parameter

namespace SqlAdapter

/-- The type of the elements of a native array, as they bind alone. -/
def Parameter.itemType? : Parameter → Option Parameter
  | .int4Array => some .int4
  | .int8Array => some .int8
  | .textArray => some .text
  | .boolArray => some .bool
  | .float8Array => some .float8
  | .uuidArray => some .uuid
  | _ => none

namespace Value

/-- The kinds of values whose arrays bind natively, by the names of their types. -/
def nativeTypes : List String := ["INTEGER", "BIGINT", "TEXT", "BOOLEAN", "DOUBLE PRECISION", "UUID"]

/-- The elements are all of one kind, NULLs aside. Each kind of values has a type name of its own. -/
def Uniform (items : List Value) (typeName : String) : Prop :=
  ∀ v ∈ items, v.isNull = false → v.typeName = typeName

variable {items : List Value} {v first : Value} {type : Parameter} {like : Value → Bool}

/-! ## One element -/

/-- The test for the other elements takes those of the same kind, and the array is one of what each of them binds as.
-/
theorem arrayType?_native (h : first.arrayType? = some (type, like)) : first.typeName ∈ nativeTypes ∧
    ∀ w, (like w = true ↔ w.typeName = first.typeName) ∧ (like w = true → type.itemType? = some w.parameter) := by
  cases first with
  | int | bigInt | string | bool | double | uuid =>
    cases h
    refine ⟨by simp [typeName, nativeTypes], fun w => ?_⟩
    cases w <;> simp [typeName, parameter, Parameter.itemType?]
  | _ => cases h

theorem arrayType?_none (h : first.arrayType? = none) : first.typeName ∉ nativeTypes := by
  cases first with
  | int | bigInt | string | bool | double | uuid => cases h
  | _ => simp [typeName, nativeTypes]

/-! ## The whole array -/

/-- The scan of an array after its first value takes an array of one kind only. -/
theorem all_like_iff (hlike : ∀ w, like w = true ↔ w.typeName = first.typeName) :
    (items.all fun w => w.isNull || like w) = true ↔ Uniform items first.typeName := by
  simp only [List.all_eq_true, Bool.or_eq_true, Uniform, ← hlike]
  refine forall₂_congr fun w _ => ?_
  cases w.isNull <;> simp

/-- An array of one kind is so by the kind of any of its values. -/
theorem uniform_and_native_iff (hv : v ∈ items) (hvalue : v.isNull = false) (hfirst : first ∈ items)
    (hother : first.isNull = false) :
    Uniform items first.typeName ∧ first.typeName ∈ nativeTypes ↔
      Uniform items v.typeName ∧ v.typeName ∈ nativeTypes := by
  constructor
  · rintro ⟨h, hnative⟩
    rw [h v hv hvalue]
    exact ⟨h, hnative⟩
  · rintro ⟨h, hnative⟩
    rw [h first hfirst hother]
    exact ⟨h, hnative⟩

/-- What the first value makes of an array that has the value `v`. -/
theorem arrayParameter_cases (hfind : items.find? (!·.isNull) = some first) (hv : v ∈ items)
    (hvalue : v.isNull = false) :
    ((Uniform items first.typeName ∧ first.typeName ∈ nativeTypes) ∧
      (arrayParameter items).itemType? = some v.parameter) ∨
    (¬ (Uniform items first.typeName ∧ first.typeName ∈ nativeTypes) ∧ arrayParameter items = .jsonb) := by
  simp only [arrayParameter, hfind]
  cases htype : first.arrayType? with
  | none => exact .inr ⟨fun h => arrayType?_none htype h.2, rfl⟩
  | some found =>
    obtain ⟨type, like⟩ := found
    obtain ⟨hnative, hlike⟩ := arrayType?_native htype
    have hall : (items.all fun w => w.isNull || like w) = true ↔ Uniform items first.typeName :=
      all_like_iff fun w => (hlike w).1
    dsimp only
    split
    · next h =>
      have huniform := hall.mp h
      exact .inl ⟨⟨huniform, hnative⟩, (hlike v).2 ((hlike v).1.mpr (huniform v hv hvalue))⟩
    · next h => exact .inr ⟨fun hboth => h (hall.mpr hboth.1), rfl⟩

/-- An array with a value in it binds as a native array of its elements when these are all of one kind, NULLs aside,
and of one of the six kinds whose arrays bind natively. Every other one binds as JSON: those of two kinds, and those
of one kind that is not among the six, such as small integers. -/
theorem array_native_iff (hv : v ∈ items) (hvalue : v.isNull = false) :
    ((array items).parameter.itemType? = some v.parameter ↔
      Uniform items v.typeName ∧ v.typeName ∈ nativeTypes) ∧
    ((array items).parameter = .jsonb ↔ ¬ (Uniform items v.typeName ∧ v.typeName ∈ nativeTypes)) := by
  obtain ⟨first, hfind⟩ : ∃ first, items.find? (!·.isNull) = some first := by
    rw [← Option.isSome_iff_exists, List.find?_isSome]
    exact ⟨v, hv, by simp [hvalue]⟩
  have hother : first.isNull = false := by simpa using List.find?_some hfind
  rw [parameter, ← uniform_and_native_iff hv hvalue (List.mem_of_find?_eq_some hfind) hother]
  rcases arrayParameter_cases hfind hv hvalue with ⟨hboth, hitem⟩ | ⟨hneither, hjson⟩
  · refine ⟨iff_of_true hitem hboth, iff_of_false (fun hjson => ?_) (not_not_intro hboth)⟩
    rw [hjson] at hitem
    cases hitem
  · rw [hjson]
    exact ⟨iff_of_false nofun hneither, iff_of_true rfl hneither⟩

/-- Small integers bind as JSON, though they are all of one kind. -/
theorem array_native_iff_smallInts :
    Uniform [.null, .smallInt 1, .smallInt 2] "SMALLINT" ∧
      (array [.null, .smallInt 1, .smallInt 2]).parameter = .jsonb := by
  have hsmall : Uniform [.null, .smallInt 1, .smallInt 2] "SMALLINT" := by
    simp [Uniform, isNull, typeName]
  have hone : smallInt 1 ∈ [null, smallInt 1, smallInt 2] := by simp
  exact ⟨hsmall, (array_native_iff hone rfl).2.mpr fun hboth => by simp [typeName, nativeTypes] at hboth⟩

end Value

end SqlAdapter
