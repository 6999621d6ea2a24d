/-
Native arrays on their way back.

An array binds as a native one when its elements are of one kind, NULLs aside,
and the column then holds the same elements (`Value.held`). The reader of an
array reads one element after the other, and no reading has a place for NULL
(`Value.Carried.read_null`). So an array comes back exactly when it has elements
and NULL is not among them (`Value.native_returns_iff`), and one NULL makes the
whole row fail. The driver writes the names of array types in another way than
the reader, which under such a name reads nothing but NULL.
-/
import SqlAdapter.Connection.Extraction
import SqlAdapter.Value.Parameter
import SqlAdapter.Proofs.Result

namespace SqlAdapter

/-- The type of the elements of a native array. -/
def Parameter.element? : Parameter → Option String
  | .int4Array => some "INT4"
  | .int8Array => some "INT8"
  | .textArray => some "TEXT"
  | .boolArray => some "BOOL"
  | .float8Array => some "FLOAT8"
  | .uuidArray => some "UUID"
  | _ => none

/-- A row fails as a whole when one of its cells does. -/
theorem Row.ofCells_fails_iff {columns : List WireColumn} {cells : List Value} {row : Row} :
    Result.Fails (Row.ofCells columns cells row) ↔
      ∃ place ∈ columns.zip cells, Result.Fails (place.1.extract place.2) := by
  induction columns generalizing cells row with
  | nil =>
    rw [Row.ofCells]
    · exact iff_of_false (Result.not_fails_ok row) (by simp)
    · intro c columns cell cells hc
      cases hc
  | cons c columns ih =>
    cases cells with
    | nil =>
      rw [Row.ofCells]
      · exact iff_of_false (Result.not_fails_ok row) (by simp)
      · intro c columns cell cells _ hcells
        cases hcells
    | cons cell cells =>
      rw [Row.ofCells, List.zip_cons_cons, List.exists_mem_cons_iff]
      exact Result.fails_bind_or_iff fun value => ih

/-- A row of one column holds what is extracted from its cell. -/
theorem Row.ofCells_one_iff {c : WireColumn} {cell value : Value} :
    Row.ofCells [c] [cell] [] = .ok [(c.name, value)] ↔ c.extract cell = .ok value := by
  have hone : Row.ofCells [c] [cell] [] = (c.extract cell).map fun value => [(c.name, value)] := by
    cases h : c.extract cell <;> simp only [Row.ofCells, h] <;> rfl
  rw [hone, Result.map_ok_iff]
  simp

namespace Value

theorem isNull_iff {v : Value} : v.isNull = true ↔ v = .null := by
  cases v <;> simp [isNull]

/-- What a column holds after an array was bound natively: its elements as they are, or NULL if there are no others. -/
def held (items : List Value) : Value := if items.all isNull then .null else .array items

/-- How the elements of a native array are read: each as it is, and NULL not at all. -/
structure Carried (element : String) (read : Value → Option Value) (items : List Value) : Prop where
  catalog (name : String) : WireColumn.reading ⟨name, "_" ++ element⟩ = ("array", WireColumn.array? read)
  driver (name : String) : WireColumn.reading ⟨name, element ++ "[]"⟩ = (element ++ "[]", fun _ => none)
  read_null : read .null = none
  read_item (v : Value) (hv : v ∈ items) : v.isNull = true ∨ read v = some v

/-- Each kind of elements with an array type has one reading, which keeps values of the kind. -/
theorem carried_of_like {first : Value} {type : Parameter} {like : Value → Bool} {element : String} {items : List Value}
    (hfirst : first.arrayType? = some (type, like)) (helement : type.element? = some element)
    (hlike : ∀ v ∈ items, v.isNull = true ∨ like v = true) : ∃ read, Carried element read items := by
  cases first with
  | int | bigInt | string | bool | double | uuid =>
    cases hfirst
    cases helement
    refine ⟨_, fun _ => rfl, fun _ => rfl, rfl, fun v hv => (hlike v hv).imp_right fun h => ?_⟩
    cases v <;> first | rfl | cases h
  | _ => cases hfirst

/-- An array that binds natively has no other elements than NULL, or they are all read alike. -/
theorem native_carried {items : List Value} {element : String}
    (h : (Value.array items).parameter.element? = some element) :
    (∀ v ∈ items, v.isNull = true) ∨ (∃ v ∈ items, v.isNull = false) ∧ ∃ read, Carried element read items := by
  rw [parameter, arrayParameter] at h
  split at h
  · next hnone =>
    exact .inl fun v hv => by simpa using List.find?_eq_none.mp hnone v hv
  · next first hfirst =>
    have hmem := List.mem_of_find?_eq_some hfirst
    have hnull := List.find?_some hfirst
    split at h
    · next type like htype =>
      split at h
      · next hall =>
        refine .inr ⟨⟨first, hmem, by simpa using hnull⟩, carried_of_like htype h fun v hv => ?_⟩
        simpa using List.all_eq_true.mp hall v hv
      · cases h
    · cases h

section Reading

variable {items : List Value} {element name : String} {read : Value → Option Value}

/-- One NULL, wherever it stands, and there is no array. -/
theorem Carried.mapM_read (h : Carried element read items) :
    items.mapM read = if items.any isNull then none else some items := by
  obtain ⟨-, -, hnull, hitems⟩ := h
  induction items with
  | nil => rfl
  | cons v items ih =>
    have hrest := ih fun w hw => hitems w (.tail _ hw)
    rcases hitems v (.head _) with hv | hv
    · rw [List.mapM_cons, isNull_iff.mp hv, hnull, List.any_cons]
      rfl
    · have hsome : v.isNull = false := by
        rw [Bool.eq_false_iff]
        intro hv'
        rw [isNull_iff.mp hv', hnull] at hv
        cases hv
      rw [List.mapM_cons, hv, hrest, List.any_cons, hsome, Bool.false_or]
      split <;> rfl

theorem Carried.extract_catalog (h : Carried element read items) :
    WireColumn.extract ⟨name, "_" ++ element⟩ (.array items) =
      if items.any isNull then .error (.extraction "array" name) else .ok (.array items) := by
  rw [WireColumn.extract, if_neg (by simp [isNull]), h.catalog]
  simp only [WireColumn.array?, h.mapM_read]
  cases items.any isNull <;> rfl

theorem Carried.extract_driver (h : Carried element read items) :
    WireColumn.extract ⟨name, element ++ "[]"⟩ (.array items) = .error (.extraction (element ++ "[]") name) := by
  rw [WireColumn.extract, if_neg (by simp [isNull]), h.driver]

/-- What a column of an array type gives for an array that was bound natively. -/
theorem extract_held (h : (Value.array items).parameter.element? = some element) (name : String) :
    WireColumn.extract ⟨name, "_" ++ element⟩ (held items) =
      (if items.all isNull then .ok .null
      else if items.any isNull then .error (.extraction "array" name) else .ok (.array items)) ∧
    WireColumn.extract ⟨name, element ++ "[]"⟩ (held items) =
      (if items.all isNull then .ok .null else .error (.extraction (element ++ "[]") name)) := by
  rw [held]
  rcases native_carried h with hall | ⟨⟨v, hv, hvalue⟩, read, hcarried⟩
  · have hnull : items.all isNull = true := List.all_eq_true.mpr hall
    simp only [hnull, if_true]
    exact ⟨rfl, rfl⟩
  · have hsome : items.all isNull = false := List.all_eq_false.mpr ⟨v, hv, by simp [hvalue]⟩
    simp only [hsome, Bool.false_eq_true, if_false]
    exact ⟨hcarried.extract_catalog, hcarried.extract_driver⟩

end Reading

/-- An array that was bound natively comes back from a column of its type exactly when it has elements and none of them is
NULL. An array of nothing but NULL comes back as NULL, and one with NULL among its elements fails, with all of the row
that it stands in. That is so under the name of the type in the catalog; under the driver's own name no array comes
back. -/
theorem native_returns_iff {items : List Value} {element : String}
    (hnative : (Value.array items).parameter.element? = some element) (name : String) :
    (Row.ofCells [⟨name, "_" ++ element⟩] [held items] [] = .ok [(name, .array items)] ↔
      items ≠ [] ∧ .null ∉ items) ∧
    (Row.ofCells [⟨name, "_" ++ element⟩] [held items] [] = .ok [(name, .null)] ↔ ∀ v ∈ items, v = .null) ∧
    (∀ columns cells row, (⟨name, "_" ++ element⟩, held items) ∈ columns.zip cells →
      .null ∈ items → (∃ v ∈ items, v ≠ .null) → Result.Fails (Row.ofCells columns cells row)) ∧
    Row.ofCells [⟨name, element ++ "[]"⟩] [held items] [] ≠ .ok [(name, .array items)] := by
  obtain ⟨hcatalog, hdriver⟩ := extract_held hnative name
  have hall : items.all isNull = true ↔ ∀ v ∈ items, v = .null := by simp only [List.all_eq_true, isNull_iff]
  have hany : items.any isNull = true ↔ .null ∈ items := by simp [List.any_eq_true, isNull_iff]
  rw [Row.ofCells_one_iff, Row.ofCells_one_iff, Row.ofCells_one_iff.ne, hcatalog, hdriver]
  by_cases hnulls : ∀ v ∈ items, v = .null
  · have hnone : ¬ (items ≠ [] ∧ .null ∉ items) := by
      rintro ⟨hne, hnot⟩
      obtain ⟨v, hv⟩ := List.exists_mem_of_ne_nil items hne
      exact hnot (hnulls v hv ▸ hv)
    rw [if_pos (hall.mpr hnulls), if_pos (hall.mpr hnulls)]
    refine ⟨iff_of_false nofun hnone, iff_of_true rfl hnulls, ?_, nofun⟩
    rintro columns cells row - - ⟨v, hv, hvalue⟩
    exact absurd (hnulls v hv) hvalue
  · have hne : items ≠ [] := by
      rintro rfl
      exact hnulls nofun
    rw [if_neg (mt hall.mp hnulls)] at hcatalog
    rw [if_neg (mt hall.mp hnulls), if_neg (mt hall.mp hnulls)]
    by_cases hnull : .null ∈ items
    · rw [if_pos (hany.mpr hnull)] at hcatalog ⊢
      refine ⟨iff_of_false nofun fun h => h.2 hnull, iff_of_false nofun hnulls, ?_, nofun⟩
      intro columns cells row hplace _ _
      exact Row.ofCells_fails_iff.mpr ⟨_, hplace, _, hcatalog⟩
    · rw [if_neg (mt hany.mp hnull)]
      exact ⟨iff_of_true rfl ⟨hne, hnull⟩, iff_of_false nofun hnulls, fun _ _ _ _ h => absurd h hnull, nofun⟩

/-- The integer is lost with the NULL beside it. -/
theorem native_returns_iff_oneNull :
    Row.ofCells [⟨"numbers", "_INT4"⟩] [held [.int 1, .null]] [] ≠ .ok [("numbers", .array [.int 1, .null])] := by
  have hnative : (Value.array [.int 1, .null]).parameter.element? = some "INT4" := rfl
  obtain ⟨hreturns, -⟩ := native_returns_iff hnative "numbers"
  exact fun h => (hreturns.mp h).2 (.tail _ (.head _))

end Value

end SqlAdapter
