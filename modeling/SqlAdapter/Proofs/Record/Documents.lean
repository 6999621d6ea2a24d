/-
Documents in records.

The value of a JSON column reaches a record in two ways: as a column of a row,
which the driver delivers as a document, or within an element of an association,
which is a part of one and becomes a value before the type of the column is
known. The first way keeps every document. The second reads a string once more
and makes doubles of the integers past signed 64 bits, and keeps all others
(`Schema.document_same_iff`).
-/
import SqlAdapter.Proofs.Record.Distinct
import SqlAdapter.Proofs.Record.Output
import SqlAdapter.Proofs.Value.Conversion

namespace SqlAdapter

/-- A type of columns that hold documents. -/
def AttributeType.HoldsJson (type : AttributeType) : Prop := type = .json ∨ type = .jsonb

theorem AttributeType.HoldsJson.cast {type : AttributeType} (h : type.HoldsJson) {value : Value}
    (hvalue : value ≠ .null) : type.cast value = value.asJson := by
  rcases h with rfl | rfl <;> cases value <;> first | rfl | exact absurd rfl hvalue

theorem Value.ofJson_ne_null {v : Json} (h : v ≠ .null) : ofJson v ≠ .null := by
  cases v with
  | null => exact absurd rfl h
  | number n =>
    rw [ofJson, ofNumber]
    split <;> simp
  | bool | string | array | object => simp [ofJson]

namespace Table

variable {t : Table} {a : Attribute} {column : String}

theorem castRow_document {row : Row} {value : Value} (ha : t.find? column = some a) (htype : a.type.HoldsJson)
    (hrow : row.get? column = some value) (hvalue : value ≠ .null) :
    (castRow (some t) row).get? column = some value.asJson := by
  rw [castRow_get?, hrow, Option.map_some, castIn, Option.bind_some, ha, Option.map_some, Option.getD_some,
    htype.cast hvalue]

/-- The columns of an element before they are cast. -/
def elementRow (fields : List (String × Json)) : Row := fields.map fun (column, value) => (column, Value.ofJson value)

theorem elementRow_get? (fields : List (String × Json)) (column : String) :
    (elementRow fields).get? column = (Json.find? fields column).map Value.ofJson := by
  rw [Row.get?, Json.find?, elementRow, List.find?_map, Option.map_map, Option.map_map]
  rfl

theorem associationRows_element (child : Option Table) (fields : List (String × Json)) :
    associationRows child (.json (.array [.object fields])) = .ok [castRow child (elementRow fields)] := by
  have hone : ∀ row, distinctRows child [row] = [row] := by
    intro row
    rw [distinctRows, distinctBy]
    split <;> rfl
  exact congrArg Except.ok (hone _)

end Table

namespace Schema

variable {s : Schema} {table column : String} {t : Table} {a : Attribute} {v : Json}

theorem records_one (s : Schema) (table : String) (row : Row) :
    s.records table [row] [] = .ok [⟨Table.castRow (s.get? table) row, []⟩] := by
  have hone : ∀ r : Record, distinctBy (fun r => Table.identityOf (s.get? table) r.fields) [] [r] = [r] := by
    intro r
    rw [distinctBy]
    split <;> rfl
  exact congrArg Except.ok (hone _)

/-- A document in a JSON column of a row comes into the record as it is. -/
theorem record_document (ht : s.get? table = some t) (ha : t.find? column = some a) (htype : a.type.HoldsJson)
    {row : Row} (hrow : row.get? column = some (.json v)) {joins : List (Join Criteria)} {r : Record}
    (hcolumn : column ∉ (joins.filter (·.select)).map Join.column) (h : s.record table joins row = .ok r) :
    r.fields.get? column = some (.json v) := by
  have hkept := Row.get?_filter (p := fun name => name ∉ (joins.filter (·.select)).map Join.column)
    (decide_eq_true hcolumn) row
  rw [record_fields h, ht]
  exact Table.castRow_document ha htype (hkept.trans hrow) (fun hnull => nomatch hnull)

/-- A document that is not null comes into a record as it is when it is a column of a row. Within an element of
an association it does so exactly when it is no string and has no integer past signed 64 bits, those inside its
objects aside. -/
theorem document_same_iff (ht : s.get? table = some t) (ha : t.find? column = some a) (htype : a.type.HoldsJson)
    (hv : v ≠ .null) :
    (∀ row : Row, row.get? column = some (.json v) →
      (∃ r, s.records table [row] [] = .ok [r] ∧ r.fields.get? column = some (.json v)) ∧
      ∀ joins r, column ∉ (joins.filter (·.select)).map Join.column → s.record table joins row = .ok r →
        r.fields.get? column = some (.json v)) ∧
    ∀ fields, Json.find? fields column = some v →
      ∃ row, Table.associationRows (s.get? table) (.json (.array [.object fields])) = .ok [row] ∧
        (row.get? column = some (.json v) ↔ v.text? = none ∧ v.fits = true) := by
  refine ⟨fun row hrow => ⟨⟨_, records_one s table row, ?_⟩, fun joins r => record_document ht ha htype hrow⟩,
    fun fields hfields => ⟨_, Table.associationRows_element _ fields, ?_⟩⟩
  · rw [ht]
    exact Table.castRow_document ha htype hrow (fun hnull => nomatch hnull)
  · have helement : (Table.elementRow fields).get? column = some (Value.ofJson v) := by
      rw [Table.elementRow_get?, hfields, Option.map_some]
    rw [ht, Table.castRow_document ha htype helement (Value.ofJson_ne_null hv), Option.some.injEq,
      Value.asJson_ofJson_iff]

/-- Posts with a document each. -/
def filed : Table := .make "posts" [(Attribute.plain "id" .integer).asPrimaryKey, .plain "data" .jsonb]

theorem document_same_iff_digit : ∃ r row,
    (Schema.ofTables [filed]).records "posts" [[("data", .json (.string "1"))]] [] = .ok [r] ∧
      r.fields.get? "data" = some (.json (.string "1")) ∧
      Table.associationRows ((Schema.ofTables [filed]).get? "posts")
        (.json (.array [.object [("id", .ofNat 1), ("data", .string "1")]])) = .ok [row] ∧
      row.get? "data" ≠ some (.json (.string "1")) := by
  have htable : (Schema.ofTables [filed]).get? "posts" = some filed := rfl
  have hcolumn : filed.find? "data" = some (.plain "data" .jsonb) := rfl
  have hstring : Json.string "1" ≠ .null := fun h => nomatch h
  obtain ⟨hroot, helement⟩ := document_same_iff htable hcolumn (.inr rfl) hstring
  obtain ⟨⟨r, hr, hfield⟩, -⟩ := hroot [("data", .json (.string "1"))] rfl
  obtain ⟨row, hrow, hiff⟩ := helement [("id", .ofNat 1), ("data", .string "1")] rfl
  exact ⟨r, row, hr, hfield, hrow, fun hsame => nomatch (hiff.mp hsame).1⟩

end Schema

end SqlAdapter
