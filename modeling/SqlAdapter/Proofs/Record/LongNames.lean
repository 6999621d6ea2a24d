/-
Rows of tables whose columns have long names.

The database cuts the name of a column and sends it so. A reader that knows an attribute casts the
column with its cut name by it, and one that knows the primary key tells rows apart by the column of
that (`Table.readRows`). The caster looks for names as they are declared, so it is the reader that
knows the attributes whose names fit: `castRow_returned` says so of the columns and `firsts_returned`
of the key. `readRows_same_iff` says for which tables that is as good as knowing all.
-/
import SqlAdapter.Proofs.Record.Firsts
import SqlAdapter.Proofs.Sql.Truncation

namespace SqlAdapter

open Identifier (truncate)

/-- A name that the database keeps whole. -/
def Identifier.fits (name : String) : Bool := name.utf8ByteSize ≤ maxBytes

theorem Identifier.fits_iff {name : String} : fits name = true ↔ truncate name = name :=
  decide_eq_true_iff.trans truncate_eq_self_iff.symm

namespace Table

/-! ## Columns as they are sent -/

/-- The columns of the row are those of attributes, as the database names them. -/
def Returns (t : Table) (row : Row) : Prop := ∀ cell ∈ row, ∃ a ∈ t.attributes, cell.1 = truncate a.name

/-- The attribute whose column the database names so. -/
def behind? (t : Table) (column : String) : Option Attribute := t.attributes.find? (truncate ·.name == column)

/-- The value of a column as its attribute casts it, for a reader that knows the attribute by its name. -/
def readCell (t : Table) (knows : String → Bool) (cell : String × Value) : String × Value :=
  match t.behind? cell.1 with
  | some a => if knows a.name then (cell.1, a.type.cast cell.2) else cell
  | none => cell

/-- The rows for a reader that knows some attributes: with their columns cast, and the first of each primary key if
that is known. -/
def readRows (t : Table) (knows : String → Bool) (rows : List Row) : List Row :=
  let casts := rows.map (List.map (t.readCell knows))
  if knows t.primaryKey then firsts (keyIn (truncate t.primaryKey)) casts else casts

variable {t : Table} {a : Attribute} {row : Row} {rows : List Row}

theorem behind?_truncate (hnames : (t.attributes.map fun a => truncate a.name).Nodup) (ha : a ∈ t.attributes) :
    t.behind? (truncate a.name) = some a :=
  (find?_label_iff hnames).mpr ⟨ha, rfl⟩

/-- The column of an attribute has the attribute's name when that is not cut, and else the name of none. -/
theorem find?_truncate (hnames : (t.attributes.map fun a => truncate a.name).Nodup) (ha : a ∈ t.attributes) :
    t.find? (truncate a.name) = if Identifier.fits a.name then some a else none := by
  have hdeclared : (t.attributes.map (·.name)).Nodup := by
    refine .of_map truncate ?_
    rwa [List.map_map]
  split
  · next hfits => exact (find?_label_iff hdeclared).mpr ⟨ha, (Identifier.fits_iff.mp hfits).symm⟩
  · next hlong =>
    refine Option.eq_none_iff_forall_not_mem.mpr fun b hb => hlong ?_
    obtain ⟨hb, hname⟩ := (find?_label_iff hdeclared).mp hb
    have hcut : truncate b.name = truncate a.name := by
      rw [hname, Identifier.truncate_truncate]
    have hsame : b = a := List.inj_on_of_nodup_map hnames hb ha hcut
    exact Identifier.fits_iff.mpr (hsame ▸ hname).symm

/-- The caster goes by the names that are not cut. -/
theorem castRow_returned (hnames : (t.attributes.map fun a => truncate a.name).Nodup) (h : t.Returns row) :
    castRow (some t) row = List.map (t.readCell Identifier.fits) row := by
  rw [castRow_eq]
  refine List.map_congr_left fun cell hcell => ?_
  obtain ⟨a, ha, hname⟩ := h cell hcell
  simp only [castIn, readCell, Option.bind_some, hname, behind?_truncate hnames ha, find?_truncate hnames ha]
  split
  · rfl
  · exact Prod.ext hname.symm rfl

theorem readCell_name (t : Table) (knows : String → Bool) (cell : String × Value) :
    (t.readCell knows cell).1 = cell.1 := by
  rw [readCell]
  split
  · split <;> rfl
  · rfl

/-- No row has an identity in a column that does not come back under its name. -/
theorem keyIn_long {column : String} (hlong : Identifier.fits column = false) (h : t.Returns row) :
    keyIn column (List.map (t.readCell Identifier.fits) row) = none := by
  have hnone : Row.get? (List.map (t.readCell Identifier.fits) row) column = none := by
    rw [Row.get?, Option.map_eq_none_iff, List.find?_eq_none]
    intro cell hcell hname
    obtain ⟨sent, hsent, rfl⟩ := List.mem_map.mp hcell
    obtain ⟨a, -, ha⟩ := h sent hsent
    rw [readCell_name, ha, beq_iff_eq] at hname
    have hfits : Identifier.fits column = true := by
      rw [Identifier.fits_iff, ← hname, Identifier.truncate_truncate]
    rw [hlong] at hfits
    cases hfits
  rw [keyIn, hnone]
  rfl

/-- And it tells rows apart by the primary key if the name of that is not cut. -/
theorem firsts_returned (hnames : (t.attributes.map fun a => truncate a.name).Nodup)
    (h : ∀ row ∈ rows, t.Returns row) :
    firsts (identityOf (some t)) (rows.map (castRow (some t))) = t.readRows Identifier.fits rows := by
  have hcasts : rows.map (castRow (some t)) = rows.map (List.map (t.readCell Identifier.fits)) :=
    List.map_congr_left fun row hrow => castRow_returned hnames (h row hrow)
  have hidentity : identityOf (some t) = keyIn t.primaryKey := rfl
  rw [hcasts, hidentity, readRows]
  split
  · next hfits => rw [Identifier.fits_iff.mp hfits]
  · next hlong =>
    refine firsts_keyless fun cast hcast => ?_
    obtain ⟨row, hrow, rfl⟩ := List.mem_map.mp hcast
    exact keyIn_long (Bool.eq_false_iff.mpr hlong) (h row hrow)

/-! ## What it takes to know all names -/

/-- The primary key is the name of an attribute or short. -/
theorem primaryKey_cases (t : Table) : (∃ a ∈ t.attributes, a.name = t.primaryKey) ∨
    Identifier.fits t.primaryKey = true := by
  by_cases hkeys : t.primaryKeyColumns = []
  · rw [primaryKey_default hkeys]
    exact .inr (by decide +kernel)
  · exact .inl (has_iff.mp (has_primaryKey hkeys))

theorem readCell_truncate (hnames : (t.attributes.map fun a => truncate a.name).Nodup) (ha : a ∈ t.attributes)
    (knows : String → Bool) (value : Value) : t.readCell knows (truncate a.name, value) =
      if knows a.name then (truncate a.name, a.type.cast value) else (truncate a.name, value) := by
  simp only [readCell, behind?_truncate hnames ha]

theorem returns_cell (ha : a ∈ t.attributes) (value : Value) : t.Returns [(truncate a.name, value)] :=
  List.forall_mem_singleton.mpr ⟨a, ha, rfl⟩

theorem readRows_singleton (t : Table) (knows : String → Bool) (row : Row) :
    t.readRows knows [row] = [List.map (t.readCell knows) row] := by
  simp only [readRows, List.map_singleton, firsts_singleton, ite_self]

/-- Going by the names that are not cut is enough for a table exactly when every other name is that of a column with
nothing to cast, and none is that of the primary key. -/
theorem readRows_same_iff (hnames : (t.attributes.map fun a => truncate a.name).Nodup) :
    (∀ rows, (∀ row ∈ rows, t.Returns row) → t.readRows Identifier.fits rows = t.readRows (fun _ => true) rows) ↔
      ∀ a ∈ t.attributes, Identifier.fits a.name = true ∨ a.name ≠ t.primaryKey ∧ ∀ v, a.type.cast v = v := by
  constructor
  · intro h a ha
    refine or_iff_not_imp_left.mpr fun hlong => ⟨fun hkey => ?_, fun v => ?_⟩
    · -- The same key twice: both rows stay where the key is not known, and one where it is.
      let row : Row := [(truncate a.name, .bool true)]
      have hsame := h [row, row] (by simpa [row] using returns_cell ha (.bool true))
      have hcast : keyIn (truncate t.primaryKey) [(truncate a.name, a.type.cast (.bool true))] ≠ none := by
        simp [keyIn, Row.get?, hkey, cast_bool_identity]
      rw [hkey] at hlong
      simp only [readRows, List.map_cons, List.map_nil, row, readCell_truncate hnames ha, if_true] at hsame
      rw [if_neg hlong, firsts_pair hcast rfl] at hsame
      exact absurd (congrArg List.length hsame) (by simp)
    · have hsame := h [[(truncate a.name, v)]] (List.forall_mem_singleton.mpr (returns_cell ha v))
      simpa [readRows_singleton, readCell_truncate hnames ha, hlong, eq_comm] using hsame
  · intro h rows hrows
    have hcells : ∀ row ∈ rows, List.map (t.readCell Identifier.fits) row = List.map (t.readCell fun _ => true) row := by
      refine fun row hrow => List.map_congr_left fun cell hcell => ?_
      obtain ⟨column, value⟩ := cell
      obtain ⟨a, ha, rfl⟩ := hrows row hrow _ hcell
      rw [readCell_truncate hnames ha, readCell_truncate hnames ha]
      rcases h a ha with hfits | ⟨-, hcast⟩
      · rw [hfits]
      · simp only [hcast, ite_self]
    have hkey : Identifier.fits t.primaryKey = true := by
      rcases t.primaryKey_cases with ⟨a, ha, hname⟩ | hfits
      · exact hname ▸ (h a ha).resolve_right fun hother => hother.1 hname
      · exact hfits
    rw [readRows, readRows, List.map_congr_left hcells, hkey]

end Table

namespace Schema

variable {s : Schema} {table : String} {t : Table} {rows : List Row} {joins : List (Join Criteria)}

/-- What a row has beside the columns of selected joins. -/
def ownCells (joins : List (Join Criteria)) (row : Row) : Row :=
  List.filter (fun entry => entry.1 ∉ (joins.filter (·.select)).map Join.column) row

theorem records_fields {records : List Record} (h : s.records table rows joins = .ok records) :
    records.map (·.fields) = firsts (Table.identityOf (s.get? table))
      ((rows.map (ownCells joins)).map (Table.castRow (s.get? table))) := by
  obtain ⟨casts, hcasts, rfl⟩ := records_ok_iff.mp h
  have hfields : casts.map (·.fields) = (rows.map (ownCells joins)).map (Table.castRow (s.get? table)) := by
    rw [List.map_map]
    exact (Result.forall₂_map_iff.mp (hcasts.imp fun _ _ hr => (record_fields hr).symm)).symm
  rw [← hfields, ← firsts_map]
  rfl

/-- Where the names of a table's attributes are apart after they are cut, the rows of a statement and of an association
are read as by a reader that knows the attributes by the names that fit; a statement's unless some row has no list of
objects in the column of a selected association. This is what a reader makes of rows that knows all attributes exactly
when each attribute whose name is cut has nothing to cast and is not the primary key. -/
theorem long_columns_iff (ht : s.get? table = some t)
    (hnames : (t.attributes.map fun a => truncate a.name).Nodup) :
    (∀ rows joins, (∀ row ∈ rows, t.Returns (ownCells joins row)) →
      (∃ row ∈ rows, ∃ j ∈ joins, j.select = true ∧ Unlisted row j) ∨
        ∃ records, s.records table rows joins = .ok records ∧
          records.map (·.fields) = t.readRows Identifier.fits (rows.map (ownCells joins))) ∧
    (∀ column items, Table.Listed column items →
      (∀ fields ∈ items.filterMap Json.fields?, t.Returns (Table.elementRow fields)) →
        Table.associationRows (s.get? table) column =
          .ok (t.readRows Identifier.fits ((items.filterMap Json.fields?).map Table.elementRow))) ∧
    ((∀ rows, (∀ row ∈ rows, t.Returns row) →
        t.readRows Identifier.fits rows = t.readRows (fun _ => true) rows) ↔
      ∀ a ∈ t.attributes, Identifier.fits a.name = true ∨ a.name ≠ t.primaryKey ∧ ∀ v, a.type.cast v = v) := by
  refine ⟨fun rows joins hrows => ?_, fun column items hlisted hitems => ?_, Table.readRows_same_iff hnames⟩
  · rcases Result.ok_or_fails (s.records table rows joins) with ⟨records, hrecords⟩ | hfails
    · refine .inr ⟨records, hrecords, ?_⟩
      rw [records_fields hrecords, ht]
      exact Table.firsts_returned hnames (List.forall_mem_map.mpr hrows)
    · exact .inl (records_fails_iff.mp hfails)
  · rw [ht, Table.associationRows_ok_iff]
    refine ⟨items, hlisted, ?_⟩
    rw [← Table.firsts_returned hnames (List.forall_mem_map.mpr hitems), List.map_map]
    rfl

/-- A column with a name longer than the database keeps. -/
def longName : String := String.ofList (List.replicate 70 'x')

/-- What the database keeps of it. -/
def cutName : String := String.ofList (List.replicate 63 'x')

def longKey : Attribute := (Attribute.plain longName .integer).asPrimaryKey

/-- A table whose primary key has that name. -/
def tallies : Table := .make "tallies" [longKey]

/-- A row of it as the database sends it. -/
def sent : Row := [(cutName, .string "7")]

/-- The row that is sent twice comes back as two records with the text of the number, not as one with the number. -/
theorem long_columns_iff_tallies :
    (∃ records, (Schema.mk [tallies]).records "tallies" [sent, sent] [] = .ok records ∧
      records.map (·.fields) = [sent, sent]) ∧
    tallies.readRows (fun _ => true) [sent, sent] = [[(cutName, .bigInt 7)]] ∧
    ¬ ∀ rows, (∀ row ∈ rows, tallies.Returns row) →
      tallies.readRows Identifier.fits rows = tallies.readRows (fun _ => true) rows := by
  have ht : (Schema.mk [tallies]).get? "tallies" = some tallies := by
    simp [get?, tallies, Table.make]
  have hcut : truncate longKey.name = cutName := by
    decide +kernel
  have hlong : Identifier.fits longKey.name = false := by
    decide +kernel
  have hnames : (tallies.attributes.map fun a => truncate a.name).Nodup := List.nodup_singleton _
  have hmem : longKey ∈ tallies.attributes := List.mem_singleton_self longKey
  have hreturns : tallies.Returns sent := by
    rw [sent, ← hcut]
    exact Table.returns_cell hmem (.string "7")
  have hcell : ∀ knows, tallies.readCell knows (cutName, .string "7") =
      if knows longKey.name then (cutName, .bigInt 7) else (cutName, .string "7") := by
    intro knows
    rw [← hcut, Table.readCell_truncate hnames hmem]
    rfl
  have hkey : Table.keyIn (truncate tallies.primaryKey) [(cutName, .bigInt 7)] ≠ none := by
    have hname : truncate tallies.primaryKey = cutName := hcut
    simp [Table.keyIn, Row.get?, hname, Value.identityKey?, Value.isNull]
  obtain ⟨hrecords, -, hsame⟩ := long_columns_iff ht hnames
  refine ⟨?_, ?_, fun h => ?_⟩
  · obtain ⟨_, _, _, hj, _⟩ | hread := hrecords [sent, sent] [] (by simpa [ownCells] using hreturns)
    · cases hj
    · have hprimary : Identifier.fits tallies.primaryKey = false := hlong
      simpa [Table.readRows, hprimary, ownCells, sent, hcell, hlong] using hread
  · simp only [Table.readRows, List.map_cons, List.map_nil, sent, hcell, if_true]
    exact firsts_pair hkey rfl
  · rcases hsame.mp h longKey hmem with hfits | ⟨hother, -⟩
    · cases hlong.symm.trans hfits
    · exact hother rfl

end Schema

end SqlAdapter
