/-
What plans make of a table in the catalog of the database.

A step is read by its effect on what the catalog holds of the table
(`CatalogEntry.apply`), a plan by the effect of its steps in order (`Plan.onto`). An
entry describes a table of the schema when it holds exactly what the table declares
(`CatalogEntry.Describes`). Making a table leaves such an entry, and adding and dropping
attributes keeps it one, except where the attribute belongs to the primary key: no step
of an addition adds it to the key that the table has.
-/
import SqlAdapter.Proofs.Schema.Plans
import SqlAdapter.Proofs.Schema.Validity

namespace SqlAdapter

/-! ## The catalog -/

/-- A column as the database keeps it. -/
structure StoredColumn where
  name : String
  type : ColumnType
  notNull : Bool
  unique : Bool
  default : Option String
  check : Option String
  deriving DecidableEq

def Column.stored (c : Column) : StoredColumn := ⟨c.name, c.type, c.notNull, c.unique, c.default, c.check⟩

/-- What the catalog holds of one table. -/
@[ext]
structure CatalogEntry where
  columns : List StoredColumn
  primaryKey : List String
  /-- The columns that refer to other tables, with what they refer to. -/
  foreignKeys : List (String × ForeignKey)
  /-- The names of the indexes, with their columns. -/
  indexes : List (String × String)
  deriving DecidableEq

namespace CatalogEntry

def empty : CatalogEntry := ⟨[], [], [], []⟩

/-- The entry without a column and whatever depends on it: a key that has the column goes as a whole. -/
def without (e : CatalogEntry) (name : String) : CatalogEntry where
  columns := e.columns.filter (·.name != name)
  primaryKey := if name ∈ e.primaryKey then [] else e.primaryKey
  foreignKeys := e.foreignKeys.filter (·.1 != name)
  indexes := e.indexes.filter (·.2 != name)

/-- The entry after one step of a plan. -/
def apply (e : CatalogEntry) : Operation → CatalogEntry
  | .addColumn c => { e with columns := e.columns ++ [c.stored] }
  | .dropColumn name => e.without name
  | .primaryKey columns => { e with primaryKey := columns }
  | .foreignKey column key => { e with foreignKeys := e.foreignKeys ++ [(column, key)] }
  | .createIndex name column => { e with indexes := e.indexes ++ [(name, column)] }

end CatalogEntry

/-- What the catalog holds of a table after a plan, by what it held before. -/
def Plan.onto (p : Plan) (e : CatalogEntry) : CatalogEntry := p.operations.foldl CatalogEntry.apply e

/-- The foreign keys of an attribute: one or none. -/
def Attribute.foreignKeys (a : Attribute) : List (String × ForeignKey) := a.foreignKey.toList.map (a.name, ·)

/-- The indexes on a column of a table: one or none. -/
def Column.indexes (table : String) (c : Column) : List (String × String) :=
  if c.index then [(Plan.indexName table c.name, c.name)] else []

/-- The entry that a table with these columns declares. -/
def Table.entry (t : Table) (columns : List Column) : CatalogEntry where
  columns := columns.map Column.stored
  primaryKey := t.keyColumns
  foreignKeys := t.columns.flatMap Attribute.foreignKeys
  indexes := columns.flatMap (Column.indexes (Identifier.truncate t.name))

/-- The entry holds what the table declares, and nothing else. -/
def CatalogEntry.Describes (mode : MappingMode) (e : CatalogEntry) (t : Table) : Prop :=
  ∃ columns, List.Forall₂ (fun a c => Column.compiled mode a = .ok c) t.columns columns ∧ e = t.entry columns

/-- A table is described by one entry at most. -/
theorem CatalogEntry.Describes.unique {mode : MappingMode} {t : Table} {e e' : CatalogEntry}
    (h : e.Describes mode t) (h' : e'.Describes mode t) : e = e' := by
  obtain ⟨columns, hcolumns, rfl⟩ := h
  obtain ⟨columns', hcolumns', rfl⟩ := h'
  rw [Column.compiled_unique.forall₂ hcolumns hcolumns']

/-! ## What the steps leave in the catalog -/

namespace Plan

variable {mode : MappingMode} {p q : Plan} {t : Table} {a : Attribute} {e : CatalogEntry} {table : String}

theorem columnSteps_apply (e : CatalogEntry) (table : String) (c : Column) :
    (columnSteps table c).foldl CatalogEntry.apply e = { e with
      columns := e.columns ++ [c.stored]
      indexes := e.indexes ++ c.indexes table } := by
  unfold columnSteps Column.indexes
  by_cases hindex : c.index <;> simp [hindex, CatalogEntry.apply, Column.stored]

theorem columnsSteps_apply (table : String) (columns : List Column) (e : CatalogEntry) :
    (columns.flatMap (columnSteps table)).foldl CatalogEntry.apply e = { e with
      columns := e.columns ++ columns.map Column.stored
      indexes := e.indexes ++ columns.flatMap (Column.indexes table) } := by
  induction columns generalizing e with
  | nil => simp
  | cons c columns ih =>
    rw [List.flatMap_cons, List.foldl_append, columnSteps_apply, ih]
    simp

theorem foreignKeyOf_apply (e : CatalogEntry) (a : Attribute) :
    (foreignKeyOf a).foldl CatalogEntry.apply e =
      { e with foreignKeys := e.foreignKeys ++ a.foreignKeys } := by
  unfold foreignKeyOf Attribute.foreignKeys
  cases a.foreignKey <;> simp [CatalogEntry.apply]

theorem foreignKeysOf_apply (attributes : List Attribute) (e : CatalogEntry) :
    (attributes.flatMap foreignKeyOf).foldl CatalogEntry.apply e =
      { e with foreignKeys := e.foreignKeys ++ attributes.flatMap Attribute.foreignKeys } := by
  induction attributes generalizing e with
  | nil => simp
  | cons a attributes ih =>
    rw [List.flatMap_cons, List.foldl_append, foreignKeyOf_apply, ih]
    simp

theorem keySteps_apply {e : CatalogEntry} (he : e.primaryKey = []) (t : Table) :
    (keySteps t).foldl CatalogEntry.apply e = { e with primaryKey := t.keyColumns } := by
  unfold keySteps
  by_cases hnone : t.keyColumns = []
  · simp [hnone, ← he]
  · simp [hnone, CatalogEntry.apply]

theorem create_table (h : create mode t = .ok p) : p.table = Identifier.truncate t.name := by
  obtain ⟨-, -, -, columns, -, rfl⟩ := create_ok_iff.mp h
  rfl

/-- A table that is made stands in the catalog as it is declared. -/
theorem create_describes (h : create mode t = .ok p) : (p.onto .empty).Describes mode t := by
  obtain ⟨-, -, -, columns, hcolumns, rfl⟩ := create_ok_iff.mp h
  refine ⟨columns, hcolumns, ?_⟩
  rw [onto, whole, List.foldl_append, List.foldl_append, columnsSteps_apply, keySteps_apply rfl, foreignKeysOf_apply]
  rfl

/-- An addition puts the column, the foreign key and the index behind those that are there, and leaves the key. -/
theorem addAttribute_onto (h : addAttribute mode table a = .ok q) : a.isVirtual = false ∧
    ∃ c, Column.compiled mode a = .ok c ∧ ∀ e, q.onto e = { e with
      columns := e.columns ++ [c.stored]
      foreignKeys := e.foreignKeys ++ a.foreignKeys
      indexes := e.indexes ++ c.indexes (Identifier.truncate table) } := by
  obtain ⟨-, hvirtual, c, hc, rfl⟩ := addAttribute_ok_iff.mp h
  refine ⟨hvirtual, c, hc, fun e => ?_⟩
  rw [onto, addition, List.foldl_append, columnSteps_apply, foreignKeyOf_apply]

/-- Dropping an attribute takes out of the entry what depends on its column. -/
theorem removeAttribute_onto {name : String} (h : removeAttribute table name = .ok q) (e : CatalogEntry) :
    q.onto e = e.without name := by
  obtain ⟨_, -, h⟩ := Result.bind_ok_iff.mp h
  obtain ⟨_, -, h⟩ := Result.bind_ok_iff.mp h
  cases h
  rfl

end Plan

/-! ## Tables that change -/

/-- Taking out what belongs to a name is the same before and after each thing is replaced by what it brings. -/
theorem filter_flatMap_owned {α β : Type} {f : α → List β} {label : α → String} {owner : β → String}
    (howner : ∀ x, ∀ y ∈ f x, owner y = label x) (name : String) (xs : List α) :
    (xs.flatMap f).filter (owner · != name) = (xs.filter (label · != name)).flatMap f := by
  induction xs with
  | nil => rfl
  | cons x xs ih =>
    rw [List.flatMap_cons, List.filter_append, ih]
    by_cases hname : label x = name
    · have hnone : (f x).filter (owner · != name) = [] :=
        List.filter_eq_nil_iff.mpr fun y hy => by simp [howner x y hy, hname]
      rw [hnone, List.filter_cons_of_neg (by simpa using hname), List.nil_append]
    · have hall : (f x).filter (owner · != name) = f x :=
        List.filter_eq_self.mpr fun y hy => by simpa [howner x y hy] using hname
      rw [hall, List.filter_cons_of_pos (by simpa using hname), List.flatMap_cons]

namespace Table

theorem columns_push {a : Attribute} (h : a.isVirtual = false) (t : Table) : (t.push a).columns = t.columns ++ [a] := by
  simp [columns, push, make, List.filter_append, h]

theorem compiled_push {mode : MappingMode} {t : Table} {a : Attribute} {columns : List Column} {c : Column}
    (h : a.isVirtual = false)
    (hcolumns : List.Forall₂ (fun a c => Column.compiled mode a = .ok c) t.columns columns)
    (hc : Column.compiled mode a = .ok c) :
    List.Forall₂ (fun a c => Column.compiled mode a = .ok c) (t.push a).columns (columns ++ [c]) := by
  rw [columns_push h]
  exact List.rel_append hcolumns (.cons hc .nil)

theorem columns_without (t : Table) (name : String) :
    (t.without name).columns = t.columns.filter (·.name != name) := by
  simp [columns, without, make, List.filter_filter, Bool.and_comm]

/-- What a table with one more attribute declares. -/
theorem entry_push {a : Attribute} (h : a.isVirtual = false) (t : Table) (columns : List Column) (c : Column) :
    (t.push a).entry (columns ++ [c]) = {
      columns := (t.entry columns).columns ++ [c.stored]
      primaryKey := (t.entry columns).primaryKey ++ if a.primaryKey then [a.name] else []
      foreignKeys := (t.entry columns).foreignKeys ++ a.foreignKeys
      indexes := (t.entry columns).indexes ++ c.indexes (Identifier.truncate t.name) } := by
  have hname : Identifier.truncate (t.push a).name = Identifier.truncate t.name := Identifier.truncate_truncate t.name
  unfold entry keyColumns
  rw [columns_push h, hname]
  by_cases hkey : a.primaryKey <;> simp [hkey]

/-- What a table without an attribute that is not in the key declares. -/
theorem entry_without {t : Table} {name : String} (hkey : name ∉ t.keyColumns) (columns : List Column) :
    (t.without name).entry (columns.filter (·.name != name)) = (t.entry columns).without name := by
  have hname : Identifier.truncate (t.without name).name = Identifier.truncate t.name :=
    Identifier.truncate_truncate t.name
  have hkeys : (t.without name).keyColumns = t.keyColumns := by
    unfold keyColumns
    rw [columns_without, List.filter_filter]
    refine congrArg (List.map Attribute.name) (List.filter_congr fun a ha => ?_)
    by_cases hflag : a.primaryKey
    · have hother : a.name ≠ name := by
        rintro rfl
        exact hkey (List.mem_map_of_mem (List.mem_filter.mpr ⟨ha, hflag⟩))
      simp [hflag, hother]
    · simp [hflag]
  have hforeign : ∀ a : Attribute, ∀ key ∈ a.foreignKeys, key.1 = a.name := by
    simp [Attribute.foreignKeys]
  have hindex : ∀ c : Column, ∀ index ∈ c.indexes (Identifier.truncate t.name), index.2 = c.name := by
    intro c index hindex
    unfold Column.indexes at hindex
    split at hindex
    · rw [List.mem_singleton.mp hindex]
    · cases hindex
  unfold entry CatalogEntry.without
  rw [hkeys, if_neg hkey, filter_flatMap_owned hforeign, filter_flatMap_owned hindex, columns_without, hname,
    List.filter_map]
  rfl

end Table

namespace Plan

variable {mode : MappingMode} {p q : Plan} {t : Table} {a : Attribute} {e : CatalogEntry}

/-- An attribute that can be added to a table can be declared with it. -/
theorem create_push (ht : Identifier.truncate t.name = t.name) (hp : create mode t = .ok p)
    (hq : addAttribute mode t.name a = .ok q) : ∃ whole, create mode (t.push a) = .ok whole := by
  obtain ⟨hvirtual, c, hc, -⟩ := addAttribute_onto hq
  obtain ⟨hcheck, hkeys, -, columns, hcolumns, -⟩ := create_ok_iff.mp hp
  have hname : (t.push a).name = t.name := ht
  have hpushed := Table.compiled_push hvirtual hcolumns hc
  refine ⟨_, create_ok_iff.mpr ⟨hname.symm ▸ hcheck, ?_, ?_, columns ++ [c], hpushed, rfl⟩⟩
  · exact List.forall_mem_append.mpr ⟨hkeys, by simp [hvirtual]⟩
  · simp [Table.columns_push hvirtual]

/-- Making a table, whose name is cut as those of all tables are, and adding an attribute to it leaves what making it
with the attribute leaves, up to the key: exactly where the attribute belongs to the primary key its column is missing
at the end of the key. -/
theorem grown_whole_iff (ht : Identifier.truncate t.name = t.name) (hp : create mode t = .ok p)
    (hq : addAttribute mode t.name a = .ok q) : ∃ whole, create mode (t.push a) = .ok whole ∧
      whole.onto .empty = { q.onto (p.onto .empty) with
        primaryKey := (q.onto (p.onto .empty)).primaryKey ++ if a.primaryKey then [a.name] else [] } ∧
      (q.onto (p.onto .empty) = whole.onto .empty ↔ a.primaryKey = false) := by
  obtain ⟨whole, hwhole⟩ := create_push ht hp hq
  obtain ⟨hvirtual, c, hc, honto⟩ := addAttribute_onto hq
  obtain ⟨columns, hcolumns, hmade⟩ := create_describes hp
  have hgrown : whole.onto .empty = (t.push a).entry (columns ++ [c]) :=
    (create_describes hwhole).unique ⟨columns ++ [c], Table.compiled_push hvirtual hcolumns hc, rfl⟩
  have hkey : whole.onto .empty = { q.onto (p.onto .empty) with
      primaryKey := (q.onto (p.onto .empty)).primaryKey ++ if a.primaryKey then [a.name] else [] } := by
    rw [hgrown, Table.entry_push hvirtual, honto, hmade]
  refine ⟨whole, hwhole, hkey, ?_⟩
  rw [hkey, CatalogEntry.ext_iff]
  by_cases hflag : a.primaryKey <;> simp [hflag]

/-- Titled notes, and a key that they are to have afterwards. -/
def notes : Table := .make "notes" [.plain "title" .string]

def number : Attribute := (Attribute.plain "id" .integer).asPrimaryKey

/-- Notes that get their key afterwards have none. -/
theorem grown_whole_iff_notes : ∃ p q whole, create .strict notes = .ok p ∧
    addAttribute .strict notes.name number = .ok q ∧ create .strict (notes.push number) = .ok whole ∧
    (q.onto (p.onto .empty)).primaryKey = [] ∧ (whole.onto .empty).primaryKey = ["id"] := by
  have hp : create .strict notes = .ok ⟨"notes", .create, [.addColumn (.plain "title" (.varchar 255))], []⟩ := by
    decide +kernel
  have hq : addAttribute .strict notes.name number =
      .ok ⟨"notes", .alter, [.addColumn { Column.plain "id" .integer with notNull := true }], []⟩ := by
    decide +kernel
  obtain ⟨whole, hwhole, hkey, -⟩ := grown_whole_iff rfl hp hq
  refine ⟨_, _, whole, hp, hq, hwhole, rfl, ?_⟩
  rw [hkey]
  rfl

end Plan

/-! ## Any number of changes -/

/-- Tables and what the catalog holds of them after their making and after each change of their attributes. Nothing is
done in the database for an attribute without a column, and an attribute in the key is neither added nor dropped. -/
inductive CatalogEntry.Grown (mode : MappingMode) : Table → CatalogEntry → Prop where
  | made {t : Table} {p : Plan} (h : Plan.create mode t = .ok p) : Grown mode t (p.onto .empty)
  | added {t : Table} {e : CatalogEntry} {a : Attribute} {p : Plan} (before : Grown mode t e)
    (h : Plan.addAttribute mode t.name a = .ok p) (hkey : a.primaryKey = false) : Grown mode (t.push a) (p.onto e)
  | linked {t : Table} {e : CatalogEntry} {a : Attribute} (before : Grown mode t e) (h : a.isVirtual = true) :
    Grown mode (t.push a) e
  | dropped {t : Table} {e : CatalogEntry} {name : String} {p : Plan} (before : Grown mode t e)
    (h : Plan.removeAttribute t.name name = .ok p) (hkey : name ∉ t.keyColumns) : Grown mode (t.without name) (p.onto e)

namespace CatalogEntry

variable {mode : MappingMode} {p : Plan} {t : Table} {a : Attribute} {e : CatalogEntry}

theorem Describes.added (h : e.Describes mode t) (hp : Plan.addAttribute mode t.name a = .ok p)
    (hkey : a.primaryKey = false) : (p.onto e).Describes mode (t.push a) := by
  obtain ⟨columns, hcolumns, rfl⟩ := h
  obtain ⟨hvirtual, c, hc, honto⟩ := Plan.addAttribute_onto hp
  refine ⟨columns ++ [c], Table.compiled_push hvirtual hcolumns hc, ?_⟩
  rw [honto, Table.entry_push hvirtual, hkey]
  simp

theorem Describes.linked (h : e.Describes mode t) (ha : a.isVirtual = true) : e.Describes mode (t.push a) := by
  obtain ⟨columns, hcolumns, rfl⟩ := h
  have hname : Identifier.truncate (t.push a).name = Identifier.truncate t.name := Identifier.truncate_truncate t.name
  have hsame : (t.push a).columns = t.columns := by
    simp [Table.columns, Table.push, Table.make, List.filter_append, ha]
  refine ⟨columns, hsame ▸ hcolumns, ?_⟩
  unfold Table.entry Table.keyColumns
  rw [hsame, hname]

theorem Describes.dropped {name : String} (h : e.Describes mode t) (hp : Plan.removeAttribute t.name name = .ok p)
    (hkey : name ∉ t.keyColumns) : (p.onto e).Describes mode (t.without name) := by
  obtain ⟨columns, hcolumns, rfl⟩ := h
  refine ⟨columns.filter (·.name != name), ?_, ?_⟩
  · rw [Table.columns_without]
    refine List.rel_filter (fun a c hc => ?_) hcolumns
    simp [(Column.compiled_plain hc).1]
  · rw [Plan.removeAttribute_onto hp, Table.entry_without hkey]

/-- However a table has come about, the catalog holds what it declares. -/
theorem Grown.describes (h : Grown mode t e) : e.Describes mode t := by
  induction h with
  | made h => exact Plan.create_describes h
  | added _ h hkey ih => exact ih.added h hkey
  | linked _ h ih => exact ih.linked h
  | dropped _ h hkey ih => exact ih.dropped h hkey

/-- However a table has come about, making it as it is now would leave the same. -/
theorem Grown.whole (h : Grown mode t e) (hp : Plan.create mode t = .ok p) : p.onto .empty = e :=
  (Plan.create_describes hp).unique h.describes

end CatalogEntry

end SqlAdapter
