/-
The plan for a new table.

A plan is the table as it is declared (`Creates`): its steps and its statements hold the columns,
the keys and the indexes of the attributes that have columns, in order. `create_fails_iff` says when
there is no plan.
-/
import SqlAdapter.Proofs.Schema.Plans

namespace SqlAdapter

/-- The own columns that a step is about. -/
def Operation.columns : Operation → List String
  | .addColumn c => [c.name]
  | .dropColumn name => [name]
  | .primaryKey columns => columns
  | .foreignKey column _ => [column]
  | .createIndex _ column => [column]

namespace Plan

variable {mode : MappingMode} {p q : Plan} {t : Table} {columns : List Column} {attributes : List Attribute}

/-! ## Tables without a plan -/

/-- There is no plan where the name is refused, an attribute without a column is to be in the key, an attribute has a
column that cannot be, or none has a column. -/
theorem create_fails_iff : Result.Fails (create mode t) ↔ Result.Fails (Identifier.check t.name) ∨
    (∃ a ∈ t.attributes, a.isVirtual = true ∧ a.primaryKey = true) ∨
    (∃ a ∈ t.columns, Result.Fails (Column.ofAttribute mode a)) ∨ t.columns = [] := by
  have hmapM : Result.Fails (t.columns.mapM (Column.compiled mode)) ↔
      ∃ a ∈ t.columns, Result.Fails (Column.ofAttribute mode a) := by
    simp only [Result.fails_mapM_iff, Column.fails_compiled_iff]
  rw [← hmapM, Result.fails_iff]
  constructor
  · intro hnone
    by_contra hsome
    simp only [not_or, not_exists, not_and, Bool.not_eq_true] at hsome
    obtain ⟨hcheck, hkeys, hcolumns, hcolumn⟩ := hsome
    obtain ⟨_, hcheck⟩ := (Result.ok_or_fails _).resolve_right hcheck
    obtain ⟨columns, hcolumns⟩ := (Result.ok_or_fails _).resolve_right hcolumns
    exact hnone _ (create_ok_iff.mpr ⟨hcheck, hkeys, hcolumn, columns, Result.mapM_ok hcolumns, rfl⟩)
  · intro h p hp
    obtain ⟨hcheck, hkeys, hcolumn, columns, hcolumns, -⟩ := create_ok_iff.mp hp
    rcases h with h | ⟨a, ha, hvirtual, hkey⟩ | h | h
    · exact Result.not_fails_ok () (hcheck ▸ h)
    · exact Bool.false_ne_true ((hkeys a ha hvirtual).symm.trans hkey)
    · exact Result.not_fails_ok columns (Result.mapM_of_forall₂ hcolumns ▸ h)
    · exact hcolumn h

/-! ## The statements -/

/-- The clauses for the primary key of a table, if it has one. -/
def keyClauses (t : Table) : List String :=
  if t.keyColumns = [] then [] else ["PRIMARY KEY (" ++ Identifier.quoteAll t.keyColumns ++ ")"]

/-- The clauses for the foreign key of an attribute, if it has one. -/
def foreignKeyClauses (a : Attribute) : List String := a.foreignKey.toList.map (Operation.foreignKeySql a.name)

/-- The statement for the index on a column. -/
def indexStatement (table : String) (c : Column) : String :=
  "CREATE INDEX " ++ Identifier.quote (indexName table c.name) ++ " ON " ++ Identifier.quote table ++ " (" ++
    Identifier.quote c.name ++ ")"

theorem definitions_columns (table : String) (columns : List Column) :
    (columns.flatMap (columnSteps table)).filterMap Operation.definition? = columns.map Column.sql := by
  induction columns with
  | nil => rfl
  | cons c columns ih =>
    rw [List.flatMap_cons, List.filterMap_append, ih]
    by_cases hindex : c.index <;> simp [columnSteps, hindex, Operation.definition?, Column.sql]

theorem definitions_keys (t : Table) : (keySteps t).filterMap Operation.definition? = keyClauses t := by
  unfold keySteps keyClauses
  split <;> rfl

theorem definitions_foreignKeys (attributes : List Attribute) :
    (attributes.flatMap foreignKeyOf).filterMap Operation.definition? = attributes.flatMap foreignKeyClauses := by
  induction attributes with
  | nil => rfl
  | cons a attributes ih =>
    rw [List.flatMap_cons, List.filterMap_append, ih, List.flatMap_cons, foreignKeyOf, foreignKeyClauses]
    cases a.foreignKey <;> rfl

theorem indexes_columns (table : String) (columns : List Column) :
    (columns.flatMap (columnSteps table)).filterMap (Operation.indexSql? (Identifier.quote table)) =
      (columns.filter (·.index)).map (indexStatement table) := by
  induction columns with
  | nil => rfl
  | cons c columns ih =>
    rw [List.flatMap_cons, List.filterMap_append, ih, columnSteps]
    by_cases hindex : c.index = true
    · rw [if_pos hindex, List.filter_cons_of_pos hindex]
      rfl
    · rw [if_neg hindex, List.filter_cons_of_neg hindex]
      rfl

theorem indexes_keys (quoted : String) (t : Table) : (keySteps t).filterMap (Operation.indexSql? quoted) = [] := by
  unfold keySteps
  split <;> rfl

theorem indexes_foreignKeys (quoted : String) (attributes : List Attribute) :
    (attributes.flatMap foreignKeyOf).filterMap (Operation.indexSql? quoted) = [] := by
  induction attributes with
  | nil => rfl
  | cons a attributes ih =>
    rw [List.flatMap_cons, List.filterMap_append, ih, foreignKeyOf]
    cases a.foreignKey <;> rfl

theorem whole_statements (t : Table) (columns : List Column) : (whole t columns).statements =
    ("CREATE TABLE " ++ Identifier.quote (Identifier.truncate t.name) ++ " (" ++
      ", ".intercalate (columns.map Column.sql ++ keyClauses t ++ t.columns.flatMap foreignKeyClauses) ++ ")") ::
      (columns.filter (·.index)).map (indexStatement (Identifier.truncate t.name)) := by
  simp only [statements, whole, List.filterMap_append, definitions_columns, definitions_keys, definitions_foreignKeys,
    indexes_columns, indexes_keys, indexes_foreignKeys, List.append_nil, List.singleton_append]

/-! ## What the plan holds -/

theorem names_eq_of_declares (h : List.Forall₂ (Column.Declares mode) attributes columns) :
    columns.map (·.name) = attributes.map (·.name) := by
  induction h with
  | nil => rfl
  | cons hdeclares _ ih => rw [List.map_cons, List.map_cons, ih, hdeclares.name]

/-- The steps are about columns of attributes alone. -/
theorem whole_own (h : List.Forall₂ (Column.Declares mode) t.columns columns) :
    ∀ step ∈ (whole t columns).operations, ∀ name ∈ step.columns, name ∈ t.columns.map (·.name) := by
  intro step hstep name hname
  simp only [whole, List.mem_append, List.mem_flatMap, mem_columnSteps, mem_keySteps, mem_foreignKeyOf] at hstep
  rcases hstep with (⟨c, hc, hstep⟩ | ⟨-, rfl⟩) | ⟨a, ha, key, -, rfl⟩
  · have hown : name = c.name := by
      rcases hstep with rfl | ⟨-, rfl⟩ <;> exact List.mem_singleton.mp hname
    rw [← names_eq_of_declares h, hown]
    exact List.mem_map_of_mem hc
  · exact (List.filter_sublist.map _).subset hname
  · rw [List.mem_singleton.mp hname]
    exact List.mem_map_of_mem ha

/-- The plan makes the table: with the columns, each as its attribute declares it and with its index right behind it,
then the key of all attributes that belong to it and the foreign keys. One statement makes the table and one each
index. -/
structure Creates (mode : MappingMode) (t : Table) (columns : List Column) (p : Plan) : Prop where
  declared : List.Forall₂ (Column.Declares mode) t.columns columns
  table : p.table = Identifier.truncate t.name
  kind : p.kind = .create
  operations : p.operations = columns.flatMap (columnSteps p.table) ++ keySteps t ++ t.columns.flatMap foreignKeyOf
  diagnostics : p.diagnostics = columns.flatMap (·.diagnostic.toList)
  /-- The key has all attributes that are declared to be in it. -/
  keys : t.keyColumns = t.primaryKeyColumns
  /-- No step is about an attribute without a column. -/
  own : ∀ step ∈ p.operations, ∀ name ∈ step.columns, name ∈ t.columns.map (·.name)
  statements : p.statements =
    ("CREATE TABLE " ++ Identifier.quote p.table ++ " (" ++
      ", ".intercalate (columns.map Column.sql ++ keyClauses t ++ t.columns.flatMap foreignKeyClauses) ++ ")") ::
      (columns.filter (·.index)).map (indexStatement p.table)

theorem keyColumns_eq (h : ∀ a ∈ t.attributes, a.isVirtual = true → a.primaryKey = false) :
    t.keyColumns = t.primaryKeyColumns := by
  rw [Table.keyColumns, Table.primaryKeyColumns, Table.columns, List.filter_filter]
  refine congrArg (List.map Attribute.name) (List.filter_congr fun a ha => ?_)
  by_cases hvirtual : a.isVirtual = true
  · simp [h a ha hvirtual]
  · simp [hvirtual]

theorem create_creates (h : create mode t = .ok p) : ∃ columns, Creates mode t columns p := by
  obtain ⟨-, hkeys, -, columns, hcolumns, rfl⟩ := create_ok_iff.mp h
  have hdeclared := hcolumns.imp fun _ _ => Column.compiled_iff.mp
  exact ⟨columns, hdeclared, rfl, rfl, rfl, rfl, keyColumns_eq hkeys, whole_own hdeclared, whole_statements t columns⟩

/-- Attributes without a column change nothing of the plan. -/
theorem create_congr {u : Table} (hname : u.name = t.name) (hattributes : u.columns = t.columns)
    (h : create mode t = .ok p) (hq : create mode u = .ok q) : q = p := by
  obtain ⟨-, -, -, columns, hcolumns, rfl⟩ := create_ok_iff.mp h
  obtain ⟨-, -, -, columns', hcolumns', rfl⟩ := create_ok_iff.mp hq
  rw [hattributes] at hcolumns'
  rw [Column.compiled_unique.forall₂ hcolumns' hcolumns, whole, whole, keySteps, keySteps, Table.keyColumns,
    Table.keyColumns, hname, hattributes]

/-- A table is made as it is declared, whatever attributes without a column are declared with it. It is not made where
its name is refused, an attribute without a column is to be in its key, an attribute has a column that cannot be, or
none has a column, and in no other case. -/
theorem create_exact (mode : MappingMode) (t : Table) :
    (∀ p, create mode t = .ok p → (∃ columns, Creates mode t columns p) ∧
      ∀ u q, u.name = t.name → u.columns = t.columns → create mode u = .ok q → q = p) ∧
    (Result.Fails (create mode t) ↔ Result.Fails (Identifier.check t.name) ∨
      (∃ a ∈ t.attributes, a.isVirtual = true ∧ a.primaryKey = true) ∨
      (∃ a ∈ t.columns, Result.Fails (Column.ofAttribute mode a)) ∨ t.columns = []) :=
  ⟨fun _ h => ⟨create_creates h, fun _ _ hname hattributes hq => create_congr hname hattributes h hq⟩, create_fails_iff⟩

/-- Orders of a shop, with lines elsewhere, a number that is counted and a tag of an unknown type. -/
def orders : Table := .make "orders"
  [{ (Attribute.plain "id" .bigInteger).asPrimaryKey with autoIncrement := true, default := some (.int 7) },
    .collection "lines" "line" (some "order"),
    { (Attribute.plain "shop" .integer).asPrimaryKey with
      index := true
      foreignKey := some ⟨"shops", "id", "CASCADE"⟩ },
    { Attribute.plain "token" .uuid with unique := true, index := true },
    { Attribute.plain "state" (.enum ["new"]) with default := some (.text "new"), nullable := false },
    .plain "tag" (.unknown "label")]

/-- The statements that make the table of orders. -/
def ordersStatements : List String :=
  ["CREATE TABLE \"orders\" (\"id\" BIGSERIAL NOT NULL, \"shop\" INTEGER NOT NULL, " ++
      "\"token\" UUID UNIQUE DEFAULT gen_random_uuid(), " ++
      "\"state\" TEXT NOT NULL DEFAULT 'new' CHECK (\"state\" IN ('new')), \"tag\" TEXT, " ++
      "PRIMARY KEY (\"id\", \"shop\"), FOREIGN KEY (\"shop\") REFERENCES \"shops\" (\"id\") ON DELETE CASCADE)",
    "CREATE INDEX \"orders_shop_index\" ON \"orders\" (\"shop\")",
    "CREATE INDEX \"orders_token_index\" ON \"orders\" (\"token\")"]

/-- Orders are made in best effort mode; in strict mode the unknown type keeps them from it. -/
theorem create_exact_orders : (∃ p columns, create .bestEffort orders = .ok p ∧
      Creates .bestEffort orders columns p ∧ p.statements = ordersStatements) ∧
    Result.Fails (create .strict orders) := by
  have hmade : (create .bestEffort orders).map statements = .ok ordersStatements := by decide +kernel
  obtain ⟨p, hp, hstatements⟩ := Result.map_ok_iff.mp hmade
  obtain ⟨⟨columns, hcreates⟩, -⟩ := (create_exact .bestEffort orders).1 p hp
  have htag : .plain "tag" (.unknown "label") ∈ orders.columns := by decide +kernel
  have hunmapped : Result.Fails (Column.ofAttribute .strict (.plain "tag" (.unknown "label"))) :=
    ⟨.unmappedType "label" "tag", by decide +kernel⟩
  exact ⟨⟨p, columns, hp, hcreates, hstatements⟩,
    (create_exact .strict orders).2.mpr (.inr (.inr (.inl ⟨_, htag, hunmapped⟩)))⟩

end Plan

end SqlAdapter
