/-
Plans as they are made.

The steps for columns are pushed one attribute after the other, those of attributes without a column
passed over. `create_ok_iff` and `addAttribute_ok_iff` say all of it: when there is a plan for a new
table or a new attribute, and that it is `whole` or `addition` for the columns of the attributes.
-/
import SqlAdapter.Proofs.Schema.Columns
import SqlAdapter.Schema.Plan

namespace SqlAdapter

/-- The columns of the primary key. -/
def Table.keyColumns (t : Table) : List String := (t.columns.filter (·.primaryKey)).map (·.name)

namespace Plan

variable {mode : MappingMode} {p q : Plan} {t : Table} {a : Attribute} {c : Column} {columns : List Column}
  {attributes : List Attribute} {table : String}

/-! ## The steps for columns -/

/-- The steps for one column. -/
def columnSteps (table : String) (c : Column) : List Operation :=
  .addColumn { c with diagnostic := none } ::
    if c.index then [.createIndex (indexName table c.name) c.name] else []

theorem mem_columnSteps {step : Operation} : step ∈ columnSteps table c ↔
    step = .addColumn { c with diagnostic := none } ∨
      c.index = true ∧ step = .createIndex (indexName table c.name) c.name := by
  by_cases hindex : c.index <;> simp [columnSteps, hindex]

/-- The plan with the steps for one more column. -/
def withColumn (p : Plan) (c : Column) : Plan :=
  { p with operations := p.operations ++ columnSteps p.table c, diagnostics := p.diagnostics ++ c.diagnostic.toList }

/-- The plan with the steps for more columns. -/
def withColumns (p : Plan) (columns : List Column) : Plan := { p with
  operations := p.operations ++ columns.flatMap (columnSteps p.table)
  diagnostics := p.diagnostics ++ columns.flatMap (·.diagnostic.toList) }

theorem withColumns_nil (p : Plan) : p.withColumns [] = p := by simp [withColumns]

theorem withColumns_cons (p : Plan) (c : Column) (columns : List Column) :
    p.withColumns (c :: columns) = (p.withColumn c).withColumns columns := by
  simp [withColumns, withColumn]

theorem pushColumn_eq (mode : MappingMode) (p : Plan) (a : Attribute) :
    pushColumn mode p a = (Column.compiled mode a).map p.withColumn := by
  unfold pushColumn Column.compiled
  cases Column.ofAttribute mode a <;> rfl

theorem pushColumn_ok_iff : pushColumn mode p a = .ok q ↔ ∃ c, Column.compiled mode a = .ok c ∧ q = p.withColumn c := by
  rw [pushColumn_eq, Result.map_ok_iff]
  exact exists_congr fun c => and_congr_right fun _ => eq_comm

/-- The columns of all attributes that have one are pushed, in order. -/
theorem pushColumns_ok_iff : pushColumns mode table p attributes = .ok q ↔
    (∀ a ∈ attributes, a.isVirtual = true → a.primaryKey = false) ∧
    ∃ columns, List.Forall₂ (fun a c => Column.compiled mode a = .ok c) (attributes.filter (!·.isVirtual)) columns ∧
      q = p.withColumns columns := by
  -- The plan grows along the attributes, so the induction is for any plan to begin with.
  induction attributes generalizing p with
  | nil =>
    rw [pushColumns, List.filter_nil]
    constructor
    · intro h
      cases h
      exact ⟨fun _ ha => (nomatch ha), [], .nil, (withColumns_nil _).symm⟩
    · rintro ⟨-, columns, hcolumns, rfl⟩
      cases hcolumns
      rw [withColumns_nil]
  | cons a rest ih =>
    rw [pushColumns, List.forall_mem_cons]
    by_cases hvirtual : a.isVirtual = true
    · rw [if_pos hvirtual, List.filter_cons_of_neg (by simp [hvirtual])]
      by_cases hkey : a.primaryKey = true
      · simp [hvirtual, hkey]
      · simp [hvirtual, hkey, ih]
    · rw [if_neg hvirtual, List.filter_cons_of_pos (by simpa using hvirtual), Result.bind_ok_iff]
      simp only [pushColumn_ok_iff, ih, List.forall₂_cons_left_iff]
      constructor
      · rintro ⟨_, ⟨c, hc, rfl⟩, hkeys, columns, hcolumns, rfl⟩
        exact ⟨⟨fun h => absurd h hvirtual, hkeys⟩, c :: columns, ⟨c, columns, hc, hcolumns, rfl⟩,
          (withColumns_cons p c columns).symm⟩
      · rintro ⟨⟨-, hkeys⟩, _, ⟨c, columns, hc, hcolumns, rfl⟩, rfl⟩
        exact ⟨p.withColumn c, ⟨c, hc, rfl⟩, hkeys, columns, hcolumns, withColumns_cons p c columns⟩

/-! ## The steps for keys -/

theorem mem_foreignKeyOf {step : Operation} : step ∈ foreignKeyOf a ↔
    ∃ key, a.foreignKey = some key ∧ step = .foreignKey a.name key := by
  unfold foreignKeyOf
  cases a.foreignKey <;> simp

/-- The step for the primary key of a table, if it has one. -/
def keySteps (t : Table) : List Operation := if t.keyColumns = [] then [] else [.primaryKey t.keyColumns]

theorem mem_keySteps {step : Operation} : step ∈ keySteps t ↔ t.keyColumns ≠ [] ∧ step = .primaryKey t.keyColumns := by
  by_cases hnone : t.keyColumns = [] <;> simp [keySteps, hnone]

/-! ## The whole plan -/

/-- The plan for a table with these columns. -/
def whole (t : Table) (columns : List Column) : Plan where
  table := Identifier.truncate t.name
  kind := .create
  operations := columns.flatMap (columnSteps (Identifier.truncate t.name)) ++ keySteps t ++
    t.columns.flatMap foreignKeyOf
  diagnostics := columns.flatMap (·.diagnostic.toList)

/-- The steps add a column where there is one. -/
theorem any_isAddColumn (h : List.Forall₂ (fun a c => Column.compiled mode a = .ok c) t.columns columns) :
    ((empty t.name .create).withColumns columns).operations.any Operation.isAddColumn = !t.columns.isEmpty := by
  cases hattributes : t.columns with
  | nil =>
    rw [hattributes] at h
    cases h
    rfl
  | cons a rest =>
    rw [hattributes] at h
    cases h
    rfl

theorem create_ok_iff : create mode t = .ok p ↔ Identifier.check t.name = .ok () ∧
    (∀ a ∈ t.attributes, a.isVirtual = true → a.primaryKey = false) ∧ t.columns ≠ [] ∧
    ∃ columns, List.Forall₂ (fun a c => Column.compiled mode a = .ok c) t.columns columns ∧ p = whole t columns := by
  simp only [create, Result.bind_ok_iff, pushColumns_ok_iff]
  constructor
  · rintro ⟨_, hcheck, _, ⟨hkeys, columns, hcolumns, rfl⟩, h⟩
    rw [any_isAddColumn hcolumns] at h
    split at h
    · cases h
    · next hsome =>
      exact ⟨hcheck, hkeys, by simpa using hsome, columns, hcolumns, (Result.pure_ok_iff.mp h).symm⟩
  · rintro ⟨hcheck, hkeys, hsome, columns, hcolumns, rfl⟩
    refine ⟨(), hcheck, _, ⟨hkeys, columns, hcolumns, rfl⟩, ?_⟩
    rw [any_isAddColumn hcolumns, if_neg (by simpa using hsome)]
    rfl

/-! ## New attributes -/

/-- The plan for an attribute of a table that exists. -/
def addition (table : String) (a : Attribute) (c : Column) : Plan where
  table := Identifier.truncate table
  kind := .alter
  operations := columnSteps (Identifier.truncate table) c ++ foreignKeyOf a
  diagnostics := c.diagnostic.toList

theorem addAttribute_ok_iff : addAttribute mode table a = .ok p ↔ Identifier.check table = .ok () ∧
    a.isVirtual = false ∧ ∃ c, Column.compiled mode a = .ok c ∧ p = addition table a c := by
  rw [addAttribute, Result.bind_ok_iff]
  by_cases hvirtual : a.isVirtual = true
  · simp [hvirtual]
  · simp only [if_neg hvirtual, Result.bind_ok_iff, pushColumn_ok_iff]
    constructor
    · rintro ⟨_, hcheck, _, ⟨c, hc, rfl⟩, h⟩
      exact ⟨hcheck, by simpa using hvirtual, c, hc, (Result.pure_ok_iff.mp h).symm⟩
    · rintro ⟨hcheck, -, c, hc, rfl⟩
      exact ⟨(), hcheck, _, ⟨c, hc, rfl⟩, rfl⟩

end Plan

end SqlAdapter
