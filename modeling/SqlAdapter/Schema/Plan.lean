/-
Plans: the steps that bring a table of the database in line with its schema,
and the statements that carry them out.

A plan is data first. `Plan.create`, `Plan.addAttribute`, `Plan.removeAttribute`
and `Plan.drop` choose the steps; `Plan.statements` words them, tables and
columns first and indexes last.
-/
import SqlAdapter.Schema.Column
import SqlAdapter.Schema.Table

namespace SqlAdapter

inductive PlanKind where
  | create
  | alter
  | drop
  deriving DecidableEq

namespace PlanKind

/-- The kinds and their names. -/
def names : List (String × PlanKind) := [("Create", .create), ("Alter", .alter), ("Drop", .drop)]

/-- The name of a kind. -/
def name (kind : PlanKind) : String := ((names.find? (·.2 == kind)).map (·.1)).getD ""

end PlanKind

/-- One step of a plan. -/
inductive Operation where
  | addColumn (column : Column)
  | dropColumn (name : String)
  | primaryKey (columns : List String)
  | foreignKey (column : String) (key : ForeignKey)
  | createIndex (name column : String)
  deriving DecidableEq

/-- The steps for one table, whose name is already cut to length. -/
structure Plan where
  table : String
  kind : PlanKind
  operations : List Operation
  diagnostics : List Diagnostic
  deriving DecidableEq

namespace Operation

/-- A reference to a column of another table, as SQL. -/
def foreignKeySql (column : String) (key : ForeignKey) : String :=
  "FOREIGN KEY (" ++ Identifier.quote column ++ ") REFERENCES " ++
    Identifier.quote (Identifier.truncate key.table) ++ " (" ++ Identifier.quote key.column ++
    ") ON DELETE " ++ key.onDelete

/-- What a step adds to the definition of a new table. -/
def definition? : Operation → Option String
  | .addColumn column => some column.sql
  | .primaryKey columns => some ("PRIMARY KEY (" ++ Identifier.quoteAll columns ++ ")")
  | .foreignKey column key => some (foreignKeySql column key)
  | .dropColumn _ | .createIndex _ _ => none

/-- What a step changes on a table that exists. -/
def alteration? : Operation → Option String
  | .addColumn column => some ("ADD COLUMN " ++ column.sql)
  | .dropColumn name => some ("DROP COLUMN " ++ Identifier.quote name)
  | .primaryKey columns => some ("ADD PRIMARY KEY (" ++ Identifier.quoteAll columns ++ ")")
  | .foreignKey column key => some ("ADD " ++ foreignKeySql column key)
  | .createIndex _ _ => none

/-- The statement of a step that makes an index on a quoted table. -/
def indexSql? (table : String) : Operation → Option String
  | .createIndex name column =>
    some ("CREATE INDEX " ++ Identifier.quote name ++ " ON " ++ table ++ " (" ++ Identifier.quote column ++ ")")
  | _ => none

def isAddColumn : Operation → Bool
  | .addColumn _ => true
  | _ => false

end Operation

namespace Plan

/-- A plan without steps. -/
def empty (table : String) (kind : PlanKind) : Plan := ⟨Identifier.truncate table, kind, [], []⟩

/-- The statements of a plan in the order in which they are to run. -/
def statements (p : Plan) : List String :=
  let table := Identifier.quote p.table
  let main := match p.kind with
    | .drop => ["DROP TABLE IF EXISTS " ++ table ++ " CASCADE"]
    | .create =>
      ["CREATE TABLE " ++ table ++ " (" ++ ", ".intercalate (p.operations.filterMap Operation.definition?) ++ ")"]
    | .alter =>
      (p.operations.filterMap Operation.alteration?).map fun change => "ALTER TABLE " ++ table ++ " " ++ change
  main ++ p.operations.filterMap (Operation.indexSql? table)

/-- The name of the index on a column. -/
def indexName (table column : String) : String :=
  Identifier.truncate (table ++ "_" ++ column ++ "_index")

/-- The steps for the column of an attribute, with its index right behind it. -/
def pushColumn (mode : MappingMode) (p : Plan) (a : Attribute) : Result Plan := do
  let column := (← Column.ofAttribute mode a).constrained a
  let index :=
    if column.index then [Operation.createIndex (indexName p.table column.name) column.name] else []
  return { p with
    operations := p.operations ++ .addColumn { column with diagnostic := none } :: index
    diagnostics := p.diagnostics ++ column.diagnostic.toList }

/-- The step for the foreign key of an attribute, if it has one. -/
def foreignKeyOf (a : Attribute) : List Operation :=
  match a.foreignKey with
  | some key => [.foreignKey a.name key]
  | none => []

/-- The steps for the columns of a new table, up to the first attribute that cannot have one. -/
def pushColumns (mode : MappingMode) (table : String) (p : Plan) : List Attribute → Result Plan
  | [] => .ok p
  | a :: rest =>
    if a.isVirtual then
      if a.primaryKey then .error (.keyWithoutColumn a.name table) else pushColumns mode table p rest
    else do pushColumns mode table (← pushColumn mode p a) rest

/-- The plan that makes a table: its columns, its primary key, its foreign keys. -/
def create (mode : MappingMode) (t : Table) : Result Plan := do
  Identifier.check t.name
  let p ← pushColumns mode t.name (empty t.name .create) t.attributes
  if !p.operations.any Operation.isAddColumn then .error (.noColumns t.name)
  else
    let keys := (t.columns.filter (·.primaryKey)).map (·.name)
    let key := if keys = [] then [] else [Operation.primaryKey keys]
    return { p with operations := p.operations ++ key ++ t.columns.flatMap foreignKeyOf }

/-- The plan that adds the column of an attribute. -/
def addAttribute (mode : MappingMode) (table : String) (a : Attribute) : Result Plan := do
  Identifier.check table
  if a.isVirtual then .error (.collectionColumn a.name)
  else
    let p ← pushColumn mode (empty table .alter) a
    return { p with operations := p.operations ++ foreignKeyOf a }

/-- The plan that drops the column of an attribute. -/
def removeAttribute (table name : String) : Result Plan := do
  Identifier.check table
  Identifier.check name
  return { empty table .alter with operations := [.dropColumn name] }

/-- The plan that drops a table. -/
def drop (table : String) : Result Plan := do
  Identifier.check table
  return empty table .drop

end Plan

end SqlAdapter
