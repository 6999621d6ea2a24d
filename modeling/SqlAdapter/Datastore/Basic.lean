/-
Datastores: a schema together with all that can be done to the tables it
describes.

Each operation compiles its statements, sends them and casts the rows that come
back. Operations on tables change the database first and the schema afterwards,
so that the schema never describes what a failed statement did not do.
-/
import SqlAdapter.Config
import SqlAdapter.Datastore.Action
import SqlAdapter.Record
import SqlAdapter.Schema.Plan
import SqlAdapter.Statement.Compile
import SqlAdapter.Value.Display

namespace SqlAdapter

structure Datastore where
  name : String
  schema : Schema
  writeFilter : FilterWriter
  config : Config

namespace Datastore

/-- A datastore for a schema that holds together. -/
def make (name : String) (schema : Schema) (writeFilter : FilterWriter) (config : Config) :
    Result Datastore := do
  schema.validate
  return ⟨name, schema, writeFilter, config⟩

/-- The mode in which the datastore maps types. -/
def mode (d : Datastore) : MappingMode := d.config.typeMapping

/-- The compiler against a schema. -/
def compiler (d : Datastore) (schema : Schema) : Compiler := ⟨schema, d.writeFilter⟩

/-! ## Tables -/

/-- Makes a table. -/
def define (d : Datastore) (table : Table) : Action Plan := do
  let schema ← Action.schema
  Action.lift (schema.insert table).validate
  let plan ← Action.lift (Plan.create d.mode table)
  Action.executeAll plan.statements
  Action.update fun schema => .ok (schema.insert table)
  return plan

/-- Drops a table. -/
def dropTable (table : String) : Action Unit := do
  let plan ← Action.lift (Plan.drop table)
  Action.executeAll plan.statements
  Action.update fun schema => .ok (schema.erase table)

/-- The table with one more attribute, as long as it has none of the name. -/
def extended (schema : Schema) (table : String) (attr : Attribute) : Result Table := do
  let current ← schema.get table
  if current.has attr.name then .error (.attributeExists attr.name table)
  else
    let updated := current.push attr
    (schema.insert updated).validate
    return updated

/-- The schema with one more attribute on a table, unless the table has it by now. -/
def withAttribute (table : String) (attr : Attribute) (schema : Schema) : Result Schema := do
  let current ← schema.get table
  return if current.has attr.name then schema else schema.insert (current.push attr)

/-- Adds an attribute to a table. A collection has no column and needs no statement. -/
def addAttribute (d : Datastore) (table : String) (attr : Attribute) : Action Plan := do
  let schema ← Action.schema
  let updated ← Action.lift (extended schema table attr)
  let plan ← Action.lift <|
    if attr.isVirtual then .ok (Plan.empty updated.name .alter)
    else Plan.addAttribute d.mode updated.name attr
  Action.executeAll plan.statements
  Action.update (withAttribute table attr)
  return plan

/-- The attribute that is to be removed from a table, with the table's name. -/
def removable (schema : Schema) (table name : String) : Result (String × Attribute) := do
  let current ← schema.get table
  match current.find? name with
  | none => .error (.attributeMissing name table)
  | some a => if a.primaryKey then .error (.keyRemoval name table) else return (current.name, a)

/-- The schema without an attribute of a table. -/
def withoutAttribute (table name : String) (schema : Schema) : Result Schema := do
  let current ← schema.get table
  return schema.insert (current.without name)

/-- Removes an attribute from a table. -/
def removeAttribute (table name : String) : Action Unit := do
  let schema ← Action.schema
  let (tableName, attr) ← Action.lift (removable schema table name)
  let statements ← Action.lift <|
    if attr.isVirtual then .ok [] else (Plan.removeAttribute tableName name).map Plan.statements
  Action.executeAll statements
  Action.update (withoutAttribute table name)

/-! ## Rows -/

/-- The records that criteria choose, with their associations. -/
def find (d : Datastore) (table : String) (criteria : Criteria) : Action (List Record) := do
  let schema ← Action.schema
  let query ← Action.lift ((d.compiler schema).select table criteria)
  let rows ← Action.execute query
  Action.lift (schema.records table rows criteria.joins)

/-- Inserts a record and returns it as it was stored. -/
def create (d : Datastore) (table : String) (values : List (String × Value)) : Action Record := do
  let schema ← Action.schema
  let query ← Action.lift ((d.compiler schema).insert table values)
  let rows ← Action.execute query
  match ← Action.lift (schema.records table rows []) with
  | record :: _ => return record
  | [] => Action.lift (.error (.noRowInserted table))

/-- Changes the records that criteria choose and returns them as they were stored. -/
def update (d : Datastore) (table : String) (criteria : Criteria) (values : List (String × Value)) :
    Action (List Record) := do
  let schema ← Action.schema
  let query ← Action.lift ((d.compiler schema).update table criteria values)
  let rows ← Action.execute query
  Action.lift (schema.records table rows [])

/-- Deletes the records that criteria choose and returns them as they were. -/
def destroy (d : Datastore) (table : String) (criteria : Criteria) : Action (List Record) := do
  let schema ← Action.schema
  let query ← Action.lift ((d.compiler schema).delete table criteria)
  let rows ← Action.execute query
  Action.lift (schema.records table rows [])

/-- The number in the first row of a count. -/
def countOf (rows : List Row) : Result Int64 :=
  match rows.head?.bind (·.get? "count") with
  | some (.bigInt n) => .ok n
  | some (.int n) => .ok n.toInt64
  | other => .error (.countAnswer (Value.displayOption other))

/-- The number of records that criteria choose. -/
def count (d : Datastore) (table : String) (criteria : Criteria) : Action Int64 := do
  let schema ← Action.schema
  let query ← Action.lift ((d.compiler schema).count table criteria)
  let rows ← Action.execute query
  Action.lift (countOf rows)

/-- The rows of a caller's own statement. -/
def query (sql : String) (values : List Value) : Action (List Row) := do
  let query ← Action.lift (Query.raw sql values)
  Action.execute query

/-! ## Running -/

/-- An action on the datastore's schema: its result, the datastore after it, and the executor's state. -/
def perform {α σ : Type} (d : Datastore) (executor : Executor σ) (state : σ) (action : Action α) :
    Result α × Datastore × σ :=
  let (result, schema, state) := action.run executor d.schema state
  (result, { d with schema := schema }, state)

end Datastore

end SqlAdapter
