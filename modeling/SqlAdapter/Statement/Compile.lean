/-
Criteria and written values to statements: one function for each thing that can
be done to the rows of a table.
-/
import SqlAdapter.Statement.Joined

namespace SqlAdapter

/-- A value as the column of an attribute holds it: arrays without an element type as JSON text, and
anything but NULL as JSON where the column holds JSON. -/
def Attribute.encode (a : Attribute) (value : Value) : Value :=
  match a.type, value with
  | .untypedArray, .array items => .string (Value.array items).toJson.text
  | .json, .null | .jsonb, .null => .null
  | .json, value | .jsonb, value => .json value.toJson
  | _, value => value

namespace Compiler

/-- A written value as its column holds it. -/
def encode (c : Compiler) (table column : String) (value : Value) : Result Value := do
  Identifier.check column
  match c.schema.get? table with
  | none => return value
  | some t =>
    match t.find? column with
    | none => .error (.unknownAttribute column table)
    | some a => if a.isVirtual then .error (.collectionWritten table column) else return a.encode value

/-- Written values, each as its column holds it. -/
def encodeAll (c : Compiler) (table : String) (values : List (String × Value)) :
    Result (List (String × Value)) :=
  values.mapM fun (column, value) => do return (column, ← c.encode table column value)

/-- The rows that criteria choose, with their associations. -/
def selectStatement (c : Compiler) (table : String) (criteria : Criteria) : Result Statement := do
  if criteria.joins.isEmpty then
    Identifier.check table
    let table := Identifier.truncate table
    let filter ← c.filter table criteria.predicate
    let order ← c.order table table criteria.sort
    let page ← Page.make criteria.limit criteria.skip
    return .select table filter order page
  else return .joined (← c.joinedSelect table criteria)

/-- One new row. -/
def insertStatement (c : Compiler) (table : String) (values : List (String × Value)) :
    Result Statement := do
  Identifier.check table
  let table := Identifier.truncate table
  return .insert table (← c.encodeAll table values)

/-- New values for the rows that criteria choose. Order, page and joins play no part. -/
def updateStatement (c : Compiler) (table : String) (criteria : Criteria)
    (values : List (String × Value)) : Result Statement := do
  if values.isEmpty then .error .nothingToUpdate
  else
    Identifier.check table
    let table := Identifier.truncate table
    let values ← c.encodeAll table values
    return .update table values (← c.filter table criteria.predicate)

/-- The end of the rows that criteria choose. -/
def deleteStatement (c : Compiler) (table : String) (criteria : Criteria) : Result Statement := do
  Identifier.check table
  let table := Identifier.truncate table
  return .delete table (← c.filter table criteria.predicate)

/-- The number of rows that criteria choose. -/
def countStatement (c : Compiler) (table : String) (criteria : Criteria) : Result Statement := do
  Identifier.check table
  let table := Identifier.truncate table
  return .count table (← c.filter table criteria.predicate)

def select (c : Compiler) (table : String) (criteria : Criteria) : Result Query := do
  (← c.selectStatement table criteria).query

def insert (c : Compiler) (table : String) (values : List (String × Value)) : Result Query := do
  (← c.insertStatement table values).query

def update (c : Compiler) (table : String) (criteria : Criteria) (values : List (String × Value)) :
    Result Query := do
  (← c.updateStatement table criteria values).query

def delete (c : Compiler) (table : String) (criteria : Criteria) : Result Query := do
  (← c.deleteStatement table criteria).query

def count (c : Compiler) (table : String) (criteria : Criteria) : Result Query := do
  (← c.countStatement table criteria).query

end Compiler

end SqlAdapter
