/-
Records: rows with the types that the schema declares, and their associations.

`Schema.records` casts the rows of a statement. The columns of selected joins
are taken out of each row and read as lists of child rows; what is left is cast
by the attributes of the table. Of several rows with the same primary key the
first stays, since laterals repeat rows; rows without a key all stay.
-/
import SqlAdapter.Value.Cast
import SqlAdapter.Criteria.Basic
import SqlAdapter.Schema.Table

namespace SqlAdapter

/-- A row with types, and the rows of its associations by name. -/
structure Record where
  fields : Row
  associations : List (String × List Row)

namespace Record

/-- A row as the fields of a JSON object. -/
def rowJson (row : Row) : List (String × Json) := row.map fun (column, value) => (column, value.toJson)

/-- The record as one JSON object; an association hides a field of its name. -/
def toJson (r : Record) : Json :=
  .object (r.associations.foldl
    (fun fields (name, rows) => Json.insert fields name (.array (rows.map fun row => .object (rowJson row))))
    (rowJson r.fields))

end Record

/-- The list with only the first item of each key; items without a key all stay. -/
def distinctBy {α : Type} (key : α → Option String) (seen : List String) : List α → List α
  | [] => []
  | item :: items =>
    match key item with
    | none => item :: distinctBy key seen items
    | some k =>
      if seen.contains k then distinctBy key seen items
      else item :: distinctBy key (k :: seen) items

namespace Table

/-- The primary key of a table, the default one without a table. -/
def keyOf (table : Option Table) : String := (table.map Table.primaryKey).getD defaultPrimaryKey

/-- A row with each column cast by its attribute, if there is one. -/
def castRow (table : Option Table) (row : Row) : Row :=
  row.map fun (column, value) =>
    match table.bind (·.find? column) with
    | some attr => (column, attr.type.cast value)
    | none => (column, value)

/-- The text by which a row of the table is told apart. -/
def identityOf (table : Option Table) (row : Row) : Option String :=
  (row.get? (keyOf table)).bind Value.identityKey?

/-- The rows without those that repeat a primary key. -/
def distinctRows (table : Option Table) (rows : List Row) : List Row :=
  distinctBy (identityOf table) [] rows

/-- The items of an association column; none for NULL. -/
def associationItems : Value → Result (List Json)
  | .null | .json .null => .ok []
  | .json (.array items) => .ok items
  | .string text =>
    match Json.read? text with
    | none => .error .document
    | some (.array items) => .ok items
    | some .null => .ok []
    | some other => .error (.associationShape other)
  | other => .error (.associationType other.typeName)

/-- The rows that the items of an association stand for, nulls left out. -/
def itemRows : List Json → Result (List Row)
  | [] => .ok []
  | .null :: items => itemRows items
  | .object fields :: items => do
    let rest ← itemRows items
    return (fields.map fun (column, value) => (column, Value.ofJson value)) :: rest
  | other :: _ => .error (.elementShape other)

/-- The rows of an association column. -/
def associationRows (child : Option Table) (column : Value) : Result (List Row) := do
  let rows ← itemRows (← associationItems column)
  return distinctRows child (rows.map (castRow child))

end Table

namespace Schema

/-- Sets the rows of an association: in place where it is present, at the end where it is not. -/
def setAssociation (associations : List (String × List Row)) (name : String) (rows : List Row) :
    List (String × List Row) :=
  if associations.any (·.1 == name) then
    associations.map fun (a, r) => if a == name then (a, rows) else (a, r)
  else associations ++ [(name, rows)]

/-- Takes the columns of joins out of a row. Column names arrive cut to length. -/
def takeAssociations (s : Schema) (row : Row) (associations : List (String × List Row)) :
    List (Join Criteria) → Result Record
  | [] => .ok ⟨row, associations⟩
  | join :: joins => do
    let column := Identifier.truncate join.name
    let rows ← Table.associationRows (s.get? join.child) ((row.get? column).getD .null)
    takeAssociations s (row.erase column) (setAssociation associations join.name rows) joins

/-- A row of a table as a record. -/
def record (s : Schema) (table : String) (joins : List (Join Criteria)) (row : Row) : Result Record := do
  let r ← s.takeAssociations row [] (joins.filter (·.select))
  return { r with fields := Table.castRow (s.get? table) r.fields }

/-- The rows of a table as records. -/
def records (s : Schema) (table : String) (rows : List Row) (joins : List (Join Criteria)) :
    Result (List Record) := do
  let records ← rows.mapM (s.record table joins)
  return distinctBy (fun r => Table.identityOf (s.get? table) r.fields) [] records

end Schema

end SqlAdapter
