/-
Conditions: predicates as SQL evaluates them.

`Condition.ofPredicate` checks every field against the table, where the schema
knows it, and settles what SQL would answer with unknown: equality with NULL is
a test for absence, and membership in an empty list is false.
`Condition.fragment` writes a condition with a `?` for each of its values; a
conjunction or disjunction inside another condition stands in parentheses unless
it has a single part.
-/
import SqlAdapter.Criteria.Basic
import SqlAdapter.Schema.Table
import SqlAdapter.Sql.Template

namespace SqlAdapter

/-- A column of a table, or of a subquery under its alias. -/
structure ColumnRef where
  qualifier : String
  column : String
  deriving DecidableEq

namespace ColumnRef

def sql (c : ColumnRef) : String := Identifier.qualified c.qualifier c.column

end ColumnRef

/-- A condition on the rows of a statement. -/
inductive Condition where
  | constant (holds : Bool)
  | isNull (column : ColumnRef)
  | isNotNull (column : ColumnRef)
  | compare (column : ColumnRef) (comparison : Comparison) (value : Value)
  /-- Membership in a list that is not empty. -/
  | among (column : ColumnRef) (items : List Value)
  | notAmong (column : ColumnRef) (items : List Value)
  | all (parts : List Condition)
  | any (parts : List Condition)
  | not (inner : Condition)

namespace Condition

/-- The items of a list; a single value is a list of one. -/
def listItems : Value → List Value
  | .array items => items
  | single => [single]

/-- A condition on a column. -/
def ofOperator (column : ColumnRef) (op : Operator) (value : Value) : Condition :=
  match op with
  | .isNull => .isNull column
  | .isNotNull => .isNotNull column
  | .among =>
    match listItems value with
    | [] => .constant false
    | items => .among column items
  | .notAmong =>
    match listItems value with
    | [] => .constant true
    | items => .notAmong column items
  | .compare comparison =>
    if value.isNull ∧ comparison = .eq then .isNull column
    else if value.isNull ∧ comparison = .ne then .isNotNull column
    else .compare column comparison value

/-- The column of a field, which the table must have if the schema knows the table. -/
def columnOf (schema : Schema) (table field : String) : Result ColumnRef := do
  Identifier.check field
  match schema.get? table with
  | some t => if t.has field then return ⟨table, field⟩ else .error (.unknownAttribute field table)
  | none => return ⟨table, field⟩

mutual

/-- The condition that a predicate makes on the rows of a table. -/
def ofPredicate (schema : Schema) (table : String) : Predicate → Result Condition
  | .compare field op value => do return ofOperator (← columnOf schema table field) op value
  | .all parts => do return .all (← ofParts schema table parts)
  | .any parts => do return .any (← ofParts schema table parts)
  | .not inner => do return .not (← ofPredicate schema table inner)

def ofParts (schema : Schema) (table : String) : List Predicate → Result (List Condition)
  | [] => .ok []
  | part :: parts => do
    let first ← ofPredicate schema table part
    let rest ← ofParts schema table parts
    return first :: rest

end

/-- As many marks as there are items, in parentheses. -/
def marks (items : List Value) : String := "(" ++ ", ".intercalate (items.map fun _ => "?") ++ ")"

/-- Parts joined by a word: in parentheses when there are several and something stands around them. -/
def joined (word empty : String) (outermost : Bool) (parts : List String) : String :=
  match parts with
  | [] => empty
  | [part] => part
  | parts => if outermost then word.intercalate parts else "(" ++ word.intercalate parts ++ ")"

mutual

/-- The condition with a mark for each value, as it stands alone or inside another one. -/
def text (outermost : Bool) : Condition → String
  | .constant holds => if holds then "TRUE" else "FALSE"
  | .isNull column => column.sql ++ " IS NULL"
  | .isNotNull column => column.sql ++ " IS NOT NULL"
  | .compare column comparison _ => column.sql ++ " " ++ comparison.sql ++ " ?"
  | .among column items => column.sql ++ " IN " ++ marks items
  | .notAmong column items => column.sql ++ " NOT IN " ++ marks items
  | .all parts => joined " AND " "TRUE" outermost (texts parts)
  | .any parts => joined " OR " "FALSE" outermost (texts parts)
  | .not inner => "NOT (" ++ text true inner ++ ")"

def texts : List Condition → List String
  | [] => []
  | part :: parts => text false part :: texts parts

end

mutual

/-- The values of a condition in the order of their marks. -/
def values : Condition → List Value
  | .constant _ | .isNull _ | .isNotNull _ => []
  | .compare _ _ value => [value]
  | .among _ items | .notAmong _ items => items
  | .all parts | .any parts => valuesOf parts
  | .not inner => values inner

def valuesOf : List Condition → List Value
  | [] => []
  | part :: parts => values part ++ valuesOf parts

end

/-- The condition as SQL with a mark for each of its values. -/
def fragment (c : Condition) : Fragment := ⟨c.text true, c.values⟩

end Condition

/-- How a predicate on a table is written as a filter in SQL. -/
abbrev FilterWriter := Schema → String → Predicate → Result Fragment

/-- The standard way: columns behind their table, values as marks. -/
def FilterWriter.standard : FilterWriter := fun schema table p => do
  return (← Condition.ofPredicate schema table p).fragment

end SqlAdapter
