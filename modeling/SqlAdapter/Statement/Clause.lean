/-
The clauses that statements share: filter, order and page.

A `Compiler` is what they are made against: a schema that decides which fields
there are, and the way filters are written. Fields of tables outside the
schema pass unchecked.
-/
import SqlAdapter.Statement.Condition

namespace SqlAdapter

/-- A column and a direction to sort by. -/
structure OrderKey where
  column : ColumnRef
  direction : SortDirection

namespace OrderKey

def sql (k : OrderKey) : String := k.column.sql ++ k.direction.suffix

/-- Keys one after another. -/
def listSql (keys : List OrderKey) : String := ", ".intercalate (keys.map sql)

/-- The clause that orders by keys, by the first column where there are none. -/
def clause : List OrderKey → String
  | [] => "ORDER BY 1"
  | keys => "ORDER BY " ++ listSql keys

end OrderKey

/-- How many rows to skip and how many to return after them. -/
structure Page where
  limit : Int64
  skip : Int64

namespace Page

/-- The page for a limit and a skip, by default all rows; neither may be negative. -/
def make (limit skip : Option Int64) : Result Page :=
  let limit := limit.getD Int64.maxValue
  let skip := skip.getD 0
  if limit < 0 ∨ skip < 0 then .error (.negativePage limit.toInt skip.toInt) else .ok ⟨limit, skip⟩

/-- The clause that cuts out the page; both numbers are always bound. -/
def template (p : Page) : Template :=
  [.text "LIMIT ", .value (.bigInt p.limit), .text " OFFSET ", .value (.bigInt p.skip)]

end Page

/-- What criteria are compiled against. -/
structure Compiler where
  schema : Schema
  writeFilter : FilterWriter

namespace Compiler

/-- The compiler for a schema, that writes filters the standard way. -/
def ofSchema (schema : Schema) : Compiler := ⟨schema, .standard⟩

/-- The filter of a predicate on a table, none without a predicate. -/
def filter (c : Compiler) (table : String) : Option Predicate → Result (Option Template)
  | none => .ok none
  | some p => do
    let fragment ← c.writeFilter c.schema table p
    return some (← fragment.template)

/-- The order by fields of a table, its columns written behind `qualifier`. -/
def order (c : Compiler) (table qualifier : String) (sort : List SortKey) : Result (List OrderKey) :=
  sort.mapM fun key => do
    Identifier.check key.field
    match c.schema.get? table with
    | some t =>
      if t.has key.field then return ⟨⟨qualifier, key.field⟩, key.direction⟩
      else .error (.unknownSortAttribute table key.field)
    | none => return ⟨⟨qualifier, key.field⟩, key.direction⟩

/-- The primary key of a table, the default one where the schema does not know the table. -/
def keyOf (c : Compiler) (table : String) : String :=
  ((c.schema.get? table).map Table.primaryKey).getD defaultPrimaryKey

end Compiler

end SqlAdapter
