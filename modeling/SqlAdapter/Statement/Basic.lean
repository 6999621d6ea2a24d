/-
Statements on rows as data, and how each of them is written.

A statement names tables, columns, filters, orders and pages; `Statement.template`
writes it with its values in textual order, and `Statement.query` numbers them.

A joined select has a root table and a lateral subquery for each join. The
subquery picks the child rows of one root row, or of one row of a lateral before
it, and the select list folds them into one JSON array for each root row.
-/
import SqlAdapter.Statement.Clause
import SqlAdapter.Statement.Window

namespace SqlAdapter

/-- A clause that is written only where there is something to write. -/
def Template.optional (before : String) : Option Template → Template
  | some t => .text before :: t
  | none => []

/-- A table between a parent and its children, and the columns that tie it to the children. -/
structure Junction where
  table : String
  childColumn : ColumnRef
  junctionColumn : ColumnRef

/-- A subquery for the children of one parent row. -/
structure Lateral where
  name : String
  /-- The table of the children. -/
  child : String
  junction : Option Junction
  filters : List Template
  /-- The column of the subquery that holds the key of the parent. -/
  inner : ColumnRef
  /-- The key of the parent. -/
  outer : ColumnRef
  order : List OrderKey
  page : Page

namespace Lateral

/-- The tables that the subquery reads. -/
def source (l : Lateral) : String :=
  match l.junction with
  | none => Identifier.quote l.child
  | some j =>
    Identifier.quote j.table ++ " JOIN " ++ Identifier.quote l.child ++ " ON " ++ j.childColumn.sql ++
      " = " ++ j.junctionColumn.sql

/-- All that holds of a child: the filters, each in parentheses, and the tie to its parent. -/
def conditions (l : Lateral) : List Template :=
  l.filters.map (fun f => .text "(" :: f ++ [.text ")"]) ++ [[.text (l.inner.sql ++ " = " ++ l.outer.sql)]]

def subquery (l : Lateral) : Template :=
  .text ("SELECT " ++ Identifier.quote l.child ++ ".* FROM " ++ l.source ++ " WHERE ") ::
    Template.intercalate " AND " l.conditions ++
    .text (" " ++ OrderKey.clause l.order ++ " ") :: l.page.template

def template (l : Lateral) : Template :=
  .text "LEFT JOIN LATERAL (" :: l.subquery ++ [.text (") AS " ++ Identifier.quote l.name ++ " ON TRUE")]

end Lateral

/-- A column of the result that holds the rows of a lateral. -/
structure AssociationColumn where
  /-- The name of the lateral. -/
  lateral : String
  order : List OrderKey
  window : Option Window
  /-- The name of the column. -/
  name : String

namespace AssociationColumn

/-- The rows as an array in order, without the empty row of a parent that has none. -/
def aggregate (a : AssociationColumn) : String :=
  "array_remove(array_agg(" ++ Identifier.quote a.lateral ++ ".* ORDER BY " ++ OrderKey.listSql a.order ++
    "), NULL)"

def sql (a : AssociationColumn) : String :=
  let sliced := match a.window with
    | some w => "(" ++ a.aggregate ++ ")" ++ w.sql
    | none => a.aggregate
  "array_to_json(" ++ sliced ++ ") AS " ++ Identifier.quote a.name

end AssociationColumn

/-- The columns of the root table in a joined select. -/
inductive RootColumns where
  | all
  | some (names : List String)

/-- A select with associations. -/
structure JoinedSelect where
  root : String
  columns : RootColumns
  laterals : List Lateral
  associations : List AssociationColumn
  filter : Option Template
  /-- The key of the root, by which rows are grouped. -/
  key : ColumnRef
  order : List OrderKey
  page : Page

namespace JoinedSelect

/-- The root's part of the select list. -/
def rootSql (s : JoinedSelect) : String :=
  match s.columns with
  | .all => Identifier.quote s.root ++ ".*"
  | .some names => ", ".intercalate (names.map (Identifier.qualified s.root))

def template (s : JoinedSelect) : Template :=
  .text ("SELECT " ++ ", ".intercalate (s.rootSql :: s.associations.map AssociationColumn.sql) ++ " FROM " ++
      Identifier.quote s.root) ::
    s.laterals.flatMap (fun l => .text " " :: l.template) ++
    Template.optional " WHERE " s.filter ++
    .text (" GROUP BY " ++ s.key.sql ++ " " ++ OrderKey.clause s.order ++ " ") :: s.page.template

end JoinedSelect

/-- A statement on rows. Table names are cut to length already. -/
inductive Statement where
  | select (table : String) (filter : Option Template) (order : List OrderKey) (page : Page)
  | joined (select : JoinedSelect)
  | insert (table : String) (values : List (String × Value))
  | update (table : String) (values : List (String × Value)) (filter : Option Template)
  | delete (table : String) (filter : Option Template)
  | count (table : String) (filter : Option Template)

namespace Statement

/-- The columns and values of a new row; without any, the defaults. -/
def insertion : List (String × Value) → Template
  | [] => [.text " DEFAULT VALUES"]
  | values =>
    .text (" (" ++ Identifier.quoteAll (values.map (·.1)) ++ ") VALUES (") ::
      Template.intercalate ", " (values.map fun (_, v) => [.value v]) ++ [.text ")"]

/-- The columns of a row with their new values. -/
def assignments (values : List (String × Value)) : Template :=
  Template.intercalate ", " (values.map fun (column, v) =>
    [.text (Identifier.quote column ++ " = "), .value v])

/-- The statement as text and values. -/
def template : Statement → Template
  | .select table filter order page =>
    .text ("SELECT * FROM " ++ Identifier.quote table) :: Template.optional " WHERE " filter ++
      .text (" " ++ OrderKey.clause order ++ " ") :: page.template
  | .joined s => s.template
  | .insert table values =>
    .text ("INSERT INTO " ++ Identifier.quote table) :: insertion values ++ [.text " RETURNING *"]
  | .update table values filter =>
    .text ("UPDATE " ++ Identifier.quote table ++ " SET ") :: assignments values ++
      Template.optional " WHERE " filter ++ [.text " RETURNING *"]
  | .delete table filter =>
    .text ("DELETE FROM " ++ Identifier.quote table) :: Template.optional " WHERE " filter ++
      [.text " RETURNING *"]
  | .count table filter =>
    .text ("SELECT COUNT(*) AS \"count\" FROM " ++ Identifier.quote table) ::
      Template.optional " WHERE " filter

/-- The statement ready to be sent. -/
def query (s : Statement) : Result Query := s.template.query

end Statement

end SqlAdapter
