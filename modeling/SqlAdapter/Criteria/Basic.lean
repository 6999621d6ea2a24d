/-
Criteria: which rows a caller wants, in what order, how many of them, and which
associated rows along with each.

A predicate compares fields with values and combines comparisons; its `all` and
`any` take any number of parts, none included. A join says how rows of a child
table belong to rows of a parent table, and under which name they appear in the
result. A join through a junction table is two joins of one name: one into the
junction table and one, marked `junction`, from there to the child.
-/
import SqlAdapter.Value.Basic

namespace SqlAdapter

/-- A comparison of a column with one value. -/
inductive Comparison where
  | eq | ne | gt | gte | lt | lte | like | ilike | notLike
  deriving DecidableEq

namespace Comparison

def sql : Comparison → String
  | .eq => "="
  | .ne => "<>"
  | .gt => ">"
  | .gte => ">="
  | .lt => "<"
  | .lte => "<="
  | .like => "LIKE"
  | .ilike => "ILIKE"
  | .notLike => "NOT LIKE"

end Comparison

/-- What a predicate may ask of a field. -/
inductive Operator where
  | compare (comparison : Comparison)
  /-- Membership in a list. -/
  | among
  | notAmong
  | isNull
  | isNotNull
  deriving DecidableEq

namespace Operator

def sql : Operator → String
  | .compare comparison => comparison.sql
  | .among => "IN"
  | .notAmong => "NOT IN"
  | .isNull => "IS NULL"
  | .isNotNull => "IS NOT NULL"

/-- Every operator. -/
def all : List Operator :=
  [.compare .eq, .compare .ne, .compare .gt, .compare .gte, .compare .lt, .compare .lte, .compare .like,
    .compare .ilike, .compare .notLike, .among, .notAmong, .isNull, .isNotNull]

/-- The operator that is written in a certain way. -/
def ofSql? (sql : String) : Option Operator := all.find? (·.sql == sql)

end Operator

/-- A filter on rows. -/
inductive Predicate where
  | compare (field : String) (op : Operator) (value : Value)
  /-- All parts hold; without parts, always. -/
  | all (parts : List Predicate)
  /-- Some part holds; without parts, never. -/
  | any (parts : List Predicate)
  | not (inner : Predicate)

namespace Predicate

/-- A field has a value. -/
def eq (field : String) (value : Value) : Predicate := .compare field (.compare .eq) value

/-- A field has no value. -/
def isNull (field : String) : Predicate := .compare field .isNull .null

/-- Both hold. The second becomes one more part of a first that is a conjunction already. -/
def and : Predicate → Predicate → Predicate
  | .all parts, other => .all (parts ++ [other])
  | first, other => .all [first, other]

end Predicate

inductive SortDirection where
  | ascending
  | descending
  deriving DecidableEq

namespace SortDirection

/-- What follows a sorted column; ascending is what SQL does without a word. -/
def suffix : SortDirection → String
  | .ascending => ""
  | .descending => " DESC"

end SortDirection

/-- One key of an order. -/
structure SortKey where
  field : String
  direction : SortDirection
  deriving DecidableEq

/-- An association between a parent and a child table, its rows chosen by an `α`. -/
structure Join (α : Type) where
  parent : String
  parentKey : String
  child : String
  childKey : String
  /-- The parent is a junction table, reached by another join of the same name. -/
  junction : Bool
  /-- The name of the association in the result. -/
  name : String
  /-- Filter, order and page among the rows of each parent. -/
  criteria : Option α
  /-- Does the association appear in the result? -/
  select : Bool
  /-- The parent's key leaves the result, so that the association can take its name. -/
  removeParentKey : Bool

/-- Which rows, in what order, how many, and what with each. -/
structure Criteria where
  predicate : Option Predicate
  sort : List SortKey
  limit : Option Int64
  skip : Option Int64
  joins : List (Join Criteria)

/-- A join of two tables and their keys, with nothing else asked for. -/
def Join.plain {α : Type} (parent parentKey child childKey name : String) : Join α where
  parent := parent
  parentKey := parentKey
  child := child
  childKey := childKey
  junction := false
  name := name
  criteria := none
  select := true
  removeParentKey := false

namespace Criteria

/-- All rows in no order. -/
def empty : Criteria := ⟨none, [], none, none, []⟩

/-- The criteria with one more condition on the rows. -/
def filter (c : Criteria) (p : Predicate) : Criteria :=
  { c with predicate := some (match c.predicate with | some first => first.and p | none => p) }

/-- The criteria with one more key at the end of the order. -/
def sortBy (c : Criteria) (field : String) (direction : SortDirection) : Criteria :=
  { c with sort := c.sort ++ [⟨field, direction⟩] }

/-- The criteria with one more association. -/
def join (c : Criteria) (j : Join Criteria) : Criteria := { c with joins := c.joins ++ [j] }

end Criteria

/-- The criteria of a join, which are empty where it has none. -/
def Join.nested (j : Join Criteria) : Criteria := j.criteria.getD .empty

end SqlAdapter
