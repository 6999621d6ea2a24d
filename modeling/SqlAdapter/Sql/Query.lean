/-
Statements ready to be sent: SQL text with numbered placeholders, and a value
for each number.

`Query.make` is the only door: every number from one to the number of values
must occur in the text, and no higher one.
-/
import SqlAdapter.Sql.Placeholder
import SqlAdapter.Value.Parameter
import SqlAdapter.Error

namespace SqlAdapter

structure Query where
  sql : String
  params : List Value

namespace Query

/-- The greatest of a list of numbers, zero for none. -/
def highest (indices : List Nat) : Nat := indices.foldl max 0

/-- Accepts a text for a number of parameters. -/
def checkPlaceholders (sql : String) (parameters : Nat) : Result Unit :=
  let indices := Placeholder.indices sql
  let top := highest indices
  if top ≠ parameters then .error (.highestPlaceholder top parameters)
  else match (List.range' 1 top).find? (!indices.contains ·) with
    | some missing => .error (.unusedPlaceholder missing)
    | none => .ok ()

/-- A statement from text that is already numbered. -/
def make (sql : String) (params : List Value) : Result Query := do
  checkPlaceholders sql params.length
  return ⟨sql, params⟩

/-- A statement from a caller's text: marks are numbered, numbers are kept, and strings that hold
JSON arrays become arrays. -/
def raw (sql : String) (values : List Value) : Result Query :=
  let (text, count) := Placeholder.number sql 1
  if 0 < count ∧ count ≠ values.length then .error (.placeholderValues count values.length)
  else make text (values.map Value.unbracketed)

/-- The types under which the parameters bind. -/
def parameters (q : Query) : List Parameter := q.params.map Value.parameter

end Query

end SqlAdapter
