/-
Statements before their placeholders have numbers: text and values in the order
in which they stand in the statement.

Writing a template numbers its values from one on, so a statement that is built
as a template has its parameters in textual order. `Fragment.template` makes a
template of text with `?` marks and the values for them; their numbers must
agree.
-/
import SqlAdapter.Sql.Query

namespace SqlAdapter

/-- A part of a statement: text as it is written, or a value for which a placeholder stands. -/
inductive Piece where
  | text (sql : String)
  | value (value : Value)

/-- A statement, or a part of one. -/
abbrev Template := List Piece

namespace Template

/-- The values, in the order of their placeholders. -/
def params : Template → List Value
  | [] => []
  | .text _ :: pieces => params pieces
  | .value v :: pieces => v :: params pieces

/-- The text, placeholders numbered from `next` on. -/
def sqlFrom (next : Nat) : Template → String
  | [] => ""
  | .text sql :: pieces => sql ++ sqlFrom next pieces
  | .value _ :: pieces => String.ofList (Placeholder.numbered next) ++ sqlFrom (next + 1) pieces

/-- The template as a statement ready to be sent. -/
def query (t : Template) : Result Query := Query.make (t.sqlFrom 1) t.params

/-- Templates with text between each two. -/
def intercalate (separator : String) : List Template → Template
  | [] => []
  | [t] => t
  | t :: more => t ++ .text separator :: intercalate separator more

end Template

/-- Text with a `?` for each of its values. -/
structure Fragment where
  sql : String
  values : List Value

namespace Fragment

/-- The pieces of a text with values between them. -/
def weave : List (List Char) → List Value → Template
  | piece :: pieces, value :: values =>
    .text (String.ofList piece) :: .value value :: weave pieces values
  | pieces, _ => pieces.map fun piece => .text (String.ofList piece)

/-- The fragment as a template, if it has as many marks as values. Strings that hold JSON arrays
become arrays. -/
def template (f : Fragment) : Result Template :=
  let pieces := Placeholder.pieces f.sql
  let marks := pieces.length - 1
  if marks ≠ f.values.length then .error (.fragmentValues marks f.values.length)
  else .ok (weave pieces (f.values.map Value.unbracketed))

end Fragment

end SqlAdapter
