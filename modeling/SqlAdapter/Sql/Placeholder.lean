/-
Placeholders in SQL text. Fragments are written with `?` and statements with
`$1`, `$2` and so on; neither counts inside single-quoted literals or
double-quoted names.

`pieces` cuts a fragment at its marks, `number` puts numbers in their places, and
`indices` reads the numbers of a statement.
-/
import SqlAdapter.Text.Digits

namespace SqlAdapter.Placeholder

/-- Where a reader of SQL text stands. -/
inductive Quoting where
  /-- In no quotes. -/
  | plain
  /-- In a single-quoted literal. -/
  | literal
  /-- In a double-quoted name. -/
  | name
  deriving DecidableEq

/-- Where the reader stands after a character. -/
def Quoting.after (q : Quoting) (c : Char) : Quoting :=
  match q with
  | .plain => if c = '\'' then .literal else if c = '"' then .name else .plain
  | .literal => if c = '\'' then .plain else .literal
  | .name => if c = '"' then .plain else .name

/-- A numbered placeholder. -/
def numbered (index : Nat) : List Char := '$' :: decimalChars index

/-- The pieces of a fragment between its unquoted marks; always at least one. -/
def piecesFrom (q : Quoting) : List Char → List (List Char)
  | [] => [[]]
  | c :: cs =>
    if q = .plain ∧ c = '?' then [] :: piecesFrom q cs
    else match piecesFrom (q.after c) cs with
      | piece :: pieces => (c :: piece) :: pieces
      | [] => [[c]]

/-- The pieces of a fragment between its unquoted marks; always at least one. -/
def pieces (sql : String) : List (List Char) := piecesFrom .plain sql.toList

/-- Pieces with numbers between them, from `next` on. -/
def weave (next : Nat) : List (List Char) → List Char
  | [] => []
  | [piece] => piece
  | piece :: more => piece ++ numbered next ++ weave (next + 1) more

/-- A fragment with its marks numbered from `first`, and how many there are. -/
def number (sql : String) (first : Nat) : String × Nat :=
  let parts := pieces sql
  (String.ofList (weave first parts), parts.length - 1)

/-- The number that the digits after a `$` stand for: none without digits or past 64 bits. -/
def index? (digits : List Char) : Option Nat :=
  if digits = [] then none
  else if decimalValue digits < 2 ^ 64 then some (decimalValue digits) else none

/-- What an unquoted `$` was followed by so far: the digits in reverse, if one is open. -/
abbrev Open := Option (List Char)

/-- The number that is closed here, if one is. -/
def closed : Open → List Nat
  | some digits => (index? digits.reverse).toList
  | none => []

/-- The numbers after unquoted `$` signs, in the order of the text. -/
def indicesFrom (q : Quoting) (pending : Open) : List Char → List Nat
  | [] => closed pending
  | c :: cs =>
    match pending with
    | some digits =>
      if isDigit c then indicesFrom q (some (c :: digits)) cs
      else closed pending ++
        if c = '$' then indicesFrom q (some []) cs else indicesFrom (q.after c) none cs
    | none =>
      if q = .plain ∧ c = '$' then indicesFrom q (some []) cs else indicesFrom (q.after c) none cs

/-- The numbers of the placeholders of a statement, in the order of the text. -/
def indices (sql : String) : List Nat := indicesFrom .plain none sql.toList

end SqlAdapter.Placeholder
