/-
JSON text. `Json.print` is the compact form, with nothing between the tokens
and object keys in their order; `Json.pretty` is the form for people, two
spaces to a level.

In strings only the quote, the backslash and the control characters below
the space are escaped.
-/
import SqlAdapter.Json.Basic
import SqlAdapter.Binary.Text

namespace SqlAdapter

namespace Json

/-- A character as it stands inside a quoted string. -/
def escape (c : Char) : List Char :=
  if c = '"' then ['\\', '"']
  else if c = '\\' then ['\\', '\\']
  else if c.toNat = 8 then ['\\', 'b']
  else if c.toNat = 9 then ['\\', 't']
  else if c.toNat = 10 then ['\\', 'n']
  else if c.toNat = 12 then ['\\', 'f']
  else if c.toNat = 13 then ['\\', 'r']
  else if c.toNat < 32 then '\\' :: 'u' :: hexChars 4 c.toNat
  else [c]

/-- A quoted string. -/
def quoted (text : String) : List Char := '"' :: (text.toList.flatMap escape ++ ['"'])

def Number.print : Number → List Char
  | .integer i _ => integerChars i
  | .float x _ => x.layOut .json

mutual

/-- The compact text of a value. -/
def print : Json → List Char
  | .null => ['n', 'u', 'l', 'l']
  | .bool true => ['t', 'r', 'u', 'e']
  | .bool false => ['f', 'a', 'l', 's', 'e']
  | .number n => n.print
  | .string text => quoted text
  | .array [] => ['[', ']']
  | .array (item :: items) => '[' :: (print item ++ printItems items)
  | .object [] => ['\x7b', '\x7d']
  | .object ((key, value) :: fields) => '\x7b' :: (quoted key ++ ':' :: print value ++ printFields fields)

/-- The items after the first, and the closing bracket. -/
def printItems : List Json → List Char
  | [] => [']']
  | item :: items => ',' :: (print item ++ printItems items)

/-- The fields after the first, and the closing brace. -/
def printFields : List (String × Json) → List Char
  | [] => ['\x7d']
  | (key, value) :: fields => ',' :: (quoted key ++ ':' :: print value ++ printFields fields)

end

/-- The compact text of a value. -/
def text (value : Json) : String := String.ofList (print value)

/-- A new line, indented to a level. -/
def newLine (level : Nat) : List Char := '\n' :: List.replicate (2 * level) ' '

mutual

/-- The text of a value over several lines, starting at a level of indentation. -/
def prettyAt (level : Nat) : Json → List Char
  | .array (item :: items) =>
    '[' :: (newLine (level + 1) ++ prettyAt (level + 1) item ++ prettyItems level items)
  | .object ((key, value) :: fields) =>
    '\x7b' :: (newLine (level + 1) ++ quoted key ++ [':', ' '] ++ prettyAt (level + 1) value ++
      prettyFields level fields)
  | other => print other

def prettyItems (level : Nat) : List Json → List Char
  | [] => newLine level ++ [']']
  | item :: items => ',' :: (newLine (level + 1) ++ prettyAt (level + 1) item ++ prettyItems level items)

def prettyFields (level : Nat) : List (String × Json) → List Char
  | [] => newLine level ++ ['\x7d']
  | (key, value) :: fields =>
    ',' :: (newLine (level + 1) ++ quoted key ++ [':', ' '] ++ prettyAt (level + 1) value ++
      prettyFields level fields)

end

/-- The text of a value over several lines. -/
def pretty (value : Json) : String := String.ofList (prettyAt 0 value)

end Json

end SqlAdapter
