/-
Names of tables and columns in SQL text.

A name is quoted part by part, the parts between dots, with quotes doubled
inside; `qualified` quotes a table and a column as they are. Names longer than
63 bytes are cut, as the database cuts them, at the end of a character.

`check` accepts a name of one part or of two parts with a dot between, each of
ASCII letters, digits and underscores, not starting with a digit and not
reserved for the database's own catalogs. It decides on the compatibility normal
form, so that look-alike letters count as the letters they look like.
-/
import SqlAdapter.Error
import SqlAdapter.Text.Blank
import SqlAdapter.Text.Lowercase
import SqlAdapter.Text.Compatibility

namespace SqlAdapter.Identifier

/-- The text with every quote character written twice. -/
def doubled (quote : Char) : List Char → List Char
  | [] => []
  | c :: cs => if c = quote then quote :: quote :: doubled quote cs else c :: doubled quote cs

/-- The text between quote characters, those inside it written twice. -/
def enclosed (quote : Char) (cs : List Char) : List Char := quote :: (doubled quote cs ++ [quote])

/-- One part of a name in double quotes. -/
def quotePart (part : String) : String := String.ofList (enclosed '"' part.toList)

/-- A name in double quotes, part by part. -/
def quote (name : String) : String :=
  ".".intercalate ((Text.splitAt '.' name.toList).map fun part => quotePart (String.ofList part))

/-- A column behind its table, both in double quotes. -/
def qualified (table column : String) : String := quotePart table ++ "." ++ quotePart column

/-- Names in double quotes, separated by commas. -/
def quoteAll (names : List String) : String := ", ".intercalate (names.map quote)

/-- A text as a literal in single quotes. -/
def literal (text : String) : String := String.ofList (enclosed '\'' text.toList)

/-- The most bytes that the database keeps of a name. -/
def maxBytes : Nat := 63

/-- The longest prefix of whole characters within a number of UTF-8 bytes. -/
def takeBytes (bytes : Nat) : List Char → List Char
  | [] => []
  | c :: cs => if c.utf8Size ≤ bytes then c :: takeBytes (bytes - c.utf8Size) cs else []

/-- The part of a name that the database keeps. -/
def truncate (name : String) : String := String.ofList (takeBytes maxBytes name.toList)

/-- May the character start a part of a name? -/
def isStart (c : Char) : Bool := isLetter c || c = '_'

/-- May the character stand in a part of a name? -/
def isInner (c : Char) : Bool := isLetter c || isDigit c || c = '_'

/-- Accepts one part of a name. -/
def checkPart (part : String) : Result Unit :=
  if part = "" then .error .emptyIdentifierPart
  else
    let name := Text.normalize part
    match name.toList with
    | [] => .error (.vanishedIdentifier name)
    | first :: _ =>
      if !isStart first then .error (.identifierStart name)
      else match name.toList.find? (!isInner ·) with
        | some c => .error (.identifierCharacter name c)
        | none =>
          let lower := Text.lowercase name
          if lower.toList.take 3 = ['p', 'g', '_'] then .error (.systemCatalog name)
          else if lower = "information_schema" then .error .informationSchema
          else .ok ()

/-- Accepts a name of one part, or of two parts with a dot between. -/
def check (name : String) : Result Unit :=
  if name = "" then .error .emptyIdentifier
  else match Text.splitAt '.' name.toList with
    | [part] => checkPart (String.ofList part)
    | [schema, table] => do
      checkPart (String.ofList schema)
      checkPart (String.ofList table)
    | _ => .error (.qualifiedFormat name)

end SqlAdapter.Identifier
