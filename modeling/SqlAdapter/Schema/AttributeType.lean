/-
The types that attributes are declared with, and the tags that name them.

A tag counts in any letter case and with white space around it. `[]` behind a
tag makes an array of it, any number of times. What to do with a tag that names
nothing depends on the mode: it is refused, or kept as an unknown type.
-/
import SqlAdapter.Error
import SqlAdapter.Text.Blank
import SqlAdapter.Text.Lowercase

namespace SqlAdapter

/-- What happens to type tags that name nothing. -/
inductive MappingMode where
  /-- They are errors. -/
  | strict
  /-- They are kept, stored as text and reported. -/
  | bestEffort
  deriving DecidableEq

/-- The type of an attribute, whatever column holds it. -/
inductive AttributeType where
  | string
  | text
  | integer
  | bigInteger
  | smallInteger
  | float
  | double
  | decimal
  | boolean
  | date
  | time
  | dateTime
  | timestamp
  | binary
  | json
  | jsonb
  | uuid
  /-- A closed set of texts. -/
  | enum (values : List String)
  /-- A sequence of anything, stored as bracketed JSON text. -/
  | untypedArray
  | array (element : AttributeType)
  /-- A column type in the database's own words. -/
  | raw (sql : String)
  /-- A tag that names nothing. -/
  | unknown (tag : String)
  deriving DecidableEq

namespace AttributeType

/-- The types that are named by a word alone, with their names. -/
def names : List (String × AttributeType) :=
  [("String", .string), ("Text", .text), ("Integer", .integer), ("BigInteger", .bigInteger),
    ("SmallInteger", .smallInteger), ("Float", .float), ("Double", .double), ("Decimal", .decimal),
    ("Boolean", .boolean), ("Date", .date), ("Time", .time), ("DateTime", .dateTime),
    ("Timestamp", .timestamp), ("Binary", .binary), ("Json", .json), ("Jsonb", .jsonb), ("Uuid", .uuid)]

/-- The name of a type that has one. -/
def name (type : AttributeType) : String := ((names.find? (·.2 == type)).map (·.1)).getD ""

def isArray : AttributeType → Bool
  | .untypedArray | .array _ => true
  | _ => false

/-- The type that a tag in lower case names, array suffixes aside. -/
def named? (tag : String) : Option AttributeType :=
  match tag with
  | "string" | "varchar" => some .string
  | "text" | "mediumtext" | "longtext" => some .text
  | "integer" | "int" => some .integer
  | "biginteger" | "bigint" => some .bigInteger
  | "smallinteger" | "smallint" => some .smallInteger
  | "float" | "real" => some .float
  | "double" => some .double
  | "decimal" | "numeric" => some .decimal
  | "boolean" | "bool" => some .boolean
  | "date" => some .date
  | "time" => some .time
  | "datetime" => some .dateTime
  | "timestamp" => some .timestamp
  | "binary" | "bytea" => some .binary
  | "json" => some .json
  | "jsonb" => some .jsonb
  | "uuid" => some .uuid
  | "array" => some .untypedArray
  | _ => none

/-- The text before a final `[]`. -/
def element? (tag : String) : Option String :=
  match tag.toList.reverse with
  | ']' :: '[' :: rest => some (String.ofList rest.reverse)
  | _ => none

/-- What is looked at of a tag: the text in lower case, without the white space around it. Irreducible, so that the tables
of letters stay closed where `ofTagWithin` is unfolded. -/
@[irreducible] def normal (tag : String) : String := Text.lowercase (Text.trim tag)

/-- What a tag that names nothing is. -/
def ofUnknownTag (mode : MappingMode) (tag : String) : Result AttributeType :=
  match mode with
  | .strict => .error (.unknownTypeTag tag)
  | .bestEffort => .ok (.unknown tag)

/-- The type that a tag names, with at most so many array suffixes. -/
def ofTagWithin (mode : MappingMode) : (suffixes : Nat) → (tag : String) → Result AttributeType
  | 0, tag => (named? (normal tag)).elim (ofUnknownTag mode tag) .ok
  | suffixes + 1, tag =>
    match named? (normal tag), element? (normal tag) with
    | some type, _ => .ok type
    | none, some inner => (ofTagWithin mode suffixes inner).map .array
    | none, none => ofUnknownTag mode tag

/-- The type that a tag names. Every suffix has a closing bracket, so their number is bound enough. -/
def ofTag (mode : MappingMode) (tag : String) : Result AttributeType :=
  ofTagWithin mode (tag.toList.count ']') tag

end AttributeType

end SqlAdapter
