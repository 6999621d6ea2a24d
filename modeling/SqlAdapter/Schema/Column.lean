/-
Columns: what the database is told about an attribute.

`Column.ofAttribute` gives the column of an attribute by its type, and
`Column.constrained` adds what the attribute declares beside the type. A type
that nothing is known about becomes a text column with a diagnostic in best
effort mode, and is refused in strict mode; inside an array it is refused in
both.
-/
import SqlAdapter.Schema.Attribute
import SqlAdapter.Event

namespace SqlAdapter

/-- The type of a column. -/
inductive ColumnType where
  | smallInt
  | integer
  | bigInt
  | serial
  | bigSerial
  | real
  | doublePrecision
  | numeric (precision scale : UInt32)
  | varchar (length : UInt32)
  | text
  | boolean
  | bytea
  | uuid
  | date
  | time
  | timestamp
  | timestampTz
  | json
  | jsonb
  | array (element : ColumnType)
  /-- A type in the database's own words. -/
  | custom (sql : String)
  deriving DecidableEq

namespace ColumnType

/-- The types that are named by a word alone, with their names. -/
def names : List (String × ColumnType) :=
  [("SmallInt", .smallInt), ("Integer", .integer), ("BigInt", .bigInt), ("Serial", .serial),
    ("BigSerial", .bigSerial), ("Real", .real), ("DoublePrecision", .doublePrecision), ("Text", .text),
    ("Boolean", .boolean), ("Bytea", .bytea), ("Uuid", .uuid), ("Date", .date), ("Time", .time),
    ("Timestamp", .timestamp), ("TimestampTz", .timestampTz), ("Json", .json), ("Jsonb", .jsonb)]

/-- The name of a type that has one. -/
def name (type : ColumnType) : String := ((names.find? (·.2 == type)).map (·.1)).getD ""

/-- The type as SQL. -/
def sql : ColumnType → String
  | .smallInt => "SMALLINT"
  | .integer => "INTEGER"
  | .bigInt => "BIGINT"
  | .serial => "SERIAL"
  | .bigSerial => "BIGSERIAL"
  | .real => "REAL"
  | .doublePrecision => "DOUBLE PRECISION"
  | .numeric p s => "NUMERIC(" ++ naturalText p.toNat ++ ", " ++ naturalText s.toNat ++ ")"
  | .varchar n => "VARCHAR(" ++ naturalText n.toNat ++ ")"
  | .text => "TEXT"
  | .boolean => "BOOLEAN"
  | .bytea => "BYTEA"
  | .uuid => "UUID"
  | .date => "DATE"
  | .time => "TIME"
  | .timestamp => "TIMESTAMP"
  | .timestampTz => "TIMESTAMPTZ"
  | .json => "JSON"
  | .jsonb => "JSONB"
  | .array element => element.sql ++ "[]"
  | .custom sql => sql

end ColumnType

/-- A problem with an attribute that does not stop its table. -/
structure Diagnostic where
  attr : String
  message : String
  deriving DecidableEq

/-- The definition of a column. -/
structure Column where
  name : String
  type : ColumnType
  notNull : Bool
  unique : Bool
  /-- The default as SQL. -/
  default : Option String
  /-- A condition on the column as SQL. -/
  check : Option String
  /-- Is an index of its own wanted? -/
  index : Bool
  diagnostic : Option Diagnostic
  deriving DecidableEq

namespace Column

/-- A column with nothing but a type. -/
def plain (name : String) (type : ColumnType) : Column :=
  ⟨name, type, false, false, none, none, false, none⟩

/-- The definition as SQL. -/
def sql (c : Column) : String :=
  Identifier.quote c.name ++ " " ++ c.type.sql ++
    (if c.notNull then " NOT NULL" else "") ++
    (if c.unique then " UNIQUE" else "") ++
    (match c.default with | some d => " DEFAULT " ++ d | none => "") ++
    (match c.check with | some k => " CHECK (" ++ k ++ ")" | none => "")

/-- The characters that a raw column type may have. -/
def isRaw (ch : Char) : Bool :=
  isLetter ch || isDigit ch || [' ', '_', '(', ')', ',', '[', ']'].contains ch

/-- The column type of an attribute's type, or of an element of it. -/
def typeOf (a : Attribute) : AttributeType → Result ColumnType
  | .string => .ok (.varchar (a.length.getD 255))
  | .text => .ok .text
  | .integer => .ok .integer
  | .bigInteger => .ok .bigInt
  | .smallInteger => .ok .smallInt
  | .float => .ok .real
  | .double => .ok .doublePrecision
  | .decimal => .ok (.numeric (a.precision.getD 8) (a.scale.getD 2))
  | .boolean => .ok .boolean
  | .date => .ok .date
  | .time => .ok .time
  | .dateTime => .ok .timestampTz
  | .timestamp => .ok .timestamp
  | .binary => .ok .bytea
  | .json => .ok .json
  | .jsonb => .ok .jsonb
  | .uuid => .ok .uuid
  | .untypedArray => .ok .text
  | .array element => (typeOf a element).map .array
  | .raw sql =>
    if sql = "" ∨ !sql.toList.all isRaw then .error (.rawType sql a.name) else .ok (.custom sql)
  | .enum _ => .ok .text
  | .unknown tag => .error (.unmappedElement tag a.name)

/-- The condition that a column holds one of some texts. -/
def oneOf (name : String) (values : List String) : String :=
  Identifier.quote name ++ " IN (" ++ ", ".intercalate (values.map Identifier.literal) ++ ")"

/-- The column of an attribute by its type alone. Counting columns ignore the type but for its width. -/
def ofAttribute (mode : MappingMode) (a : Attribute) : Result Column := do
  Identifier.check a.name
  if a.autoIncrement then
    return plain a.name (if a.type = .bigInteger then .bigSerial else .serial)
  else match a.type with
    | .enum values => return { plain a.name .text with check := some (oneOf a.name values) }
    | .uuid => return { plain a.name .uuid with default := some "gen_random_uuid()" }
    | .unknown tag =>
      match mode with
      | .strict => .error (.unmappedType tag a.name)
      | .bestEffort =>
        return { plain a.name .text with
          diagnostic := some ⟨a.name, "unknown type '" ++ tag ++ "' mapped to TEXT"⟩ }
    | type => return plain a.name (← typeOf a type)

/-- What is logged while the column of an attribute is found. -/
def events (mode : MappingMode) (a : Attribute) : List Event :=
  match a.autoIncrement, a.type, mode with
  | false, .unknown tag, .bestEffort =>
    [⟨.warn, "Unknown attribute type, mapping to TEXT",
      [("attribute", .string a.name), ("tag", .string tag)]⟩]
  | _, _, _ => []

/-- The column with one declared property added. Counting columns have a default of their own. -/
def addProperty (a : Attribute) (c : Column) : Property → Column
  | .index => { c with index := true }
  | .unique => { c with unique := true }
  | .notNull => { c with notNull := true }
  | .default value => if a.autoIncrement then c else { c with default := some value.sql }
  | _ => c

/-- The column with everything that its attribute declares. -/
def constrained (c : Column) (a : Attribute) : Column := a.properties.foldl (addProperty a) c

end Column

end SqlAdapter
