/-
Values that cross the boundary to the database: parameters of statements, the
columns of rows, the fields of records.

`Value.toJson` and `Value.ofJson` relate them to JSON, where whole numbers are
read as 64-bit integers, all other numbers as doubles, and objects stay JSON.
`Value.identityKey?` is the text by which primary keys are compared; integers of
different width have the same one, and NULL has none.
-/
import SqlAdapter.Json.Printer
import SqlAdapter.Json.Reader
import SqlAdapter.Calendar.Basic
import SqlAdapter.Decimal
import SqlAdapter.Uuid

namespace SqlAdapter

/-- A database value. -/
inductive Value where
  | null
  | bool (value : Bool)
  | smallInt (value : Int16)
  | int (value : Int32)
  | bigInt (value : Int64)
  | float (value : Binary32)
  | double (value : Binary64)
  /-- Text and every other character type. -/
  | string (text : String)
  | bytes (content : List UInt8)
  | uuid (value : Uuid)
  | date (value : Date)
  | time (value : Time)
  /-- A day and time without a zone. -/
  | timestamp (value : Timestamp)
  /-- A day and time with a zone, kept in UTC. -/
  | timestampTz (value : Moment)
  /-- JSON in either column type; also the aggregated rows of an association. -/
  | json (value : Json)
  /-- A native array. -/
  | array (items : List Value)
  | decimal (value : Decimal)

namespace Value

/-- The name of a value's type in SQL. -/
def typeName : Value → String
  | .null => "NULL"
  | .bool _ => "BOOLEAN"
  | .smallInt _ => "SMALLINT"
  | .int _ => "INTEGER"
  | .bigInt _ => "BIGINT"
  | .float _ => "REAL"
  | .double _ => "DOUBLE PRECISION"
  | .string _ => "TEXT"
  | .bytes _ => "BYTEA"
  | .uuid _ => "UUID"
  | .date _ => "DATE"
  | .time _ => "TIME"
  | .timestamp _ => "TIMESTAMP"
  | .timestampTz _ => "TIMESTAMPTZ"
  | .json _ => "JSONB"
  | .array _ => "ARRAY"
  | .decimal _ => "NUMERIC"

def isNull : Value → Bool
  | .null => true
  | _ => false

/-! ## Values and JSON -/

/-- A JSON number as a value: a signed 64-bit integer where it is one, else a double. -/
def ofNumber (n : Json.Number) : Value :=
  match n.asInt64? with
  | some i => .bigInt (Int64.ofInt i)
  | none => .double n.asBinary64

mutual

/-- The value that JSON stands for; an object stays as it is. -/
def ofJson : Json → Value
  | .null => .null
  | .bool b => .bool b
  | .number n => ofNumber n
  | .string text => .string text
  | .array items => .array (ofJsonItems items)
  | .object fields => .json (.object fields)

def ofJsonItems : List Json → List Value
  | [] => []
  | item :: items => ofJson item :: ofJsonItems items

end

/-- Two hexadecimal digits for each byte. -/
def hexText (bs : List UInt8) : String := String.ofList (bs.flatMap fun b => hexChars 2 b.toNat)

mutual

/-- A value as JSON: bytes as hexadecimal digits, times and decimals as text. -/
def toJson : Value → Json
  | .null => .null
  | .bool b => .bool b
  | .smallInt i => .ofInt i.toInt
  | .int i => .ofInt i.toInt
  | .bigInt i => .ofInt i.toInt
  | .float x => .ofBinary64 x.widen
  | .double x => .ofBinary64 x
  | .string text => .string text
  | .bytes bs => .string (hexText bs)
  | .uuid u => .string u.text
  | .date d => .string (String.ofList d.chars)
  | .time t => .string (String.ofList t.chars)
  | .timestamp t => .string (String.ofList t.chars)
  | .timestampTz m => .string (String.ofList m.chars)
  | .json j => j
  | .array items => .array (toJsonItems items)
  | .decimal d => .string d.text

def toJsonItems : List Value → List Json
  | [] => []
  | item :: items => toJson item :: toJsonItems items

end

/-- The text by which values are told apart as keys. -/
def identityKey? (v : Value) : Option String := if v.isNull then none else some v.toJson.text

/-- A string in brackets that reads as a JSON array becomes an array; other values stay. -/
def unbracketed (v : Value) : Value :=
  match v with
  | .string text =>
    if text.toList.head? = some '[' then
      match Json.read? text with
      | some (.array items) => ofJson (.array items)
      | _ => v
    else v
  | _ => v

end Value

/-- A row as the database returns it: column names and their values. -/
abbrev Row := List (String × Value)

namespace Row

/-- The value of a column. -/
def get? (row : Row) (column : String) : Option Value :=
  (List.find? (·.1 == column) row).map (·.2)

/-- The row without a column. -/
def erase (row : Row) (column : String) : Row := List.filter (·.1 != column) row

/-- Sets a column: in place where the row has it, at the end where it has not. -/
def insert (row : Row) (column : String) (value : Value) : Row :=
  if List.any row (·.1 == column) then
    List.map (fun (c, v) => if c == column then (c, value) else (c, v)) row
  else row ++ [(column, value)]

end Row

end SqlAdapter
