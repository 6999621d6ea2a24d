/-
Reading rows off the wire.

Each column comes with the name of its type, and each cell as the value that was
sent or, where what was sent is no value of the type, as its bytes. A column of
a type without a reading of its own is read as text, which the driver allows
for untyped literals alone. NULL is fine everywhere. Of several columns with one
name the last one stays.
-/
import SqlAdapter.Error
import SqlAdapter.Value.Basic

namespace SqlAdapter

/-- A column of an answer: its name and the name of its type. -/
structure WireColumn where
  name : String
  type : String

namespace WireColumn

/-- A cell as text: text as it is, and bytes where they encode text. -/
def text? : Value → Option Value
  | .string text => some (.string text)
  | .bytes bs => (String.fromUTF8? ⟨bs.toArray⟩).map .string
  | _ => none

/-- A cell as an identifier: sixteen bytes are one as well. -/
def uuid? : Value → Option Value
  | .uuid u => some (.uuid u)
  | .bytes bs => if bs.length = 16 then (Uuid.ofDigits? (bs.flatMap fun b => hexChars 2 b.toNat)).map .uuid else none
  | _ => none

/-- A cell as JSON: text is read. -/
def json? : Value → Option Value
  | .json j => some (.json j)
  | .string text => (Json.read? text).map .json
  | _ => none

/-- A cell that must be a value of one kind. -/
def only (fits : Value → Bool) (v : Value) : Option Value := if fits v then some v else none

/-- How the cells of a type are read, NULL aside, and what the type is called in messages. -/
def reading? (type : String) : Option (String × (Value → Option Value)) :=
  match type with
  | "BOOL" => some ("BOOL", only fun | .bool _ => true | _ => false)
  | "INT2" => some ("SMALLINT", only fun | .smallInt _ => true | _ => false)
  | "INT4" => some ("INT", only fun | .int _ => true | _ => false)
  | "INT8" => some ("BIGINT", only fun | .bigInt _ => true | _ => false)
  | "FLOAT4" => some ("REAL", only fun | .float _ => true | _ => false)
  | "FLOAT8" => some ("DOUBLE", only fun | .double _ => true | _ => false)
  | "VARCHAR" | "TEXT" | "CHAR" | "BPCHAR" | "NAME" => some ("STRING", text?)
  | "BYTEA" => some ("BYTEA", only fun | .bytes _ => true | _ => false)
  | "UUID" => some ("UUID", uuid?)
  | "DATE" => some ("DATE", only fun | .date _ => true | _ => false)
  | "TIME" => some ("TIME", only fun | .time _ => true | _ => false)
  | "TIMESTAMP" => some ("TIMESTAMP", only fun | .timestamp _ => true | _ => false)
  | "TIMESTAMPTZ" => some ("TIMESTAMPTZ", only fun | .timestampTz _ => true | _ => false)
  | "JSON" | "JSONB" => some ("JSON", json?)
  | "NUMERIC" => some ("NUMERIC", only fun | .decimal _ => true | _ => false)
  | _ => none

/-- For the names of array types, the type of the elements. -/
def element? (type : String) : Option String :=
  [("_BOOL", "BOOL"), ("_INT2", "INT2"), ("_INT4", "INT4"), ("_INT8", "INT8"), ("_FLOAT4", "FLOAT4"),
    ("_FLOAT8", "FLOAT8"), ("_TEXT", "TEXT"), ("_VARCHAR", "VARCHAR"), ("_UUID", "UUID")].lookup type

/-- A cell as an array. No element may be NULL. -/
def array? (element : Value → Option Value) : Value → Option Value
  | .array items => (items.mapM element).map .array
  | _ => none

/-- How the cells of a column are read, and what its type is called in messages. -/
def reading (c : WireColumn) : String × (Value → Option Value) :=
  match reading? c.type, (element? c.type).bind reading? with
  | some reading, _ => reading
  | none, some (_, element) => ("array", array? element)
  | none, none => (c.type, fun v => if c.type = "UNKNOWN" then text? v else none)

/-- The value of a cell. -/
def extract (c : WireColumn) (cell : Value) : Result Value :=
  if cell.isNull then .ok .null
  else
    let (label, read) := c.reading
    match read cell with
    | some value => .ok value
    | none => .error (.extraction label c.name)

end WireColumn

/-- The row of the cells of an answer. -/
def Row.ofCells : List WireColumn → List Value → Row → Result Row
  | c :: columns, cell :: cells, row => do
    let value ← c.extract cell
    Row.ofCells columns cells (row.insert c.name value)
  | _, _, row => .ok row

end SqlAdapter
