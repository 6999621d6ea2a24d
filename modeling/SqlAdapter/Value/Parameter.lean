/-
The types under which values are bound as statement parameters.

A value binds as its own type and NULL as a nullable integer. An array binds as
a native array when its elements are all of one kind that has one here, NULLs
aside; an array without any other element binds as a NULL array of integers, and
every other array as JSON.
-/
import SqlAdapter.Value.Basic

namespace SqlAdapter

/-- The type of a bound parameter. -/
inductive Parameter where
  | int4 | bool | int2 | int8 | float4 | float8 | text | bytea | uuid | date | time | timestamp
  | timestamptz | jsonb | numeric
  | int4Array | int8Array | textArray | boolArray | float8Array | uuidArray
  deriving DecidableEq

namespace Parameter

/-- The name of a parameter type. -/
def name : Parameter → String
  | .int4 => "Int4"
  | .bool => "Bool"
  | .int2 => "Int2"
  | .int8 => "Int8"
  | .float4 => "Float4"
  | .float8 => "Float8"
  | .text => "Text"
  | .bytea => "Bytea"
  | .uuid => "Uuid"
  | .date => "Date"
  | .time => "Time"
  | .timestamp => "Timestamp"
  | .timestamptz => "Timestamptz"
  | .jsonb => "Jsonb"
  | .numeric => "Numeric"
  | .int4Array => "Int4Array"
  | .int8Array => "Int8Array"
  | .textArray => "TextArray"
  | .boolArray => "BoolArray"
  | .float8Array => "Float8Array"
  | .uuidArray => "UuidArray"

end Parameter

namespace Value

/-- The array type for elements like this one, and the test for its other elements. -/
def arrayType? : Value → Option (Parameter × (Value → Bool))
  | .int _ => some (.int4Array, fun | .int _ => true | _ => false)
  | .bigInt _ => some (.int8Array, fun | .bigInt _ => true | _ => false)
  | .string _ => some (.textArray, fun | .string _ => true | _ => false)
  | .bool _ => some (.boolArray, fun | .bool _ => true | _ => false)
  | .double _ => some (.float8Array, fun | .double _ => true | _ => false)
  | .uuid _ => some (.uuidArray, fun | .uuid _ => true | _ => false)
  | _ => none

/-- The type under which an array binds. -/
def arrayParameter (items : List Value) : Parameter :=
  match items.find? (!·.isNull) with
  | none => .int4Array
  | some first =>
    match first.arrayType? with
    | some (type, like) => if items.all fun v => v.isNull || like v then type else .jsonb
    | none => .jsonb

/-- The type under which a value binds. -/
def parameter : Value → Parameter
  | .null => .int4
  | .bool _ => .bool
  | .smallInt _ => .int2
  | .int _ => .int4
  | .bigInt _ => .int8
  | .float _ => .float4
  | .double _ => .float8
  | .string _ => .text
  | .bytes _ => .bytea
  | .uuid _ => .uuid
  | .date _ => .date
  | .time _ => .time
  | .timestamp _ => .timestamp
  | .timestampTz _ => .timestamptz
  | .json _ => .jsonb
  | .decimal _ => .numeric
  | .array items => arrayParameter items

end Value

end SqlAdapter
