/-
Casting: the value that an attribute's type makes of what the driver delivered.

The driver reports bracketed text for arrays without an element type, and inside
the JSON of an association it reports numbers, times and identifiers as text. A
value that cannot be read as its type stays as it is, and so does NULL.
-/
import SqlAdapter.Value.Basic
import SqlAdapter.Schema.AttributeType
import SqlAdapter.Calendar.Reader
import SqlAdapter.Text.Blank
import SqlAdapter.Text.Lowercase

namespace SqlAdapter

namespace Value

/-- The characters of a text without the blanks around it. -/
def trimmed (text : String) : List Char := Text.trimChars text.toList

/-- A text read as something else; other values and texts that cannot be read stay. -/
def readText (value : Value) (read : List Char → Option Value) : Value :=
  match value with
  | .string text => (read (trimmed text)).getD value
  | _ => value

/-- A byte from two characters: hexadecimal digits, or a plus sign and one digit. -/
def byte? (high low : Char) : Option UInt8 :=
  if high = '+' then (hexValue? low).map UInt8.ofNat
  else do
    let h ← hexValue? high
    let l ← hexValue? low
    return UInt8.ofNat (h * 16 + l)

/-- Bytes from characters, two for each. -/
def bytePairs? : List Char → Option (List UInt8)
  | [] => some []
  | [_] => none
  | high :: low :: more => do
    let first ← byte? high low
    let rest ← bytePairs? more
    return first :: rest

/-- Bytes as the database writes them: a backslash, an `x` and two digits for each byte. -/
def bytes? : List Char → Option (List UInt8)
  | '\\' :: 'x' :: digits => bytePairs? digits
  | _ => none

/-- A whole number of 64 bits. -/
def bigInt? (cs : List Char) : Option Value :=
  (integer? cs).bind fun i =>
    if -(2 ^ 63) ≤ i ∧ i < 2 ^ 63 then some (.bigInt (Int64.ofInt i)) else none

/-- The words for truth values, in any letter case. -/
def boolOfWord? (word : String) : Option Bool :=
  match Text.lowercase word with
  | "t" | "true" | "1" => some true
  | "f" | "false" | "0" => some false
  | _ => none

def asBool (value : Value) : Value :=
  match value with
  | .smallInt i => .bool (i != 0)
  | .int i => .bool (i != 0)
  | .bigInt i => .bool (i != 0)
  | .string word => ((boolOfWord? word).map Value.bool).getD value
  | _ => value

def asDecimal (value : Value) : Value :=
  match value with
  | .string _ => value.readText fun cs => (Decimal.read? cs).map .decimal
  | .bigInt i => ((Decimal.ofInt? i.toInt).map Value.decimal).getD value
  | .int i => ((Decimal.ofInt? i.toInt).map Value.decimal).getD value
  | .double x => ((Decimal.ofBinary64? x).map Value.decimal).getD value
  | _ => value

def asJson (value : Value) : Value :=
  match value with
  | .json _ => value
  | .string text => ((Json.read? text).map Value.json).getD value
  | _ => .json value.toJson

/-- An array from text or JSON that holds one; other values stay. -/
def asArray (value : Value) : Value :=
  match value with
  | .string _ => value.unbracketed
  | .json (.array items) => ofJson (.array items)
  | _ => value

end Value

namespace AttributeType

/-- The value as a type has it. -/
def cast : AttributeType → Value → Value
  | _, .null => .null
  | .untypedArray, value => value.asArray
  | .array element, value =>
    match value.asArray with
    | .array items => .array (items.map element.cast)
    | other => other
  | .boolean, value => value.asBool
  | .integer, value | .bigInteger, value | .smallInteger, value => value.readText Value.bigInt?
  | .float, value | .double, value => value.readText fun cs => (Binary.read? cs).map .double
  | .decimal, value => value.asDecimal
  | .date, value => value.readText fun cs => (Date.read? cs).map .date
  | .time, value => value.readText fun cs => (Time.read? cs).map .time
  | .dateTime, value => value.readText fun cs => (Moment.read? cs).map .timestampTz
  | .timestamp, value => value.readText fun cs => (Timestamp.read? cs).map .timestamp
  | .json, value | .jsonb, value => value.asJson
  | .uuid, value => value.readText fun cs => (Uuid.read? cs).map .uuid
  | .binary, value => value.readText fun cs => (Value.bytes? cs).map .bytes
  | .string, value | .text, value | .enum _, value | .raw _, value | .unknown _, value => value

end AttributeType

end SqlAdapter
