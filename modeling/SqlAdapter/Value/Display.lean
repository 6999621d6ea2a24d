/-
Values as they are shown in messages: the name of the kind of value and what it
holds, in parentheses.

Strings are shown in quotes, with escapes for quotes, backslashes and control
characters; numbers with a fraction or an exponent, so that no float looks like
an integer.
-/
import SqlAdapter.Binary.Text
import SqlAdapter.Value.Basic

namespace SqlAdapter

namespace Value

/-- Hexadecimal digits without zeros in front. -/
def shortHex (n : Nat) : List Char :=
  let digits := (hexChars 8 n).dropWhile (· = '0')
  if digits = [] then ['0'] else digits

/-- A character as it is shown between quotes. -/
def shownChar (c : Char) : List Char :=
  if c = '"' then ['\\', '"']
  else if c = '\\' then ['\\', '\\']
  else if c.toNat = 0 then ['\\', '0']
  else if c.toNat = 9 then ['\\', 't']
  else if c.toNat = 10 then ['\\', 'n']
  else if c.toNat = 13 then ['\\', 'r']
  else if c.toNat < 32 ∨ (127 ≤ c.toNat ∧ c.toNat < 160) then
    ['\\', 'u', '\x7b'] ++ shortHex c.toNat ++ ['\x7d']
  else [c]

/-- A text in quotes. -/
def shownText (text : String) : String :=
  String.ofList ('"' :: (text.toList.flatMap shownChar ++ ['"']))

/-- The content in parentheses behind the name of its kind. -/
def shownAs (kind content : String) : String := kind ++ "(" ++ content ++ ")"

def shownBool (b : Bool) : String := if b then "true" else "false"

/-- Items in brackets. -/
def shownList (items : List String) : String := "[" ++ ", ".intercalate items ++ "]"

mutual

/-- JSON as it is shown. -/
def shownJson : Json → String
  | .null => "Null"
  | .bool b => shownAs "Bool" (shownBool b)
  | .number n => shownAs "Number" (Json.text (.number n))
  | .string text => shownAs "String" (shownText text)
  | .array items => "Array " ++ shownList (shownJsonItems items)
  | .object fields => "Object " ++ "\x7b" ++ ", ".intercalate (shownJsonFields fields) ++ "\x7d"

def shownJsonItems : List Json → List String
  | [] => []
  | item :: items => shownJson item :: shownJsonItems items

def shownJsonFields : List (String × Json) → List String
  | [] => []
  | (key, value) :: fields => (shownText key ++ ": " ++ shownJson value) :: shownJsonFields fields

end

mutual

/-- A value as it is shown. -/
def display : Value → String
  | .null => "Null"
  | .bool b => shownAs "Bool" (shownBool b)
  | .smallInt i => shownAs "SmallInt" (integerText i.toInt)
  | .int i => shownAs "Int" (integerText i.toInt)
  | .bigInt i => shownAs "BigInt" (integerText i.toInt)
  | .float x => shownAs "Float" (x.displayText)
  | .double x => shownAs "Double" (x.displayText)
  | .string text => shownAs "String" (shownText text)
  | .bytes bs => shownAs "Bytes" (shownList (bs.map fun b => naturalText b.toNat))
  | .uuid u => shownAs "Uuid" u.text
  | .date d => shownAs "Date" (String.ofList d.chars)
  | .time t => shownAs "Time" (String.ofList t.chars)
  | .timestamp t => shownAs "Timestamp" (String.ofList (t.date.chars ++ 'T' :: t.time.chars))
  | .timestampTz m => shownAs "TimestampTz" (String.ofList (m.date.chars ++ 'T' :: m.time.chars ++ ['Z']))
  | .json j => shownAs "Json" (shownJson j)
  | .array items => shownAs "Array" (shownList (displayItems items))
  | .decimal d => shownAs "Decimal" d.text

def displayItems : List Value → List String
  | [] => []
  | item :: items => display item :: displayItems items

end

/-- A value that may be missing, as it is shown. -/
def displayOption : Option Value → String
  | some value => shownAs "Some" value.display
  | none => "None"

end Value

end SqlAdapter
