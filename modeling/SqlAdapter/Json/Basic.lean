/-
JSON values as the adapter handles them: numbers keep whether they were
written as integers, and objects keep the order of their keys.

`Json.insert` is the rule for a repeated key: it keeps its first place and
takes the last value.
-/
import SqlAdapter.Binary.Basic

namespace SqlAdapter

/-- The whole numbers that JSON numbers hold exactly. -/
def Json.inIntegerRange (i : Int) : Prop := -(2 ^ 63) ≤ i ∧ i < 2 ^ 64

instance (i : Int) : Decidable (Json.inIntegerRange i) := inferInstanceAs (Decidable (_ ∧ _))

/-- A JSON number: an integer within signed or unsigned 64 bits, or a finite double. -/
inductive Json.Number where
  | integer (value : Int) (inRange : Json.inIntegerRange value)
  | float (value : Binary64) (finite : value.isFinite = true)
  deriving DecidableEq

/-- A JSON value. -/
inductive Json where
  | null
  | bool (value : Bool)
  | number (value : Json.Number)
  | string (text : String)
  | array (items : List Json)
  | object (fields : List (String × Json))
  deriving Inhabited

namespace Json

/-- A small whole number as JSON. -/
def ofNat (n : Nat) : Json :=
  if h : inIntegerRange n then .number (.integer n h) else .null

/-- A whole number as JSON; null when it is out of range. -/
def ofInt (i : Int) : Json :=
  if h : inIntegerRange i then .number (.integer i h) else .null

/-- A double as JSON; null when it is not finite. -/
def ofBinary64 (x : Binary64) : Json :=
  if h : x.isFinite = true then .number (.float x h) else .null

namespace Number

/-- The number as a signed 64-bit integer, if it is one. -/
def asInt64? : Number → Option Int
  | .integer i _ => if i < 2 ^ 63 then some i else none
  | .float _ _ => none

/-- The number as an unsigned 64-bit integer, if it is one. -/
def asUInt64? : Number → Option Nat
  | .integer i _ => if 0 ≤ i then some i.toNat else none
  | .float _ _ => none

/-- The number as a double, integers rounded to the nearest one. -/
def asBinary64 : Number → Binary64
  | .integer i _ => Binary.ofInt i
  | .float x _ => x

end Number

mutual

/-- Equality of JSON values, key order included. -/
def eq : Json → Json → Bool
  | .null, .null => true
  | .bool a, .bool b => a == b
  | .number a, .number b => a == b
  | .string a, .string b => a == b
  | .array a, .array b => eqItems a b
  | .object a, .object b => eqFields a b
  | _, _ => false

def eqItems : List Json → List Json → Bool
  | [], [] => true
  | a :: as, b :: bs => eq a b && eqItems as bs
  | _, _ => false

def eqFields : List (String × Json) → List (String × Json) → Bool
  | [], [] => true
  | (k, a) :: as, (l, b) :: bs => k == l && eq a b && eqFields as bs
  | _, _ => false

end

mutual

theorem eq_iff : ∀ a b : Json, eq a b = true ↔ a = b
  | .null, b => by cases b <;> simp [eq]
  | .bool _, b => by cases b <;> simp [eq]
  | .number _, b => by cases b <;> simp [eq]
  | .string _, b => by cases b <;> simp [eq]
  | .array as, b => by cases b <;> simp [eq, eqItems_iff as]
  | .object as, b => by cases b <;> simp [eq, eqFields_iff as]

theorem eqItems_iff : ∀ as bs : List Json, eqItems as bs = true ↔ as = bs
  | [], bs => by cases bs <;> simp [eqItems]
  | a :: as, bs => by cases bs <;> simp [eqItems, eq_iff a, eqItems_iff as]

theorem eqFields_iff : ∀ as bs : List (String × Json), eqFields as bs = true ↔ as = bs
  | [], bs => by cases bs <;> simp [eqFields]
  | (k, a) :: as, bs => by
    cases bs with
    | nil => simp [eqFields]
    | cons b bs =>
      obtain ⟨l, b⟩ := b
      simp [eqFields, eq_iff a, eqFields_iff as]

end

instance : DecidableEq Json := fun a b => decidable_of_iff _ (eq_iff a b)

/-! ## Objects -/

/-- The value of a key in a list of fields. -/
def find? (fields : List (String × Json)) (key : String) : Option Json :=
  (fields.find? (·.1 == key)).map (·.2)

/-- Sets a key: in place where it is present, at the end where it is not. -/
def insert (fields : List (String × Json)) (key : String) (value : Json) : List (String × Json) :=
  if fields.any (·.1 == key) then fields.map fun (k, v) => if k == key then (k, value) else (k, v)
  else fields ++ [(key, value)]

/-- The fields of an object; none for other values. -/
def fields? : Json → Option (List (String × Json))
  | .object fields => some fields
  | _ => none

/-- The items of an array; none for other values. -/
def items? : Json → Option (List Json)
  | .array items => some items
  | _ => none

/-- The text of a string; none for other values. -/
def text? : Json → Option String
  | .string text => some text
  | _ => none

/-- The value of a boolean; none for other values. -/
def bool? : Json → Option Bool
  | .bool value => some value
  | _ => none

mutual

/-- Every object, at any depth, with each repeated key at its first place and with its last value. -/
def distinct : Json → Json
  | .array items => .array (distinctItems items)
  | .object fields => .object (distinctFields fields |>.foldl (fun fs (k, v) => insert fs k v) [])
  | other => other

def distinctItems : List Json → List Json
  | [] => []
  | item :: items => distinct item :: distinctItems items

def distinctFields : List (String × Json) → List (String × Json)
  | [] => []
  | (key, value) :: fields => (key, distinct value) :: distinctFields fields

end

mutual

/-- Every object, at any depth, with its keys in code point order. -/
def sorted : Json → Json
  | .array items => .array (sortedItems items)
  | .object fields => .object ((sortedFields fields).mergeSort fun a b => a.1 ≤ b.1)
  | other => other

def sortedItems : List Json → List Json
  | [] => []
  | item :: items => sorted item :: sortedItems items

def sortedFields : List (String × Json) → List (String × Json)
  | [] => []
  | (key, value) :: fields => (key, sorted value) :: sortedFields fields

end

end Json

end SqlAdapter
