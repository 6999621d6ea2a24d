/-
Settings as JSON documents. A group of settings is an object, in which unknown
keys do not matter and no known key may stand twice, or an array of values in
the order of the keys. What is missing takes its default.

The readers here are for one setting each; they refuse every other kind of value.
-/
import SqlAdapter.Json.Basic

namespace SqlAdapter

namespace Json

/-- Does a key stand at most once among the fields? -/
def atMostOnce (fields : List (String × Json)) (key : String) : Bool :=
  (fields.filter (·.1 == key)).length ≤ 1

/-- The values of a group of settings by key. -/
def settings? (keys : List String) : Json → Option (List (String × Json))
  | .object fields => if keys.all (atMostOnce fields) then some fields else none
  | .array items => if items.length ≤ keys.length then some (keys.zip items) else none
  | _ => none

/-- The setting of a key: its default where it is missing. -/
def setting {α : Type} (fields : List (String × Json)) (key : String) (default : α)
    (read : Json → Option α) : Option α :=
  match find? fields key with
  | none => some default
  | some value => read value

/-- A whole number of at most 32 bits. -/
def uint32? : Json → Option UInt32
  | .number n => n.asUInt64?.bind fun n => if n < 2 ^ 32 then some (UInt32.ofNat n) else none
  | _ => none

/-- A whole number of at most 64 bits. -/
def uint64? : Json → Option UInt64
  | .number n => n.asUInt64?.map UInt64.ofNat
  | _ => none

/-- A whole number or null. -/
def optionalUint64? : Json → Option (Option UInt64)
  | .null => some none
  | other => (uint64? other).map some

/-- Any number, as a double. -/
def binary64? : Json → Option Binary64
  | .number n => some n.asBinary64
  | _ => none

/-- One of some words: a string, or an object with the word as its only key and null under it. -/
def word? {α : Type} (words : List (String × α)) : Json → Option α
  | .string text => words.lookup text
  | .object [(key, .null)] => words.lookup key
  | _ => none

end Json

end SqlAdapter
