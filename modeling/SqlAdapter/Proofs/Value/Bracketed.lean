/-
Sequences as bracketed text.

An array without an element type is kept as the JSON text of its items. Casting
the text gives back the same array (`Bracketed.cast_text`) as long as it holds
what JSON can tell apart: NULLs, truth values, integers of 64 bits, texts and
further sequences, no more of them within each other than the reader opens.
-/
import SqlAdapter.Proofs.Json.ReadBack
import SqlAdapter.Value.Cast

namespace SqlAdapter

namespace Value

theorem toJsonItems_eq (items : List Value) : toJsonItems items = items.map toJson := by
  induction items with
  | nil => rfl
  | cons item items ih => rw [toJsonItems, ih, List.map_cons]

theorem ofJsonItems_eq (items : List Json) : ofJsonItems items = items.map ofJson := by
  induction items with
  | nil => rfl
  | cons item items ih => rw [ofJsonItems, ih, List.map_cons]

/-- A value that bracketed text can hold, with at most so many sequences within each other. -/
inductive Bracketed : (depth : Nat) → Value → Prop where
  | null {depth : Nat} : Bracketed depth .null
  | bool {depth : Nat} (b : Bool) : Bracketed depth (.bool b)
  | bigInt {depth : Nat} (i : Int64) : Bracketed depth (.bigInt i)
  | string {depth : Nat} (text : String) : Bracketed depth (.string text)
  | array {depth : Nat} {items : List Value} (h : ∀ item ∈ items, Bracketed depth item) :
    Bracketed (depth + 1) (.array items)

theorem inIntegerRange_toInt (i : Int64) : Json.inIntegerRange i.toInt := by
  have hlow := i.le_toInt
  have hhigh := i.toInt_lt
  exact ⟨hlow, by omega⟩

/-- An integer of 64 bits is one in JSON. -/
theorem toJson_bigInt (i : Int64) :
    (bigInt i).toJson = .number (.integer i.toInt (inIntegerRange_toInt i)) := dif_pos (inIntegerRange_toInt i)

theorem ofJson_bigInt (i : Int64) (h : Json.inIntegerRange i.toInt) :
    ofJson (.number (.integer i.toInt h)) = .bigInt i := by
  simp only [ofJson, ofNumber, Json.Number.asInt64?, if_pos i.toInt_lt, Int64.ofInt_toInt]

theorem head?_arrayText (items : List Value) : (array items).toJson.text.toList.head? = some '[' := by
  rw [toJson, Json.text, String.toList_ofList]
  cases items <;> rfl

namespace Bracketed

variable {depth : Nat} {value : Value}

theorem exact (h : Bracketed depth value) : Json.Exact depth value.toJson := by
  induction h with
  | null => exact .null
  | bool b => exact .bool b
  | bigInt i =>
    rw [toJson_bigInt]
    exact .integer _
  | string text => exact .string text
  | array _ ih =>
    rw [toJson, toJsonItems_eq]
    exact .array (List.forall_mem_map.mpr ih)

/-- JSON loses nothing of the value. -/
theorem ofJson_toJson (h : Bracketed depth value) : ofJson value.toJson = value := by
  induction h with
  | bigInt i => rw [toJson_bigInt, ofJson_bigInt]
  | @array _ items _ ih =>
    have hitems : items.map (ofJson ∘ toJson) = items := (List.map_congr_left ih).trans (List.map_id items)
    rw [toJson, ofJson, toJsonItems_eq, ofJsonItems_eq, List.map_map, hitems]
  | _ => rfl

/-- The text of a sequence, cast as an array without an element type, is the sequence. -/
theorem cast_text {items : List Value} (h : Bracketed Json.Reader.maxDepth (.array items)) :
    AttributeType.untypedArray.cast (.string (Value.array items).toJson.text) = .array items := by
  have hread : Json.read? (Value.array items).toJson.text = some (.array (toJsonItems items)) := h.exact.read?_text
  have hvalue : ofJson (.array (toJsonItems items)) = .array items := h.ofJson_toJson
  have hcast : ∀ text, AttributeType.untypedArray.cast (.string text) = unbracketed (.string text) := fun _ => rfl
  simp only [hcast, unbracketed, head?_arrayText, hread, if_true]
  exact hvalue

end Bracketed

end Value

end SqlAdapter
