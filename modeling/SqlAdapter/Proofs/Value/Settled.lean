/-
Casting once and for all.

What a type makes of a value, it leaves as it is. A reader makes something else than
text of a text, or else leaves the text, which it cannot read the second time either
(`settles_readText`). An array is cast item by item, whichever of three forms it came
in (`Lists`), so this goes on to arrays of arrays (`cast_settled`).
-/
import SqlAdapter.Proofs.Value.Bracketed

namespace SqlAdapter

namespace Value

/-- What has been cast once stays as it is. -/
def Settles (f : Value → Value) : Prop := ∀ value, f (f value) = f value

/-! ## Arrays -/

/-- A value that holds an array: the array itself, text that begins with a bracket and reads as one, or JSON. -/
inductive Lists : Value → List Value → Prop where
  | array (items : List Value) : Lists (.array items) items
  | text {text : String} {items : List Json} (hopen : text.toList.head? = some '[')
    (h : Json.read? text = some (.array items)) : Lists (.string text) (items.map ofJson)
  | json (items : List Json) : Lists (.json (.array items)) (items.map ofJson)

theorem ofJson_array (items : List Json) : ofJson (.array items) = .array (items.map ofJson) := by
  rw [ofJson, ofJsonItems_eq]

theorem asArray_of_lists {value : Value} {items : List Value} (h : Lists value items) :
    value.asArray = .array items := by
  cases h with
  | array => rfl
  | text hopen h =>
    rw [asArray, unbracketed, if_pos hopen, h]
    exact ofJson_array _
  | json items => exact ofJson_array items

theorem asArray_of_unlisted {value : Value} (h : ∀ items, ¬ Lists value items) : value.asArray = value := by
  cases value with
  | string text =>
    rw [asArray, unbracketed]
    split
    · next hopen =>
      split
      · next hread => exact absurd (.text hopen hread) (h _)
      · rfl
    · rfl
  | json found =>
    cases found with
    | array items => exact absurd (.json items) (h _)
    | _ => rfl
  | _ => rfl

theorem settles_asArray : Settles asArray := by
  intro value
  by_cases h : ∃ items, Lists value items
  · obtain ⟨items, h⟩ := h
    rw [asArray_of_lists h]
    rfl
  · rw [asArray_of_unlisted (not_exists.mp h), asArray_of_unlisted (not_exists.mp h)]

/-! ## Readers -/

/-- What is made of a value if it can be: the value stays, or becomes one that stays. -/
theorem settled_of_getD {f : Value → Value} {value : Value} {made : Option Value} (hvalue : f value = made.getD value)
    (h : ∀ found, made = some found → f found = found) : f (f value) = f value := by
  cases made with
  | none =>
    rw [Option.getD_none] at hvalue
    rw [hvalue, hvalue]
  | some found =>
    rw [Option.getD_some] at hvalue
    rw [hvalue]
    exact h found rfl

theorem settled_of_map {α : Type} {f : Value → Value} {value : Value} {made : Option α} {make : α → Value}
    (hvalue : f value = (made.map make).getD value) (h : ∀ a, f (make a) = make a) : f (f value) = f value := by
  refine settled_of_getD hvalue fun found hfound => ?_
  obtain ⟨a, -, rfl⟩ := Option.map_eq_some_iff.mp hfound
  exact h a

/-- A reader that makes no text of a text has no second turn. -/
theorem settles_readText {read : List Char → Option Value} (h : ∀ cs text, read cs ≠ some (.string text)) :
    Settles (·.readText read) := by
  intro value
  cases value with
  | string text =>
    refine settled_of_getD (f := (·.readText read)) rfl fun found hfound => ?_
    cases found with
    | string other => exact absurd hfound (h _ _)
    | _ => rfl
  | _ => rfl

theorem settles_readText_map {α : Type} (read : List Char → Option α) (make : α → Value)
    (h : ∀ a text, make a ≠ .string text) : Settles (·.readText fun cs => (read cs).map make) := by
  refine settles_readText fun cs text hread => ?_
  obtain ⟨a, -, ha⟩ := Option.map_eq_some_iff.mp hread
  exact h a text ha

theorem settles_bigInt : Settles (·.readText bigInt?) := by
  refine settles_readText fun cs text hread => ?_
  obtain ⟨i, -, hi⟩ := Option.bind_eq_some_iff.mp hread
  split at hi <;> cases hi

theorem settles_asBool : Settles asBool := by
  intro value
  cases value with
  | string word => exact settled_of_map (f := asBool) rfl fun _ => rfl
  | _ => rfl

theorem settles_asDecimal : Settles asDecimal := by
  intro value
  cases value with
  | string text => exact settled_of_map (f := asDecimal) rfl fun _ => rfl
  | bigInt i => exact settled_of_map (f := asDecimal) rfl fun _ => rfl
  | int i => exact settled_of_map (f := asDecimal) rfl fun _ => rfl
  | double x => exact settled_of_map (f := asDecimal) rfl fun _ => rfl
  | _ => rfl

/-- Anything becomes JSON but for a text that is none; and JSON stays. -/
theorem settles_asJson : Settles asJson := by
  intro value
  cases value with
  | string text => exact settled_of_map (f := asJson) rfl fun _ => rfl
  | _ => rfl

theorem asJson_ne_null (value : Value) : value.asJson ≠ .null := by
  cases value with
  | string text => cases hread : Json.read? text <;> simp [asJson, hread]
  | _ => simp [asJson]

end Value

namespace AttributeType

open Value

theorem cast_null (type : AttributeType) : type.cast .null = .null := by
  cases type <;> rfl

theorem cast_array (element : AttributeType) (value : Value) : (array element).cast value =
    match value.asArray with
    | .array items => .array (items.map element.cast)
    | other => other := by
  cases value <;> rfl

theorem settles_of_eq {type : AttributeType} {f : Value → Value} (hf : ∀ value, type.cast value = f value)
    (h : Settles f) : Settles type.cast := by
  intro value
  rw [hf, hf]
  exact h value

/-- For a JSON column NULL stays out of the JSON. -/
theorem settles_of_json {type : AttributeType} (hnull : type.cast .null = .null)
    (hf : ∀ value, value ≠ .null → type.cast value = value.asJson) : Settles type.cast := by
  intro value
  by_cases hvalue : value = .null
  · rw [hvalue, hnull, hnull]
  · rw [hf value hvalue, hf _ (asJson_ne_null value), settles_asJson]

theorem cast_lists {element : AttributeType} {value : Value} {items : List Value} (h : Lists value items) :
    (array element).cast value = .array (items.map element.cast) := by
  rw [cast_array, asArray_of_lists h]

/-- A value that holds no array is cast as itself. -/
theorem cast_unlisted {element : AttributeType} {value : Value} (h : ∀ items, ¬ Lists value items) :
    (array element).cast value = value := by
  rw [cast_array, asArray_of_unlisted h]
  split
  · next items => exact absurd (.array items) (h items)
  · rfl

theorem settles_array {element : AttributeType} (h : Settles element.cast) : Settles (array element).cast := by
  intro value
  by_cases hvalue : ∃ items, Lists value items
  · obtain ⟨items, hitems⟩ := hvalue
    have htwice : element.cast ∘ element.cast = element.cast := funext h
    rw [cast_lists hitems, cast_lists (.array _), List.map_map, htwice]
  · rw [cast_unlisted (not_exists.mp hvalue), cast_unlisted (not_exists.mp hvalue)]

theorem settles_read {type : AttributeType} {α : Type} (read : List Char → Option α) (make : α → Value)
    (hf : ∀ value, type.cast value = value.readText fun cs => (read cs).map make)
    (h : ∀ a text, make a ≠ .string text) : Settles type.cast :=
  settles_of_eq hf (settles_readText_map read make h)

/-- By induction on the type: only arrays are of other types. -/
theorem settles_cast (type : AttributeType) : Settles type.cast := by
  induction type with
  | array element ih => exact settles_array ih
  | untypedArray => exact settles_of_eq (fun value => by cases value <;> rfl) settles_asArray
  | boolean => exact settles_of_eq (fun value => by cases value <;> rfl) settles_asBool
  | integer | bigInteger | smallInteger => exact settles_of_eq (fun value => by cases value <;> rfl) settles_bigInt
  | decimal => exact settles_of_eq (fun value => by cases value <;> rfl) settles_asDecimal
  | float | double => exact settles_read Binary.read? .double (fun value => by cases value <;> rfl) (by simp)
  | date => exact settles_read Date.read? .date (fun value => by cases value <;> rfl) (by simp)
  | time => exact settles_read Time.read? .time (fun value => by cases value <;> rfl) (by simp)
  | dateTime => exact settles_read Moment.read? .timestampTz (fun value => by cases value <;> rfl) (by simp)
  | timestamp => exact settles_read Timestamp.read? .timestamp (fun value => by cases value <;> rfl) (by simp)
  | uuid => exact settles_read Uuid.read? .uuid (fun value => by cases value <;> rfl) (by simp)
  | binary => exact settles_read bytes? .bytes (fun value => by cases value <;> rfl) (by simp)
  | json | jsonb =>
    refine settles_of_json rfl fun value hvalue => ?_
    cases value with
    | null => exact absurd rfl hvalue
    | _ => rfl
  | string | text | enum _ | raw _ | unknown _ =>
    exact settles_of_eq (f := id) (fun value => by cases value <;> rfl) fun _ => rfl

/-- Casting twice is casting once, NULL stays NULL whatever it is cast as, and a value becomes an array just when it
holds one, and then its items are those of the one it holds, each of them cast. -/
theorem cast_settled (type : AttributeType) (value : Value) :
    type.cast (type.cast value) = type.cast value ∧ type.cast .null = .null ∧
    ∀ items, (array type).cast value = .array items ↔
      ∃ listed, Lists value listed ∧ items = listed.map type.cast := by
  refine ⟨settles_cast type value, cast_null type, fun items => ⟨fun h => ?_, ?_⟩⟩
  · by_cases hvalue : ∃ listed, Lists value listed
    · obtain ⟨listed, hlisted⟩ := hvalue
      rw [cast_lists hlisted] at h
      exact ⟨listed, hlisted, (Value.array.inj h).symm⟩
    · rw [cast_unlisted (not_exists.mp hvalue)] at h
      exact absurd (h ▸ .array items) (not_exists.mp hvalue items)
  · rintro ⟨listed, hlisted, rfl⟩
    exact cast_lists hlisted

end AttributeType

end SqlAdapter
