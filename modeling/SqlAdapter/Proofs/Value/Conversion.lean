/-
JSON to values and back.

Read as a value and written again, JSON stays as it is unless a number is an
integer past signed 64 bits: such a number is a double from then on. Objects
are not looked into (`toJson_ofJson_iff`). Cast for a JSON column, a value that
was read from JSON is that JSON again under the same condition, except a string:
its text is read once more (`asJson_ofJson_iff`).
-/
import SqlAdapter.Proofs.Json.Shorter
import SqlAdapter.Value.Cast

namespace SqlAdapter

namespace Json

mutual

/-- Does every integer outside of objects fit into signed 64 bits? -/
def fits : Json → Bool
  | .number (.integer i _) => decide (i < 2 ^ 63)
  | .array items => fitsItems items
  | _ => true

def fitsItems : List Json → Bool
  | [] => true
  | item :: items => fits item && fitsItems items

end

end Json

namespace Value

theorem toJson_ofNumber_iff (n : Json.Number) : (ofNumber n).toJson = .number n ↔ (Json.number n).fits = true := by
  cases n with
  | float x finite =>
    have hkept : (ofNumber (.float x finite)).toJson = .number (.float x finite) := dif_pos finite
    exact iff_of_true hkept rfl
  | integer i inRange =>
    by_cases hi : i < 2 ^ 63
    · have hvalue : ofNumber (.integer i inRange) = .bigInt (Int64.ofInt i) := by
        simp only [ofNumber, Json.Number.asInt64?, if_pos hi]
      have hround : (Int64.ofInt i).toInt = i := Int64.toInt_ofInt_of_le inRange.1 hi
      refine iff_of_true ?_ (decide_eq_true hi)
      rw [hvalue, toJson, hround]
      exact dif_pos inRange
    · have hvalue : ofNumber (.integer i inRange) = .double (Binary.ofInt i) := by
        simp only [ofNumber, Json.Number.asInt64?, if_neg hi]
        rfl
      refine iff_of_false ?_ (fun hfits => hi (of_decide_eq_true hfits))
      rw [hvalue, toJson, Json.ofBinary64]
      split <;> simp

mutual

/-- JSON survives as a value exactly when no integer in it becomes a double. -/
theorem toJson_ofJson_iff : ∀ v : Json, (ofJson v).toJson = v ↔ v.fits = true
  | .null | .bool _ | .string _ | .object _ => by simp [ofJson, toJson, Json.fits]
  | .number n => by rw [ofJson, toJson_ofNumber_iff]
  | .array items => by rw [ofJson, toJson, Json.array.injEq, toJsonItems_ofJsonItems_iff items, Json.fits]

theorem toJsonItems_ofJsonItems_iff : ∀ items : List Json,
    toJsonItems (ofJsonItems items) = items ↔ Json.fitsItems items = true
  | [] => by simp [ofJsonItems, toJsonItems, Json.fitsItems]
  | item :: items => by
    rw [ofJsonItems, toJsonItems, List.cons.injEq, toJson_ofJson_iff item, toJsonItems_ofJsonItems_iff items,
      Json.fitsItems, Bool.and_eq_true]

end

theorem asJson_ofJson_iff (v : Json) : (ofJson v).asJson = .json v ↔ v.text? = none ∧ v.fits = true := by
  have hother : (ofJson v).asJson = .json (ofJson v).toJson → ((ofJson v).asJson = .json v ↔ v.fits = true) := by
    intro h
    rw [h, Value.json.injEq, toJson_ofJson_iff]
  cases v with
  | null | bool b | array items | object fields => simpa [Json.text?] using hother rfl
  | number n =>
    have hnumber : (ofNumber n).asJson = .json (ofNumber n).toJson := by
      rw [ofNumber]
      split <;> rfl
    simpa [Json.text?] using hother hnumber
  | string text =>
    have hne := Json.read?_ne_self text
    simp only [ofJson, asJson, Json.text?]
    cases hread : Json.read? text with
    | none => simp
    | some value =>
      rw [hread, ne_eq, Option.some.injEq] at hne
      simpa using hne

end Value

end SqlAdapter
