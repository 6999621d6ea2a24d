/-
What JSON keeps as a value.

Read as a value and written again, JSON comes back with each integer past signed
64 bits as the double nearest to it, its objects aside (`Json.doubled`): such an integer has no
value of its own, and never becomes null, since the double is finite
(`Binary.isFinite_ofInt`). So JSON comes back as it was unless it has such an integer,
and two documents are read as one value when they differ in nothing else
(`Value.json_kept_iff`).
-/
import SqlAdapter.Proofs.Binary.Order
import SqlAdapter.Proofs.Value.Conversion

namespace SqlAdapter

/-! ## Great integers as doubles -/

namespace Binary

/-- An integer past signed 64 bits is rounded to 53 bits. -/
theorem ofRatio_great {n : Nat} (hlow : 2 ^ 63 ≤ n) (hhigh : n < 2 ^ 64) :
    (ofRatio false n 1 : Binary64) = ofMagnitude false (1085 * 2 ^ 52 + divideToEven n (2 ^ 11)) := by
  have hzero : n ≠ 0 := by omega
  have hlog : n.log2 = 63 := (Nat.log2_eq_iff hzero).mpr ⟨hlow, hhigh⟩
  have hscale : max ((n.log2 : Int) - (1 : Nat).log2 - Format.double.fractionBits - 1)
      Format.double.minExponent = 10 := by
    rw [hlog]
    decide
  have hlong : ¬ n / 2 ^ 10 < 2 ^ 53 := by omega
  rw [ofRatio_of_long false hzero hscale hlong]
  rfl

theorem isFinite_ofInt {i : Int} (hlow : 2 ^ 63 ≤ i) (hhigh : i < 2 ^ 64) :
    (ofInt i : Binary64).isFinite = true := by
  have hsign : decide (i < 0) = false := by
    rw [decide_eq_false_iff_not]
    omega
  rw [ofInt, hsign, ofRatio_great (by omega) (by omega)]
  refine isFinite_ofMagnitude false ?_
  have hround := divideToEven_le i.natAbs (2 ^ 11)
  have hinfinity : Format.double.infinity = 2047 * 2 ^ 52 := rfl
  omega

end Binary

/-! ## Documents with their great integers as doubles -/

namespace Json

mutual

/-- The value with each integer past signed 64 bits as a double, those inside of objects aside. -/
def doubled : Json → Json
  | .number (.integer i inRange) => if i < 2 ^ 63 then .number (.integer i inRange) else .ofBinary64 (Binary.ofInt i)
  | .array items => .array (doubledItems items)
  | v => v

def doubledItems : List Json → List Json
  | [] => []
  | item :: items => doubled item :: doubledItems items

end

end Json

namespace Value

/-- An integer past signed 64 bits is not lost, but becomes a double. -/
theorem ofJson_great {i : Int} (inRange : Json.inIntegerRange i) (h : ¬ i < 2 ^ 63) :
    ofJson (.number (.integer i inRange)) = .double (Binary.ofInt i) := by
  simp only [ofJson, ofNumber, Json.Number.asInt64?, if_neg h]
  rfl

theorem ofJson_ofBinary64 {x : Binary64} (h : x.isFinite = true) : ofJson (.ofBinary64 x) = .double x := by
  rw [Json.ofBinary64, dif_pos h]
  rfl

mutual

theorem toJson_ofJson : ∀ v : Json, (ofJson v).toJson = v.doubled
  | .null | .bool _ | .string _ | .object _ => rfl
  | .number (.float x finite) => dif_pos finite
  | .number (.integer i inRange) => by
    by_cases hi : i < 2 ^ 63
    · have hkept : (ofJson (.number (.integer i inRange))).toJson = .number (.integer i inRange) :=
        (toJson_ofNumber_iff _).mpr (decide_eq_true hi)
      rw [hkept, Json.doubled, if_pos hi]
    · rw [ofJson_great inRange hi, Json.doubled, if_neg hi, toJson]
  | .array items => by rw [ofJson, toJson, Json.doubled, toJsonItems_ofJsonItems items]

theorem toJsonItems_ofJsonItems : ∀ items : List Json, toJsonItems (ofJsonItems items) = Json.doubledItems items
  | [] => rfl
  | item :: items => by
    rw [ofJsonItems, toJsonItems, Json.doubledItems, toJson_ofJson item, toJsonItems_ofJsonItems items]

end

mutual

/-- The doubles are read as the values that the integers are read as. -/
theorem ofJson_doubled : ∀ v : Json, ofJson v.doubled = ofJson v
  | .null | .bool _ | .string _ | .object _ | .number (.float _ _) => rfl
  | .number (.integer i inRange) => by
    by_cases hi : i < 2 ^ 63
    · rw [Json.doubled, if_pos hi]
    · have hfinite : (Binary.ofInt i : Binary64).isFinite = true :=
        Binary.isFinite_ofInt (Int.not_lt.mp hi) inRange.2
      rw [Json.doubled, if_neg hi, ofJson_ofBinary64 hfinite, ofJson_great inRange hi]
  | .array items => by rw [Json.doubled, ofJson, ofJson, ofJsonItems_doubledItems items]

theorem ofJsonItems_doubledItems : ∀ items : List Json, ofJsonItems (Json.doubledItems items) = ofJsonItems items
  | [] => rfl
  | item :: items => by
    rw [Json.doubledItems, ofJsonItems, ofJsonItems, ofJson_doubled item, ofJsonItems_doubledItems items]

end

/-- JSON that was read as a value is written with its integers past signed 64 bits as doubles, those inside of its
objects aside. So it comes back as it was exactly when it has no such integer, and two documents are read as one value
exactly when they differ only in integers that become the same doubles, or are such doubles already. -/
theorem json_kept_iff (v : Json) : (ofJson v).toJson = v.doubled ∧ ((ofJson v).toJson = v ↔ v.fits = true) ∧
    ∀ w, ofJson v = ofJson w ↔ v.doubled = w.doubled := by
  refine ⟨toJson_ofJson v, toJson_ofJson_iff v, fun w => ⟨fun h => ?_, fun h => ?_⟩⟩
  · rw [← toJson_ofJson, h, toJson_ofJson]
  · rw [← ofJson_doubled, h, ofJson_doubled]

end Value

end SqlAdapter
