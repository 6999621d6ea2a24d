/-
Which values are told apart as keys.

Values built from truth values, integers, texts and arrays have one identity
exactly when they are the same up to the width of their integers
(`Value.Built.identity_eq_iff`). Their JSON has no widths, and is read back as
the value at full width (`Value.Bracketed.ofJson_toJson`); the identity is its text,
which determines it (`Json.Exact.text_inj`).
-/
import SqlAdapter.Proofs.Json.Determined
import SqlAdapter.Proofs.Value.Bracketed

namespace SqlAdapter

namespace Value

mutual

/-- The value with all its integers at 64 bits. -/
def widened : Value → Value
  | .smallInt i => .bigInt i.toInt64
  | .int i => .bigInt i.toInt64
  | .array items => .array (widenedItems items)
  | other => other

def widenedItems : List Value → List Value
  | [] => []
  | item :: items => widened item :: widenedItems items

end

theorem widenedItems_eq (items : List Value) : widenedItems items = items.map widened := by
  induction items with
  | nil => rfl
  | cons item items ih => rw [widenedItems, ih, List.map_cons]

/-- A value built from NULLs, truth values, integers of any width, texts and arrays. -/
inductive Built : Value → Prop where
  | null : Built .null
  | bool (b : Bool) : Built (.bool b)
  | smallInt (i : Int16) : Built (.smallInt i)
  | int (i : Int32) : Built (.int i)
  | bigInt (i : Int64) : Built (.bigInt i)
  | string (text : String) : Built (.string text)
  | array {items : List Value} (h : ∀ item ∈ items, Built item) : Built (.array items)

theorem Bracketed.mono {depth limit : Nat} {v : Value} (h : Bracketed depth v) (hle : depth ≤ limit) :
    Bracketed limit v := by
  induction h generalizing limit with
  | null => exact .null
  | bool b => exact .bool b
  | bigInt i => exact .bigInt i
  | string text => exact .string text
  | array _ ih =>
    obtain ⟨limit, rfl⟩ := Nat.exists_eq_add_one.mpr (Nat.zero_lt_of_lt hle)
    exact .array fun item hitem => ih item hitem (Nat.le_of_succ_le_succ hle)

/-- Finitely many values have a depth together. -/
theorem exists_bracketed {items : List Value} (h : ∀ item ∈ items, ∃ depth, Bracketed depth item) :
    ∃ depth, ∀ item ∈ items, Bracketed depth item := by
  induction items with
  | nil => exact ⟨0, List.forall_mem_nil _⟩
  | cons item items ih =>
    obtain ⟨⟨m, hm⟩, hitems⟩ := List.forall_mem_cons.mp h
    obtain ⟨n, hn⟩ := ih hitems
    refine ⟨max m n, List.forall_mem_cons.mpr ⟨hm.mono (Nat.le_max_left ..), fun other hother => ?_⟩⟩
    exact (hn other hother).mono (Nat.le_max_right ..)

namespace Built

variable {a b v : Value}

/-- At full width a value is one that bracketed text can hold. -/
theorem widened_bracketed (h : Built v) : ∃ depth, Bracketed depth v.widened := by
  induction h with
  | null => exact ⟨0, .null⟩
  | bool b => exact ⟨0, .bool b⟩
  | smallInt i | int i | bigInt i => exact ⟨0, .bigInt _⟩
  | string text => exact ⟨0, .string text⟩
  | @array items _ ih =>
    obtain ⟨depth, hdepth⟩ := exists_bracketed (List.forall_mem_map.mpr ih)
    exact ⟨depth + 1, by rw [widened, widenedItems_eq]; exact .array hdepth⟩

/-- JSON has no widths. -/
theorem toJson_widened (h : Built v) : v.widened.toJson = v.toJson := by
  induction h with
  | smallInt i => simp [widened, toJson]
  | int i => simp [widened, toJson]
  | @array items _ ih =>
    rw [widened, toJson, toJson, toJsonItems_eq, toJsonItems_eq, widenedItems_eq, List.map_map, Json.array.injEq]
    exact List.map_congr_left ih
  | _ => rfl

theorem toJson_eq_iff (ha : Built a) (hb : Built b) : a.toJson = b.toJson ↔ a.widened = b.widened := by
  obtain ⟨m, hm⟩ := ha.widened_bracketed
  obtain ⟨n, hn⟩ := hb.widened_bracketed
  rw [← ha.toJson_widened, ← hb.toJson_widened]
  constructor
  · intro h
    rw [← hm.ofJson_toJson, h, hn.ofJson_toJson]
  · intro h
    rw [h]

theorem toJson_text_eq_iff (ha : Built a) (hb : Built b) : a.toJson.text = b.toJson.text ↔ a.widened = b.widened := by
  obtain ⟨m, hm⟩ := ha.widened_bracketed
  obtain ⟨n, hn⟩ := hb.widened_bracketed
  rw [← toJson_eq_iff ha hb]
  refine ⟨fun h => ?_, congrArg Json.text⟩
  have hma := hm.exact
  have hnb := hn.exact
  rw [ha.toJson_widened] at hma
  rw [hb.toJson_widened] at hnb
  exact hma.text_inj hnb h

/-- What is told apart from a string is everything but this string. -/
theorem widened_eq_string_iff {text : String} : v.widened = .string text ↔ v = .string text := by
  cases v <;> simp [widened]

/-- Values other than NULL have identities, and these are equal exactly when the values are the same up to the width of
their integers. The identity of a text is that of no other value. -/
theorem identity_eq_iff (ha : Built a) (hb : Built b) (hna : a.isNull = false) (hnb : b.isNull = false) :
    a.identityKey? ≠ none ∧ (a.identityKey? = b.identityKey? ↔ a.widened = b.widened) ∧
      ∀ text, a.identityKey? = (Value.string text).identityKey? ↔ a = .string text := by
  have hkey : ∀ {v : Value}, v.isNull = false → v.identityKey? = some v.toJson.text := by
    intro v hv
    rw [identityKey?, hv, if_neg Bool.false_ne_true]
  refine ⟨?_, ?_, fun text => ?_⟩
  · rw [hkey hna]
    exact Option.some_ne_none _
  · rw [hkey hna, hkey hnb, Option.some.injEq]
    exact toJson_text_eq_iff ha hb
  · rw [hkey hna, hkey rfl, Option.some.injEq, toJson_text_eq_iff ha (.string text)]
    exact widened_eq_string_iff

/-- An array with a quote, a NULL and another array in it, its integers at one width. -/
def listed (one : Value) : Value := .array [one, .null, .string "1\"", .array [.bool true]]

theorem built_listed {one : Value} (h : Built one) : Built (listed one) := by
  refine .array ?_
  simp only [List.forall_mem_cons]
  exact ⟨h, .null, .string _, .array (by simpa using Built.bool true), List.forall_mem_nil _⟩

/-- The array is the same key at another width, and is neither another array nor the text of its key. -/
theorem identity_eq_iff_listed :
    (listed (.smallInt 1)).identityKey? = (listed (.bigInt 1)).identityKey? ∧
    (listed (.smallInt 1)).identityKey? ≠ (listed (.string "1")).identityKey? ∧
    (listed (.smallInt 1)).identityKey? ≠ (Value.string "[1,null,\"1\\\"\",[true]]").identityKey? := by
  have hone := built_listed (.smallInt 1)
  refine ⟨(identity_eq_iff hone (built_listed (.bigInt 1)) rfl rfl).2.1.mpr rfl, ?_, ?_⟩
  · rw [ne_eq, (identity_eq_iff hone (built_listed (.string "1")) rfl rfl).2.1]
    simp [listed, widened, widenedItems]
  · rw [ne_eq, (identity_eq_iff hone hone rfl rfl).2.2]
    simp [listed]

end Built

end Value

end SqlAdapter
