/-
Filters in documents mean what they say.

A filter is the fields of a JSON object, and its truth is a matter of their
structure alone (`Filter.truth`): all keys hold, a key that branches holds when
all or some of its branches do, every other key compares a field. The reader
takes shortcuts on the way, where there are no parts or one, and
`Filter.verdicts_ofFields` says that none of them changes the truth, at any
depth. `Filter.Faulty` is what a filter is refused for, wherever it stands in it.

`Criteria.filter_means` is about whole documents: the filter may stand under its
own key or among the others.
-/
import SqlAdapter.Criteria.Reader
import SqlAdapter.Proofs.Condition.Reading
import SqlAdapter.Proofs.Result

namespace SqlAdapter

/-- Truth values for the comparisons of fields. -/
abbrev Assignment := String → Operator → Value → Truth

/-! ## What predicates mean -/

namespace Predicate

mutual

/-- The truth of a predicate, given that of its comparisons. -/
def verdict (assignment : Assignment) : Predicate → Truth
  | .compare field op value => assignment field op value
  | .all parts => .all (verdicts assignment parts)
  | .any parts => .any (verdicts assignment parts)
  | .not inner => (verdict assignment inner).not

def verdicts (assignment : Assignment) : List Predicate → List Truth
  | [] => []
  | part :: parts => verdict assignment part :: verdicts assignment parts

end

theorem verdicts_eq_map (assignment : Assignment) (ps : List Predicate) :
    verdicts assignment ps = ps.map (verdict assignment) := by
  induction ps with
  | nil => rfl
  | cons p ps ih => rw [verdicts, ih, List.map_cons]

/-- Several predicates that must hold are as true as all of them, one alone included. -/
theorem verdict_allOf (assignment : Assignment) (ps : List Predicate) :
    verdict assignment (allOf ps) = .all (verdicts assignment ps) := by
  unfold allOf
  split
  · rw [verdicts, verdicts, Truth.all, Truth.all, Truth.and_true]
  · rw [verdict]

end Predicate

/-! ## What filters mean -/

/-- A filter: the fields of an object, all of which must hold. -/
abbrev Filter := List (String × Json)

namespace Filter

/-- What compares with its operand. -/
def compared (op : Operator) (operand : Json) : Option (Operator × Value) := some (op, Value.ofJson operand)

/-- What says that a field is not its operand: not absent, not among an array, not equal to a value. -/
def denied : Json → Option (Operator × Value)
  | .null => some (.isNotNull, .null)
  | .array items => some (.notAmong, Value.ofJson (.array items))
  | other => some (.compare .ne, Value.ofJson other)

/-- What searches for a text, with what may stand before and after it. -/
def searched (before after : String) (operand : Json) : Option (Operator × Value) :=
  operand.text?.map fun text => (.compare .ilike, .string (before ++ text ++ after))

/-- The modifiers, each with the comparison that it makes with its operand. -/
def modifiers : List (String × (Json → Option (Operator × Value))) :=
  [("<", compared (.compare .lt)), ("lessThan", compared (.compare .lt)),
    ("<=", compared (.compare .lte)), ("lessThanOrEqual", compared (.compare .lte)),
    (">", compared (.compare .gt)), ("greaterThan", compared (.compare .gt)),
    (">=", compared (.compare .gte)), ("greaterThanOrEqual", compared (.compare .gte)),
    ("!", denied), ("not", denied), ("!=", denied), ("like", compared (.compare .like)),
    ("contains", searched "%" "%"), ("startsWith", searched "" "%"), ("endsWith", searched "%" ""),
    ("in", compared .among), ("nin", compared .notAmong)]

/-- The modifiers that search for a text. -/
def searching : List String := ["contains", "startsWith", "endsWith"]

/-- The comparison that a modifier makes with its operand, if it makes one. -/
def asked? (modifier : String) (operand : Json) : Option (Operator × Value) :=
  (modifiers.lookup modifier).bind fun ask => ask operand

/-- The truth of a modifier of a field. -/
def modifierTruth (assignment : Assignment) (field : String) (modifier : String × Json) : Truth :=
  match asked? modifier.1 modifier.2 with
  | some (op, value) => assignment field op value
  | none => .unknown

/-- The truth of what a field is compared with: an array that it is among, an object of modifiers, or a value that it
equals. -/
def fieldTruth (assignment : Assignment) (field : String) : Json → Truth
  | .array items => assignment field .among (Value.ofJson (.array items))
  | .object modifiers => .all (modifiers.map (modifierTruth assignment field))
  | scalar => assignment field (.compare .eq) (Value.ofJson scalar)

mutual

/-- The truth of each key of a filter. -/
def truths (assignment : Assignment) : Filter → List Truth
  | [] => []
  | (key, value) :: fields => keyTruth assignment key value :: truths assignment fields

/-- The truth of a key: two of them branch, and all others are fields. -/
def keyTruth (assignment : Assignment) (key : String) : Json → Truth
  | .array branches =>
    if key = "or" then .any (branchTruths assignment branches)
    else if key = "and" then .all (branchTruths assignment branches)
    else fieldTruth assignment key (.array branches)
  | value => fieldTruth assignment key value

/-- The truth of each branch. -/
def branchTruths (assignment : Assignment) : List Json → List Truth
  | [] => []
  | .object fields :: branches => .all (truths assignment fields) :: branchTruths assignment branches
  | _ :: branches => branchTruths assignment branches

end

/-- The truth of a filter: all keys must hold. -/
def truth (assignment : Assignment) (filter : Filter) : Truth := .all (truths assignment filter)

/-! ## Modifiers -/

/-- The predicate of a comparison, or a failure where there is none. -/
def Asks (field : String) (x : Result Predicate) : Option (Operator × Value) → Prop
  | some (op, value) => x = .ok (.compare field op value)
  | none => Result.Fails x

theorem ofModifier_asks (field modifier : String) (operand : Json) :
    Asks field (Predicate.ofModifier field modifier operand) (asked? modifier operand) := by
  unfold Predicate.ofModifier
  split
  case h_9 | h_10 | h_11 => cases operand <;> rfl
  case h_13 | h_14 | h_15 => cases operand <;> first | rfl | exact Result.fails_error _
  case h_18 =>
    have hnone : modifiers.lookup modifier = none := by
      rw [List.lookup_eq_none_iff]
      simp_all [modifiers]
    rw [asked?, hnone]
    exact Result.fails_error _
  all_goals rfl

theorem modifiers_none : ∀ entry ∈ modifiers, ∀ operand,
    entry.2 operand = none ↔ entry.1 ∈ searching ∧ operand.text? = none := by
  have hdenied : ∀ operand, denied operand ≠ none := by
    intro operand
    cases operand <;> simp [denied]
  simp [modifiers, searching, compared, searched, hdenied]

/-- A modifier makes no comparison when it is unknown, or when it is to search for something that is no text. -/
theorem asked?_none_iff {modifier : String} {operand : Json} : asked? modifier operand = none ↔
    modifier ∉ modifiers.map (·.1) ∨ modifier ∈ searching ∧ operand.text? = none := by
  rw [asked?]
  cases hask : modifiers.lookup modifier with
  | none =>
    refine iff_of_true rfl (.inl fun hmem => ?_)
    obtain ⟨entry, hentry, rfl⟩ := List.mem_map.mp hmem
    simpa using List.lookup_eq_none_iff.mp hask entry hentry
  | some ask =>
    obtain ⟨before, after, htable, -⟩ := List.lookup_eq_some_iff.mp hask
    have hentry : (modifier, ask) ∈ modifiers := by simp [htable]
    have hknown : modifier ∈ modifiers.map (·.1) := List.mem_map_of_mem hentry
    rw [Option.bind_some, modifiers_none _ hentry, or_iff_right (not_not.mpr hknown)]

theorem asks_fails_iff {field : String} {x : Result Predicate} {asked : Option (Operator × Value)}
    (h : Asks field x asked) : Result.Fails x ↔ asked = none := by
  cases asked with
  | none => exact iff_of_true h rfl
  | some comparison =>
    rw [Asks] at h
    rw [h]
    exact iff_of_false (Result.not_fails_ok _) nofun

/-! ## Reading a filter -/

section Truth

variable {assignment : Assignment}

theorem verdict_ofModifier {field : String} {modifier : String × Json} {p : Predicate}
    (h : Predicate.ofModifier field modifier.1 modifier.2 = .ok p) :
    p.verdict assignment = modifierTruth assignment field modifier := by
  have hasks := ofModifier_asks field modifier.1 modifier.2
  rw [modifierTruth]
  cases hasked : asked? modifier.1 modifier.2 with
  | none =>
    rw [hasked, Asks, h] at hasks
    exact absurd hasks (Result.not_fails_ok p)
  | some comparison =>
    rw [hasked, Asks, h] at hasks
    cases hasks
    rfl

theorem verdict_ofField {field : String} {value : Json} {p : Predicate} (h : Predicate.ofField field value = .ok p) :
    p.verdict assignment = fieldTruth assignment field value := by
  cases value with
  | object entries =>
    rw [Predicate.ofField, Result.bind_ok_iff] at h
    obtain ⟨ps, hps, h⟩ := h
    rw [← Result.pure_ok_iff.mp h, Predicate.verdict_allOf, Predicate.verdicts_eq_map, fieldTruth]
    congr 1
    exact (Result.forall₂_map_iff.mp ((Result.mapM_ok hps).imp fun entry p hp => (verdict_ofModifier hp).symm)).symm
  | null | bool | number | string | array =>
    cases h
    rfl

/-- A value that is no array is what a field is compared with. -/
theorem ofEntry_plain {key : String} {value : Json} (hvalue : value.items? = none) :
    Predicate.ofEntry key value =
      if key = "or" ∨ key = "and" then .error (.branchesShape key) else Predicate.ofField key value := by
  cases value <;> first | rfl | cases hvalue

theorem verdict_plain {key : String} {value : Json} {p : Predicate} (hvalue : value.items? = none)
    (h : Predicate.ofEntry key value = .ok p) : p.verdict assignment = keyTruth assignment key value := by
  have hplain : keyTruth assignment key value = fieldTruth assignment key value := by
    cases value <;> first | rfl | cases hvalue
  rw [ofEntry_plain hvalue] at h
  split at h
  · cases h
  · rw [hplain, verdict_ofField h]

mutual

/-- The parts that are read from a filter are as true as its keys. -/
theorem verdicts_ofFields : ∀ {filter : Filter} {ps : List Predicate}, Predicate.ofFields filter = .ok ps →
    Predicate.verdicts assignment ps = truths assignment filter
  | [], ps, h => by
    cases h
    rfl
  | (key, value) :: fields, ps, h => by
    rw [Predicate.ofFields, Result.bind_ok_iff] at h
    obtain ⟨first, hfirst, h⟩ := h
    obtain ⟨rest, hrest, h⟩ := Result.bind_ok_iff.mp h
    rw [← Result.pure_ok_iff.mp h, Predicate.verdicts, truths, verdict_ofEntry hfirst, verdicts_ofFields hrest]

theorem verdict_ofEntry {key : String} : ∀ {value : Json} {p : Predicate}, Predicate.ofEntry key value = .ok p →
    p.verdict assignment = keyTruth assignment key value
  | .array branches, p, h => by
    rw [Predicate.ofEntry] at h
    rw [keyTruth]
    split at h
    · next hor =>
      obtain ⟨parts, hparts, rfl⟩ := Result.map_ok_iff.mp h
      rw [if_pos hor, Predicate.verdict, verdicts_ofBranches hparts]
    · next hor =>
      rw [if_neg hor]
      split at h
      · next hand =>
        obtain ⟨parts, hparts, rfl⟩ := Result.map_ok_iff.mp h
        rw [if_pos hand, Predicate.verdict, verdicts_ofBranches hparts]
      · next hand =>
        rw [if_neg hand]
        exact verdict_ofField h
  | .null, _, h | .bool _, _, h | .number _, _, h | .string _, _, h | .object _, _, h => verdict_plain rfl h

/-- The branches that are read are as true as they are written, an empty one being true. -/
theorem verdicts_ofBranches {key : String} : ∀ {branches : List Json} {ps : List Predicate},
    Predicate.ofBranches key branches = .ok ps → Predicate.verdicts assignment ps = branchTruths assignment branches
  | [], ps, h => by
    cases h
    rfl
  | .object fields :: branches, ps, h => by
    rw [Predicate.ofBranches, Result.bind_ok_iff] at h
    obtain ⟨parts, hparts, h⟩ := h
    obtain ⟨rest, hrest, h⟩ := Result.bind_ok_iff.mp h
    rw [← Result.pure_ok_iff.mp h, Predicate.verdicts, branchTruths, Predicate.verdict_allOf,
      verdicts_ofFields hparts, verdicts_ofBranches hrest]
  | .null :: _, ps, h | .bool _ :: _, ps, h | .number _ :: _, ps, h | .string _ :: _, ps, h | .array _ :: _, ps, h => by
    cases h

end

end Truth

/-! ## What a filter is refused for -/

/-- A key that takes branches instead of naming a field. -/
def Branches (key : String) : Prop := key = "or" ∨ key = "and"

instance (key : String) : Decidable (Branches key) := inferInstanceAs (Decidable (_ ∨ _))

/-- Something in a filter cannot be read: branches that are no array, a branch that is no object, a modifier that there is
not, or one that searches for something that is no text. It may stand in a branch, at any depth. -/
inductive Faulty : Filter → Prop where
  | branches {filter : Filter} {key : String} {value : Json} (hkey : Branches key) (hmem : (key, value) ∈ filter)
      (hvalue : value.items? = none) : Faulty filter
  | branch {filter : Filter} {key : String} {items : List Json} {value : Json} (hkey : Branches key)
      (hmem : (key, .array items) ∈ filter) (hitem : value ∈ items) (hvalue : value.fields? = none) : Faulty filter
  | inner {filter inner : Filter} {key : String} {items : List Json} (hkey : Branches key)
      (hmem : (key, .array items) ∈ filter) (hitem : .object inner ∈ items) (hinner : Faulty inner) : Faulty filter
  | modifier {filter entries : Filter} {field modifier : String} {operand : Json} (hfield : ¬ Branches field)
      (hmem : (field, .object entries) ∈ filter) (hentry : (modifier, operand) ∈ entries)
      (hunknown : modifier ∉ modifiers.map (·.1)) : Faulty filter
  | operand {filter entries : Filter} {field modifier : String} {operand : Json} (hfield : ¬ Branches field)
      (hmem : (field, .object entries) ∈ filter) (hentry : (modifier, operand) ∈ entries)
      (hsearching : modifier ∈ searching) (htext : operand.text? = none) : Faulty filter

theorem Faulty.mono {filter more : Filter} (h : Faulty filter) (hsub : filter ⊆ more) : Faulty more := by
  cases h with
  | branches hkey hmem hvalue => exact .branches hkey (hsub hmem) hvalue
  | branch hkey hmem hitem hvalue => exact .branch hkey (hsub hmem) hitem hvalue
  | inner hkey hmem hitem hinner => exact .inner hkey (hsub hmem) hitem hinner
  | modifier hfield hmem hentry hunknown => exact .modifier hfield (hsub hmem) hentry hunknown
  | operand hfield hmem hentry hsearching htext => exact .operand hfield (hsub hmem) hentry hsearching htext

theorem ofField_fails_iff {field : String} {value : Json} : Result.Fails (Predicate.ofField field value) ↔
    ∃ entries, value = .object entries ∧ ∃ entry ∈ entries, asked? entry.1 entry.2 = none := by
  cases value with
  | object entries =>
    rw [Predicate.ofField, Result.fails_bind_pure_iff, Result.fails_mapM_iff]
    simp only [Json.object.injEq, exists_eq_left', asks_fails_iff (ofModifier_asks _ _ _)]
  | null | bool | number | string | array => exact iff_of_false (Result.not_fails_ok _) (by simp)

theorem ofEntry_branches {key : String} {items : List Json} (hkey : Branches key) :
    Result.Fails (Predicate.ofEntry key (.array items)) ↔ Result.Fails (Predicate.ofBranches key items) := by
  rw [Predicate.ofEntry]
  rcases hkey with rfl | rfl <;> simp [Result.fails_map_iff]

theorem ofEntry_field {key : String} {value : Json} (hkey : ¬ Branches key) :
    Predicate.ofEntry key value = Predicate.ofField key value := by
  obtain ⟨hor, hand⟩ := not_or.mp hkey
  cases value with
  | array items => rw [Predicate.ofEntry, if_neg hor, if_neg hand]
  | null | bool | number | string | object => exact (ofEntry_plain rfl).trans (if_neg hkey)

theorem ofFields_fails_iff {filter : Filter} : Result.Fails (Predicate.ofFields filter) ↔
    ∃ entry ∈ filter, Result.Fails (Predicate.ofEntry entry.1 entry.2) := by
  have hmapM : Predicate.ofFields filter = filter.mapM fun entry => Predicate.ofEntry entry.1 entry.2 := by
    induction filter with
    | nil => rfl
    | cons entry fields ih => rw [Predicate.ofFields, ih, List.mapM_cons]
  rw [hmapM, Result.fails_mapM_iff]

/-- What one branch asks for. -/
def ofBranch (key : String) (branch : Json) : Result Predicate :=
  match branch.fields? with
  | some fields => do return Predicate.allOf (← Predicate.ofFields fields)
  | none => .error (.branchShape key)

theorem ofBranch_fails_iff {key : String} {branch : Json} : Result.Fails (ofBranch key branch) ↔
    branch.fields? = none ∨ ∃ inner, branch = .object inner ∧ Result.Fails (Predicate.ofFields inner) := by
  cases branch with
  | object fields =>
    rw [ofBranch, Json.fields?, Result.fails_bind_pure_iff]
    simp
  | null | bool | number | string | array => exact iff_of_true (Result.fails_error _) (.inl rfl)

theorem ofBranches_fails_iff {key : String} {items : List Json} : Result.Fails (Predicate.ofBranches key items) ↔
    ∃ item ∈ items, Result.Fails (ofBranch key item) := by
  have hmapM : Predicate.ofBranches key items = items.mapM (ofBranch key) := by
    induction items with
    | nil => rfl
    | cons item items ih =>
      rw [List.mapM_cons, ← ih]
      cases item with
      | object fields =>
        have hobject : ofBranch key (.object fields) =
            (Predicate.ofFields fields >>= fun parts => pure (Predicate.allOf parts)) := rfl
        rw [Predicate.ofBranches, hobject, bind_assoc]
        rfl
      | null | bool | number | string | array => rfl
  rw [hmapM, Result.fails_mapM_iff]

/-- What is at fault in a filter makes its reader fail. -/
theorem Faulty.fails {filter : Filter} (h : Faulty filter) : Result.Fails (Predicate.ofFields filter) := by
  rw [ofFields_fails_iff]
  induction h with
  | branches hkey hmem hvalue => exact ⟨_, hmem, _, (ofEntry_plain hvalue).trans (if_pos hkey)⟩
  | branch hkey hmem hitem hvalue =>
    refine ⟨_, hmem, (ofEntry_branches hkey).mpr (ofBranches_fails_iff.mpr ⟨_, hitem, ?_⟩)⟩
    exact ofBranch_fails_iff.mpr (.inl hvalue)
  | inner hkey hmem hitem _ ih =>
    refine ⟨_, hmem, (ofEntry_branches hkey).mpr (ofBranches_fails_iff.mpr ⟨_, hitem, ?_⟩)⟩
    exact ofBranch_fails_iff.mpr (.inr ⟨_, rfl, ofFields_fails_iff.mpr ih⟩)
  | modifier hfield hmem hentry hunknown =>
    refine ⟨_, hmem, ?_⟩
    rw [ofEntry_field hfield]
    exact ofField_fails_iff.mpr ⟨_, rfl, _, hentry, asked?_none_iff.mpr (.inl hunknown)⟩
  | operand hfield hmem hentry hsearching htext =>
    refine ⟨_, hmem, ?_⟩
    rw [ofEntry_field hfield]
    exact ofField_fails_iff.mpr ⟨_, rfl, _, hentry, asked?_none_iff.mpr (.inr ⟨hsearching, htext⟩)⟩

theorem faulty_of_field {field : String} {value : Json} (hfield : ¬ Branches field)
    (h : Result.Fails (Predicate.ofField field value)) : Faulty [(field, value)] := by
  obtain ⟨entries, rfl, entry, hentry, hnone⟩ := ofField_fails_iff.mp h
  rcases asked?_none_iff.mp hnone with hunknown | ⟨hsearching, htext⟩
  · exact .modifier hfield (.head _) hentry hunknown
  · exact .operand hfield (.head _) hentry hsearching htext

theorem faulty_of_plain {key : String} {value : Json} (hvalue : value.items? = none)
    (h : Result.Fails (Predicate.ofEntry key value)) : Faulty [(key, value)] := by
  by_cases hkey : Branches key
  · exact .branches hkey (.head _) hvalue
  · exact faulty_of_field hkey (ofEntry_field hkey ▸ h)

mutual

/-- A filter whose reader fails is at fault. -/
theorem faulty_of_fields : ∀ {filter : Filter}, Result.Fails (Predicate.ofFields filter) → Faulty filter
  | [], h => absurd h (Result.not_fails_ok [])
  | (key, value) :: fields, h => by
    obtain ⟨entry, hentry, hfails⟩ := ofFields_fails_iff.mp h
    rcases List.mem_cons.mp hentry with rfl | hentry
    · exact (faulty_of_entry hfails).mono (by simp)
    · exact (faulty_of_fields (ofFields_fails_iff.mpr ⟨entry, hentry, hfails⟩)).mono (List.subset_cons_self _ _)

theorem faulty_of_entry {key : String} : ∀ {value : Json},
    Result.Fails (Predicate.ofEntry key value) → Faulty [(key, value)]
  | .array items, h => by
    by_cases hkey : Branches key
    · obtain ⟨item, hitem, hnone | ⟨inner, rfl, hinner⟩⟩ :=
        faulty_of_branches ((ofEntry_branches hkey).mp h)
      · exact .branch hkey (.head _) hitem hnone
      · exact .inner hkey (.head _) hitem hinner
    · exact faulty_of_field hkey (ofEntry_field hkey ▸ h)
  | .null, h | .bool _, h | .number _, h | .string _, h | .object _, h => faulty_of_plain rfl h

theorem faulty_of_branches {key : String} : ∀ {items : List Json}, Result.Fails (Predicate.ofBranches key items) →
    ∃ item ∈ items, item.fields? = none ∨ ∃ inner, item = .object inner ∧ Faulty inner
  | [], h => absurd h (Result.not_fails_ok [])
  | .object fields :: items, h => by
    obtain ⟨item, hitem, hfails⟩ := ofBranches_fails_iff.mp h
    rcases List.mem_cons.mp hitem with rfl | hitem
    · rcases ofBranch_fails_iff.mp hfails with hnone | ⟨_, heq, hinner⟩
      · cases hnone
      · cases heq
        exact ⟨_, .head _, .inr ⟨fields, rfl, faulty_of_fields hinner⟩⟩
    · obtain ⟨item, hitem, hfaulty⟩ := faulty_of_branches (ofBranches_fails_iff.mpr ⟨item, hitem, hfails⟩)
      exact ⟨item, .tail _ hitem, hfaulty⟩
  | .null :: _, _ | .bool _ :: _, _ | .number _ :: _, _ | .string _ :: _, _ | .array _ :: _, _ =>
    ⟨_, .head _, .inl rfl⟩

end

theorem ofFields_faulty_iff {filter : Filter} : Result.Fails (Predicate.ofFields filter) ↔ Faulty filter :=
  ⟨faulty_of_fields, Faulty.fails⟩

end Filter

/-! ## Documents -/

namespace Predicate

theorem verdict_ofFilter? {assignment : Assignment} {filter : Filter} {p : Option Predicate}
    (h : ofFilter? filter = .ok p) : (p.map (verdict assignment)).getD .true = Filter.truth assignment filter := by
  rw [ofFilter?, Result.bind_ok_iff] at h
  obtain ⟨parts, hparts, h⟩ := h
  rw [Filter.truth, ← Filter.verdicts_ofFields hparts]
  split at h
  · rw [← Result.pure_ok_iff.mp h]
    rfl
  · rw [← Result.pure_ok_iff.mp h, Option.map_some, Option.getD_some, verdict_allOf]

theorem ofFilter?_fails_iff {filter : Filter} : Result.Fails (ofFilter? filter) ↔ filter.Faulty := by
  rw [ofFilter?, ← Filter.ofFields_faulty_iff]
  refine (Result.fails_bind_or_iff fun parts => ?_).trans (or_iff_left not_false)
  split <;> exact iff_false_intro (Result.not_fails_ok _)

end Predicate

namespace Criteria

/-- The keys of a document that are not reserved. -/
def unreserved (fields : Filter) : Filter := fields.filter fun (key, _) => !reserved.contains key

/-- The filter of a document: what stands under its key, which may be null for no filter, and without that key all that
is not reserved. -/
inductive FilterOf (fields : Filter) : Filter → Prop where
  | own {filter : Filter} (h : Json.find? fields "where" = some (.object filter)) : FilterOf fields filter
  | nothing (h : Json.find? fields "where" = some .null) : FilterOf fields []
  | spread (h : Json.find? fields "where" = none) : FilterOf fields (unreserved fields)

/-- The filter of a document cannot be read: it is neither an object nor null, or something in it is at fault. -/
inductive Refused (fields : Filter) : Prop where
  | shape {found : Json} (h : Json.find? fields "where" = some found) (hnull : found ≠ .null)
      (hobject : found.fields? = none)
  | faulty {filter : Filter} (h : FilterOf fields filter) (hfaulty : filter.Faulty)

theorem FilterOf.predicateOf_eq {fields filter : Filter} (h : FilterOf fields filter) :
    predicateOf fields = Predicate.ofFilter? filter := by
  cases h with
  | own h => rw [predicateOf, h]
  | nothing h | spread h =>
    rw [predicateOf, h]
    rfl

theorem filterOf_or_refused (fields : Filter) : (∃ filter, FilterOf fields filter) ∨
    ∃ found, Json.find? fields "where" = some found ∧ found ≠ .null ∧ found.fields? = none := by
  cases hwhere : Json.find? fields "where" with
  | none => exact .inl ⟨_, .spread hwhere⟩
  | some found =>
    cases found with
    | null => exact .inl ⟨_, .nothing hwhere⟩
    | object filter => exact .inl ⟨_, .own hwhere⟩
    | bool | number | string | array => exact .inr ⟨_, rfl, by simp, rfl⟩

theorem predicateOf_shape {fields : Filter} {found : Json} (h : Json.find? fields "where" = some found)
    (hnull : found ≠ .null) (hobject : found.fields? = none) : Result.Fails (predicateOf fields) := by
  rw [predicateOf, h]
  cases found with
  | null => exact absurd rfl hnull
  | object => cases hobject
  | bool | number | string | array => exact Result.fails_error _

theorem predicateOf_fails_iff {fields : Filter} : Result.Fails (predicateOf fields) ↔ Refused fields := by
  constructor
  · intro h
    rcases filterOf_or_refused fields with ⟨filter, hfilter⟩ | ⟨found, hwhere, hnull, hobject⟩
    · rw [hfilter.predicateOf_eq, Predicate.ofFilter?_fails_iff] at h
      exact .faulty hfilter h
    · exact .shape hwhere hnull hobject
  · rintro (⟨hwhere, hnull, hobject⟩ | ⟨hfilter, hfaulty⟩)
    · exact predicateOf_shape hwhere hnull hobject
    · rw [hfilter.predicateOf_eq, Predicate.ofFilter?_fails_iff]
      exact hfaulty

/-- The predicate of a document is as true as its filter. -/
theorem predicateOf_ok {fields : Filter} {p : Option Predicate} (h : predicateOf fields = .ok p) :
    ∃ filter, FilterOf fields filter ∧
      ∀ assignment, (p.map (Predicate.verdict assignment)).getD .true = Filter.truth assignment filter := by
  rcases filterOf_or_refused fields with ⟨filter, hfilter⟩ | ⟨found, hwhere, hnull, hobject⟩
  · rw [hfilter.predicateOf_eq] at h
    exact ⟨filter, hfilter, fun _ => Predicate.verdict_ofFilter? h⟩
  · have hfails := predicateOf_shape hwhere hnull hobject
    rw [h] at hfails
    exact absurd hfails (Result.not_fails_ok p)

theorem joinsAmong_eq (fields : Filter) : joinsAmong fields =
    match Json.find? fields "joins" with
    | some joins => joinsOf joins
    | none => .ok [] := by
  induction fields with
  | nil => rfl
  | cons entry fields ih =>
    obtain ⟨key, value⟩ := entry
    rw [joinsAmong, ih]
    by_cases hkey : key = "joins"
    · simp [Json.find?, hkey]
    · simp [Json.find?, hkey]

/-- Documents with one filter and the same values under the other keys that are read are the same criteria. -/
theorem ofJson_congr {fields others : Filter} (hfilter : predicateOf fields = predicateOf others)
    (hkeys : ∀ key ∈ ["sort", "limit", "skip", "joins"], Json.find? fields key = Json.find? others key) :
    ofJson (.object fields) = ofJson (.object others) := by
  simp only [List.forall_mem_cons] at hkeys
  obtain ⟨hsort, hlimit, hskip, hjoins, -⟩ := hkeys
  simp only [ofJson, hfilter, sortOf, hsort, countOf, hlimit, hskip, joinsAmong_eq, hjoins]

/-- What a document asks for is as true as its filter, with as many truth values as SQL has, at any depth; the filter may
stand under its own key or among the other keys; and a document is refused for its filter exactly when that is no object
and not null, or something in it is at fault, all else being the order, the page or the joins. -/
theorem filter_means (fields : Filter) :
    (∀ c, ofJson (.object fields) = .ok c → ∃ filter, FilterOf fields filter ∧
      ∀ assignment, (c.predicate.map (Predicate.verdict assignment)).getD .true = Filter.truth assignment filter) ∧
    (∀ others, Json.find? fields "where" = none → Json.find? others "where" = some (.object (unreserved fields)) →
      (∀ key ∈ ["sort", "limit", "skip", "joins"], Json.find? fields key = Json.find? others key) →
        ofJson (.object fields) = ofJson (.object others)) ∧
    (Result.Fails (ofJson (.object fields)) ↔ Refused fields ∨ Result.Fails (sortOf fields) ∨
      Result.Fails (countOf fields "limit") ∨ Result.Fails (countOf fields "skip") ∨
        Result.Fails (joinsAmong fields)) := by
  refine ⟨fun c hc => ?_, fun others hspread hown hkeys => ?_, ?_⟩
  · rw [ofJson, Result.bind_ok_iff] at hc
    obtain ⟨p, hp, hc⟩ := hc
    simp only [Result.bind_ok_iff] at hc
    obtain ⟨_, -, _, -, _, -, _, -, hc⟩ := hc
    rw [← Result.pure_ok_iff.mp hc]
    exact predicateOf_ok hp
  · refine ofJson_congr ?_ hkeys
    rw [(FilterOf.spread hspread).predicateOf_eq, (FilterOf.own hown).predicateOf_eq]
  · rw [ofJson, ← predicateOf_fails_iff]
    refine Result.fails_bind_or_iff fun _ => Result.fails_bind_or_iff fun _ => Result.fails_bind_or_iff fun _ =>
      Result.fails_bind_or_iff fun _ => ?_
    exact Result.fails_bind_pure_iff _

/-- One filter under its key: the empty branch makes it true of every row, whatever becomes of the other one, and under
a modifier that does not exist the other branch is refused. -/
theorem filter_means_emptyBranch :
    (∀ assignment, Filter.truth assignment [("or", .array [.object [], .object [("age", .object [("!", .null)])]])] =
      Truth.or .true (Truth.or (assignment "age" .isNotNull .null) .false)) ∧
    Result.Fails (ofJson (.object
      [("where", .object [("or", .array [.object [], .object [("age", .object [("~", .null)])]])])])) := by
  constructor
  · intro assignment
    obtain ⟨means, -⟩ := filter_means
      [("where", .object [("or", .array [.object [], .object [("age", .object [("!", .null)])]])])]
    obtain ⟨filter, hfilter, htruth⟩ := means _ rfl
    cases hfilter with
    | own h =>
      cases h
      exact (htruth assignment).symm
    | nothing h | spread h => cases h
  · obtain ⟨-, -, hrefused⟩ := filter_means
      [("where", .object [("or", .array [.object [], .object [("age", .object [("~", .null)])]])])]
    refine hrefused.mpr (.inl (.faulty (.own rfl) (.inner (.inl rfl) (.head _) (.tail _ (.head _)) ?_)))
    exact .modifier (by decide) (.head _) (.head _) (by decide)

end Criteria

end SqlAdapter
