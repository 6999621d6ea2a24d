/-
Lists of values against their items.

Membership in a list is one comparison in SQL, and it is also some item being
equal; absence from a list is also every item being different. `Domain.truth` is
what SQL answers to each comparison on a row, NULLs included, and there the two
ways of asking agree (`Domain.among_eq_any`). A filter does not always ask what its
predicate says, though: equality with NULL is written as a test for absence, while
a NULL in a list is bound as it is. `FilterWriter.listed_iff_itemized` has what
follows from this.
-/
import SqlAdapter.Proofs.Condition.Reading

namespace SqlAdapter

namespace Truth

theorem any_eq (ts : List Truth) :
    any ts = if .true ∈ ts then .true else if .unknown ∈ ts then .unknown else .false := by
  induction ts with
  | nil => rfl
  | cons t ts ih =>
    rw [any, ih]
    cases t <;> by_cases htrue : Truth.true ∈ ts <;> by_cases hunknown : Truth.unknown ∈ ts <;>
      simp [htrue, hunknown, or]

theorem any_eq_true_iff {ts : List Truth} : any ts = .true ↔ .true ∈ ts := by
  rw [any_eq]
  split
  · next h => exact iff_of_true rfl h
  · next h => exact iff_of_false (by split <;> exact nofun) h

theorem not_any (ts : List Truth) : (any ts).not = all (ts.map not) := by
  induction ts with
  | nil => rfl
  | cons t ts ih =>
    rw [any, List.map_cons, all, ← ih]
    cases t <;> cases any ts <;> rfl

end Truth

/-! ## Comparisons on a row -/

/-- What SQL compares: data other than NULL, which of it a bound value is, and which comparisons hold. -/
structure Domain (α : Type) where
  /-- Nothing for a value that is bound as NULL. -/
  bound : Value → Option α
  holds : Comparison → α → α → Bool
  bound_null : bound .null = none
  holds_ne : ∀ x y, holds .ne x y = !holds .eq x y

namespace Domain

variable {α : Type} (d : Domain α)

/-- A comparison, which is unknown with NULL on either side. -/
def compare (comparison : Comparison) : Option α → Option α → Truth
  | some x, some y => .ofBool (d.holds comparison x y)
  | _, _ => .unknown

/-- Membership in a list: true where an item is equal, else unknown with NULL on either side. -/
def among (cell : Option α) (items : List (Option α)) : Truth :=
  if .true ∈ items.map (d.compare .eq cell) then .true
  else if cell.isNone || items.any Option.isNone then .unknown
  else .false

/-- What SQL answers to a comparison on a row, by what the row has in its columns. -/
def truth (row : ColumnRef → Option α) : Atom → Truth
  | .isNull column => .ofBool (row column).isNone
  | .isNotNull column => .ofBool (row column).isSome
  | .compare column comparison (.value v) => d.compare comparison (row column) (d.bound v)
  | .compare column comparison (.column other) => d.compare comparison (row column) (row other)
  | .among column items => d.among (row column) (items.map d.bound)
  | .notAmong column items => (d.among (row column) (items.map d.bound)).not

theorem compare_ne (x y : Option α) : d.compare .ne x y = (d.compare .eq x y).not := by
  cases x with
  | none => rfl
  | some x =>
    cases y with
    | none => rfl
    | some y =>
      rw [compare, compare, d.holds_ne]
      cases d.holds .eq x y <;> rfl

theorem compare_eq_unknown_iff {comparison : Comparison} {x y : Option α} :
    d.compare comparison x y = .unknown ↔ x.isNone ∨ y.isNone := by
  cases x with
  | none => simp [compare]
  | some x =>
    cases y with
    | none => simp [compare]
    | some y => cases h : d.holds comparison x y <;> simp [compare, h, Truth.ofBool]

/-- Membership in a list that is not empty is some item being equal. -/
theorem among_eq_any (cell : Option α) {items : List (Option α)} (h : items ≠ []) :
    d.among cell items = .any (items.map (d.compare .eq cell)) := by
  have hunknown : .unknown ∈ items.map (d.compare .eq cell) ↔
      (cell.isNone || items.any Option.isNone) = true := by
    obtain ⟨item, hitem⟩ := List.exists_mem_of_ne_nil items h
    simp only [List.mem_map, d.compare_eq_unknown_iff, Bool.or_eq_true, List.any_eq_true]
    constructor
    · rintro ⟨other, hother, hcell | hnone⟩
      · exact .inl hcell
      · exact .inr ⟨other, hother, hnone⟩
    · rintro (hcell | ⟨other, hother, hnone⟩)
      · exact ⟨item, hitem, .inl hcell⟩
      · exact ⟨other, hother, .inr hnone⟩
  rw [among, Truth.any_eq]
  simp only [hunknown]

/-- What equality of a field with a value is written as: with NULL it asks whether the field is absent. -/
def equality (cell : Option α) (v : Value) : Truth :=
  if v.isNull then .ofBool cell.isNone else d.compare .eq cell (d.bound v)

end Domain

/-! ## The two ways of asking -/

namespace Predicate

/-- A field is among the items of a list, or is not, as one comparison. -/
def listed (inside : Bool) (field : String) (operand : Value) : Predicate :=
  .compare field (if inside then .among else .notAmong) operand

/-- A field equals some item, or differs from each. -/
def itemized (inside : Bool) (field : String) (items : List Value) : Predicate :=
  if inside then .any (items.map (.eq field)) else .all (items.map (.compare field (.compare .ne)))

theorem truths_eq_map (assignment : Atom → Truth) (table : String) (ps : List Predicate) :
    truths assignment table ps = ps.map (truth assignment table) := by
  induction ps with
  | nil => rfl
  | cons p ps ih => rw [truths, ih, List.map_cons]

variable {α : Type} (d : Domain α) (row : ColumnRef → Option α) (table field : String)

theorem truth_eq (v : Value) : (eq field v).truth (d.truth row) table = d.equality (row ⟨table, field⟩) v := by
  cases v <;> rfl

theorem truth_ne (v : Value) :
    (compare field (.compare .ne) v).truth (d.truth row) table = (d.equality (row ⟨table, field⟩) v).not := by
  cases v with
  | null =>
    have hnull : (compare field (.compare .ne) .null).truth (d.truth row) table =
        .ofBool (row ⟨table, field⟩).isSome := rfl
    rw [hnull]
    cases h : row ⟨table, field⟩ <;> rfl
  | _ => exact d.compare_ne _ _

theorem truth_among {items : List Value} (h : items ≠ []) : d.truth row (.among ⟨table, field⟩ items) =
    .any (items.map fun v => d.compare .eq (row ⟨table, field⟩) (d.bound v)) := by
  rw [Domain.truth, d.among_eq_any _ (by simpa using h), List.map_map]
  rfl

theorem truth_not_listed (operand : Value) : (listed false field operand).truth (d.truth row) table =
    ((listed true field operand).truth (d.truth row) table).not := by
  cases operand with
  | array items => cases items <;> rfl
  | _ => rfl

theorem truth_listed (inside : Bool) (operand : Value) : (listed inside field operand).truth (d.truth row) table =
    let found := Truth.any ((Condition.listItems operand).map fun v => d.compare .eq (row ⟨table, field⟩) (d.bound v))
    if inside then found else found.not := by
  have hamong : (listed true field operand).truth (d.truth row) table =
      .any ((Condition.listItems operand).map fun v => d.compare .eq (row ⟨table, field⟩) (d.bound v)) := by
    cases operand with
    | array items =>
      cases items with
      | nil => rfl
      | cons v items => exact truth_among d row table field (List.cons_ne_nil v items)
    | _ => exact truth_among d row table field (List.cons_ne_nil _ [])
  cases inside with
  | true => exact hamong
  | false => exact (truth_not_listed d row table field operand).trans (congrArg Truth.not hamong)

theorem truth_itemized (inside : Bool) (items : List Value) : (itemized inside field items).truth (d.truth row) table =
    let found := Truth.any (items.map (d.equality (row ⟨table, field⟩)))
    if inside then found else found.not := by
  cases inside with
  | true =>
    have hitems : truths (d.truth row) table (items.map (eq field)) = items.map (d.equality (row ⟨table, field⟩)) := by
      rw [truths_eq_map, List.map_map]
      exact List.map_congr_left fun v _ => truth_eq d row table field v
    exact congrArg Truth.any hitems
  | false =>
    have hitems : truths (d.truth row) table (items.map (compare field (.compare .ne))) =
        (items.map (d.equality (row ⟨table, field⟩))).map Truth.not := by
      rw [truths_eq_map, List.map_map, List.map_map]
      exact List.map_congr_left fun v _ => truth_ne d row table field v
    exact (congrArg Truth.all hitems).trans (Truth.not_any _).symm

/-- The two ways of asking agree on every row exactly when none of the items is NULL. On a row without a value for the field
a NULL among them is found item by item, and is not by the list. -/
theorem listed_agrees_iff (inside : Bool) (operand : Value) :
    (∀ row, (listed inside field operand).truth (d.truth row) table =
      (itemized inside field (Condition.listItems operand)).truth (d.truth row) table) ↔
    ∀ v ∈ Condition.listItems operand, v.isNull = false := by
  have hnot : ∀ found wanted : Truth, (if inside then found else found.not) = (if inside then wanted else wanted.not) ↔
      found = wanted := by
    intro found wanted
    cases inside <;> cases found <;> cases wanted <;> decide
  simp only [truth_listed, truth_itemized, hnot]
  constructor
  · intro hagree v hv
    by_contra hnull
    have hequal : d.equality none v = .true := by
      rw [Domain.equality, if_pos (by simpa using hnull)]
      rfl
    have hfound : Truth.any ((Condition.listItems operand).map (d.equality none)) = .true :=
      Truth.any_eq_true_iff.mpr (List.mem_map.mpr ⟨v, hv, hequal⟩)
    obtain ⟨w, -, hw⟩ := List.mem_map.mp (Truth.any_eq_true_iff.mp ((hagree fun _ => none).trans hfound))
    cases hw
  · intro hnulls row
    refine congrArg Truth.any (List.map_congr_left fun v hv => ?_)
    rw [Domain.equality, if_neg (by simp [hnulls v hv])]

end Predicate

namespace Condition

theorem ofParts_compare {schema : Schema} {table field : String} {column : ColumnRef}
    (h : columnOf schema table field = .ok column) (op : Operator) (items : List Value) :
    ofParts schema table (items.map (.compare field op)) = .ok (items.map (ofOperator column op)) := by
  induction items with
  | nil => rfl
  | cons v items ih =>
    rw [List.map_cons, ofParts, ofPredicate, h, ih]
    rfl

end Condition

namespace FilterWriter

/-- A list and its items are about one field, so that a filter for the list is accepted only where one for them is. -/
theorem standard_itemized {schema : Schema} {table field : String} {operand : Value} {inside : Bool} {f : Fragment}
    (h : standard schema table (.listed inside field operand) = .ok f) (items : List Value) :
    ∃ g, standard schema table (.itemized inside field items) = .ok g := by
  rw [standard, Result.bind_ok_iff] at h
  obtain ⟨c, hc, -⟩ := h
  rw [Predicate.listed, Condition.ofPredicate, Result.bind_ok_iff] at hc
  obtain ⟨column, hcolumn, -⟩ := hc
  cases inside with
  | true =>
    have hparts : Condition.ofParts schema table (items.map (.eq field)) = _ :=
      Condition.ofParts_compare hcolumn (.compare .eq) items
    rw [standard, Predicate.itemized, if_pos rfl, Condition.ofPredicate, hparts]
    exact ⟨_, rfl⟩
  | false =>
    have hparts := Condition.ofParts_compare hcolumn (.compare .ne) items
    rw [standard, Predicate.itemized, if_neg Bool.false_ne_true, Condition.ofPredicate, hparts]
    exact ⟨_, rfl⟩

/-- Where a filter for a list is accepted, so is one for its items. What is read of the two has the same truth on every row
exactly when none of the items is NULL. -/
theorem listed_iff_itemized {schema : Schema} {table field : String} {operand : Value} {inside : Bool} {f : Fragment}
    (h : standard schema table (.listed inside field operand) = .ok f) :
    ∃ g, standard schema table (.itemized inside field (Condition.listItems operand)) = .ok g ∧
      ∃ e e', readCondition f.sql f.values = some e ∧ readCondition g.sql g.values = some e' ∧
        ∀ {α : Type} (d : Domain α), (∀ row, e.truth (d.truth row) = e'.truth (d.truth row)) ↔
          ∀ v ∈ Condition.listItems operand, v.isNull = false := by
  obtain ⟨g, hg⟩ := standard_itemized h (Condition.listItems operand)
  obtain ⟨e, he, htruth⟩ := standard_read h
  obtain ⟨e', he', htruth'⟩ := standard_read hg
  refine ⟨g, hg, e, e', he, he', fun d => ?_⟩
  rw [← Predicate.listed_agrees_iff d table field inside operand]
  simp only [htruth, htruth']

/-- Values compared by the text that tells them apart as keys. -/
def byKey : Domain String where
  bound := Value.identityKey?
  holds
    | .eq, x, y => x = y
    | .ne, x, y => x ≠ y
    | .gt, x, y => y < x
    | .gte, x, y => y ≤ x
    | .lt, x, y => x < y
    | .lte, x, y => x ≤ y
    | _, _, _ => false
  bound_null := rfl
  holds_ne _ _ := decide_not

/-- No row is among those whose status is not in a list with a NULL, but some differ from each of its items. -/
theorem listed_iff_itemized_status : ∃ f g e e',
    standard .empty "users" (.listed false "status" (.array [.string "new", .null])) = .ok f ∧
    standard .empty "users" (.itemized false "status" [.string "new", .null]) = .ok g ∧
    readCondition f.sql f.values = some e ∧ readCondition g.sql g.values = some e' ∧
    ¬ ∀ row, e.truth (byKey.truth row) = e'.truth (byKey.truth row) := by
  have hok : (standard .empty "users" (.listed false "status" (.array [.string "new", .null]))).toOption.isSome = true := by
    decide +kernel
  cases h : standard .empty "users" (.listed false "status" (.array [.string "new", .null])) with
  | error e =>
    rw [h] at hok
    cases hok
  | ok f =>
    obtain ⟨g, hg, e, e', he, he', hagree⟩ := listed_iff_itemized h
    refine ⟨f, g, e, e', rfl, hg, he, he', fun hall => ?_⟩
    have hnull := (hagree byKey).mp hall .null (List.mem_cons_of_mem _ (List.mem_singleton_self _))
    exact absurd hnull (by decide)

end FilterWriter

end SqlAdapter
