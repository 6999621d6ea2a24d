/-
Laterals side by side.

A parent is joined with every row of each of its laterals, so that each child comes
once for every choice of rows of the other laterals, which may be many times and is
once at least: a lateral without rows counts as one row of NULLs. What is
collected of one lateral therefore has its children in their order, most of them
repeated. The records of the association are these children once each
(`Table.Recovers`): there is a window only where nothing is repeated, and there it
cuts nothing (`Table.cut_collected`), and the caster drops the repetitions.
-/
import SqlAdapter.Proofs.Record.Documents
import SqlAdapter.Proofs.Statement.Joins
import SqlAdapter.Statement.Window
import Mathlib.Data.List.Perm.Basic
import Mathlib.Data.List.ReduceOption

namespace SqlAdapter

namespace FanOut

variable {α : Type}

/-! ## The product of the laterals -/

/-- The rows of a lateral as they are joined: one of NULLs where there is none. -/
def padded : List α → List (Option α)
  | [] => [none]
  | rows => rows.map some

/-- Rows joined with every row of one more lateral. -/
def leftJoin (joined : List (List (Option α))) (rows : List α) : List (List (Option α)) :=
  joined.flatMap fun row => (padded rows).map fun child => row ++ [child]

/-- A parent joined with its laterals, one after another. -/
def product (laterals : List (List α)) : List (List (Option α)) := laterals.foldl leftJoin [[]]

/-- The rows of one lateral, over all rows of the product. -/
def column (laterals : List (List α)) (i : Nat) : List (Option α) := (product laterals).map fun row => row[i]?.join

theorem padded_ne_nil (rows : List α) : padded rows ≠ [] := by
  cases rows <;> simp [padded]

theorem some_mem_padded {rows : List α} {child : α} : some child ∈ padded rows ↔ child ∈ rows := by
  cases rows <;> simp [padded]

theorem reduceOption_padded (rows : List α) : (padded rows).reduceOption = rows := by
  cases rows with
  | nil => rfl
  | cons row rows => simp [padded, List.reduceOption]

theorem mem_leftJoin {joined : List (List (Option α))} {rows : List α} {row : List (Option α)} :
    row ∈ leftJoin joined rows ↔ ∃ front ∈ joined, ∃ child ∈ padded rows, row = front ++ [child] := by
  simp [leftJoin, eq_comm]

/-- The rows of the product are the choices of one row of each lateral, behind what was there. -/
theorem mem_foldl_leftJoin {laterals : List (List α)} {joined : List (List (Option α))} {row : List (Option α)} :
    row ∈ laterals.foldl leftJoin joined ↔ ∃ front ∈ joined, ∃ choice,
      List.Forall₂ (fun child rows => child ∈ padded rows) choice laterals ∧ row = front ++ choice := by
  induction laterals generalizing joined with
  | nil => simp
  | cons rows laterals ih =>
    rw [List.foldl_cons, ih]
    constructor
    · rintro ⟨_, hjoined, choice, hchoice, rfl⟩
      obtain ⟨front, hfront, child, hchild, rfl⟩ := mem_leftJoin.mp hjoined
      exact ⟨front, hfront, child :: choice, .cons hchild hchoice, by simp⟩
    · rintro ⟨front, hfront, _, hall, rfl⟩
      obtain ⟨child, choice, hchild, hchoice, rfl⟩ := List.forall₂_cons_right_iff.mp hall
      exact ⟨front ++ [child], mem_leftJoin.mpr ⟨front, hfront, child, hchild, rfl⟩, choice, hchoice, by simp⟩

theorem mem_product {laterals : List (List α)} {row : List (Option α)} :
    row ∈ product laterals ↔ List.Forall₂ (fun child rows => child ∈ padded rows) row laterals := by
  simp [product, mem_foldl_leftJoin]

/-- Every row of a lateral is part of a choice: no lateral is without a row to go with it. -/
theorem exists_choice {laterals : List (List α)} {i : Nat} {rows : List α} (hi : laterals[i]? = some rows)
    {child : Option α} (hchild : child ∈ padded rows) : ∃ choice,
      List.Forall₂ (fun child rows => child ∈ padded rows) choice laterals ∧ choice[i]? = some child := by
  induction laterals generalizing i with
  | nil => cases hi
  | cons first laterals ih =>
    cases i with
    | zero =>
      obtain rfl : first = rows := by simpa using hi
      have hrest : ∀ laterals : List (List α), ∃ choice,
          List.Forall₂ (fun child rows => child ∈ padded rows) choice laterals := by
        intro laterals
        induction laterals with
        | nil => exact ⟨[], .nil⟩
        | cons rows laterals ih =>
          obtain ⟨choice, hchoice⟩ := ih
          obtain ⟨child, hchild⟩ := List.exists_mem_of_ne_nil _ (padded_ne_nil rows)
          exact ⟨child :: choice, .cons hchild hchoice⟩
      obtain ⟨choice, hchoice⟩ := hrest laterals
      exact ⟨child :: choice, .cons hchild hchoice, rfl⟩
    | succ i =>
      obtain ⟨choice, hchoice, hplace⟩ := ih (by simpa using hi)
      obtain ⟨other, hother⟩ := List.exists_mem_of_ne_nil _ (padded_ne_nil first)
      exact ⟨other :: choice, .cons hother hchoice, by simpa using hplace⟩

/-- Over all rows of the product a lateral has its own rows, whatever the others have. -/
theorem mem_column {laterals : List (List α)} {i : Nat} {rows : List α} (hi : laterals[i]? = some rows)
    {child : Option α} : child ∈ column laterals i ↔ child ∈ padded rows := by
  simp only [column, List.mem_map, mem_product]
  constructor
  · rintro ⟨row, hrow, rfl⟩
    obtain ⟨hlength, hplaces⟩ := List.forall₂_iff_get.mp hrow
    obtain ⟨hbound, hrows⟩ := List.getElem?_eq_some_iff.mp hi
    have hmem := hplaces i (hlength ▸ hbound) hbound
    rw [List.get_eq_getElem, List.get_eq_getElem, hrows] at hmem
    rwa [List.getElem?_eq_getElem (hlength ▸ hbound), Option.join_some]
  · intro hchild
    obtain ⟨choice, hchoice, hplace⟩ := exists_choice hi hchild
    exact ⟨choice, hchoice, by rw [hplace, Option.join_some]⟩

/-- A lateral alone has every row once. -/
theorem column_single (rows : List α) : column [rows] 0 = padded rows := by
  simp [column, product, leftJoin, Function.comp_def]

/-! ## What is collected -/

/-- The rows of a lateral over all rows of the product, in the order of its children. Where NULLs stand is left open. -/
structure Aggregated (before : α → α → Prop) (laterals : List (List α)) (i : Nat) (collected : List (Option α)) :
    Prop where
  perm : collected.Perm (column laterals i)
  sorted : collected.reduceOption.Pairwise before

variable {before : α → α → Prop} {laterals : List (List α)} {i : Nat} {rows : List α} {collected : List (Option α)}

theorem Aggregated.mem_iff (h : Aggregated before laterals i collected) (hi : laterals[i]? = some rows) {child : α} :
    child ∈ collected.reduceOption ↔ child ∈ rows := by
  rw [List.reduceOption_mem_iff, h.perm.mem_iff, mem_column hi, some_mem_padded]

theorem Aggregated.perm_single (h : Aggregated before [rows] 0 collected) : collected.reduceOption.Perm rows := by
  have hperm := h.perm
  rw [column_single] at hperm
  have hkept : collected.reduceOption.Perm (padded rows).reduceOption := hperm.filterMap id
  rwa [reduceOption_padded] at hkept

end FanOut

/-! ## The window -/

namespace Window

/-- A list after the window of its association, if there is one. -/
def cut {α : Type} : Option Window → List α → List α
  | none, items => items
  | some w, items => w.apply items

theorem apply_of_length_le {α : Type} {upper : Int} {items : List α} (h : (items.length : Int) ≤ upper) :
    (Window.mk 1 upper).apply items = items := by
  unfold apply
  split
  · next hnone =>
    have hempty : items.length = 0 := by
      simp only at hnone
      omega
    exact (List.length_eq_zero_iff.mp hempty).symm
  · rw [List.take_of_length_le (by simp only; omega)]
    rfl

/-- The window of a join cuts nothing of a lateral's own rows. -/
theorem cut_forJoin {α : Type} {limit : Option Int64} {laterals : Nat} {items : List α}
    (hlimit : ∀ n, limit = some n → (items.length : Int) ≤ max n.toInt 0) (hmax : (items.length : Int) ≤ maxPosition) :
    cut (forJoin limit laterals) items = items := by
  unfold forJoin
  split
  · next n => exact apply_of_length_le (by have := hlimit n rfl; omega)
  · rfl

/-- There is no window where several laterals repeat each other's rows. -/
theorem forJoin_several (limit : Option Int64) {laterals : Nat} (h : laterals ≠ 1) : forJoin limit laterals = none := by
  unfold forJoin
  split
  · exact absurd rfl h
  · rfl

end Window

/-! ## What the caster keeps -/

namespace Table

/-- The row of a record that a child becomes. -/
def childRow (child : Option Table) (fields : List (String × Json)) : Row := castRow child (elementRow fields)

/-- The text by which a child is told apart. -/
def childKey (child : Option Table) (fields : List (String × Json)) : Option String :=
  identityOf child (childRow child fields)

theorem itemRows_objects (items : List (List (String × Json))) :
    itemRows (items.map .object) = .ok (items.map elementRow) := by
  induction items with
  | nil => rfl
  | cons fields items ih =>
    rw [List.map_cons, itemRows, ih]
    rfl

theorem associationRows_objects (child : Option Table) (items : List (List (String × Json))) :
    associationRows child (.json (.array (items.map .object))) =
      .ok ((distinctBy (childKey child) [] items).map (childRow child)) := by
  have hrows : associationRows child (.json (.array (items.map .object))) =
      (itemRows (items.map .object)).map fun rows => distinctRows child (rows.map (castRow child)) := rfl
  have hmap : (items.map elementRow).map (castRow child) = items.map (childRow child) := by
    rw [List.map_map]
    rfl
  have hkept : distinctRows child ((items.map elementRow).map (castRow child)) =
      (distinctBy (childKey child) [] items).map (childRow child) := by
    rw [hmap, distinctRows, ← distinctBy_map]
    rfl
  rw [hrows, itemRows_objects]
  exact congrArg Except.ok hkept

/-- The column of an association, with what is collected of its lateral cut by the window. -/
def associationColumn (window : Option Window) (collected : List (Option (List (String × Json)))) : Value :=
  .json (.array ((Window.cut window collected.reduceOption).map .object))

/-- The records of an association column are the children, each once and in their order; where the order leaves no
choice, they are the children as they stand. -/
def Recovers (child : Option Table) (before : List (String × Json) → List (String × Json) → Prop)
    (rows : List (List (String × Json))) (column : Value) : Prop :=
  ∃ kept, associationRows child column = .ok (kept.map (childRow child)) ∧ kept.Perm rows ∧ kept.Pairwise before ∧
    (rows.Pairwise before → (∀ x ∈ rows, ∀ y ∈ rows, before x y → before y x → x = y) → kept = rows)

variable {child : Option Table} {before : List (String × Json) → List (String × Json) → Prop}
  {laterals : List (List (List (String × Json)))} {i : Nat} {rows : List (List (String × Json))}
  {collected : List (Option (List (String × Json)))} {limit : Option Int64}

/-- What the window of the join leaves of the collected children is all of them. -/
theorem cut_collected (hi : laterals[i]? = some rows)
    (hlimit : ∀ n, limit = some n → (rows.length : Int) ≤ max n.toInt 0)
    (hmax : (rows.length : Int) ≤ Window.maxPosition)
    (hcollected : FanOut.Aggregated before laterals i collected) :
    Window.cut (Window.forJoin limit laterals.length) collected.reduceOption = collected.reduceOption := by
  by_cases halone : laterals.length = 1
  · obtain ⟨only, rfl⟩ := List.length_eq_one_iff.mp halone
    obtain ⟨hbound, hrows⟩ := List.getElem?_eq_some_iff.mp hi
    obtain rfl : i = 0 := by simpa using hbound
    obtain rfl : only = rows := hrows
    have hlength := hcollected.perm_single.length_eq
    exact Window.cut_forJoin (hlength ▸ hlimit) (hlength ▸ hmax)
  · rw [Window.forJoin_several limit halone]
    rfl

theorem recovers_of_cut {window : Option Window} (hi : laterals[i]? = some rows)
    (hkeys : (rows.map (childKey child)).Nodup) (hnone : ∀ fields ∈ rows, childKey child fields ≠ none)
    (hcollected : FanOut.Aggregated before laterals i collected)
    (hcut : Window.cut window collected.reduceOption = collected.reduceOption) :
    Recovers child before rows (associationColumn window collected) := by
  have hperm : (distinctBy (childKey child) [] collected.reduceOption).Perm rows :=
    distinctBy_perm (fun _ => hcollected.mem_iff hi) hkeys hnone
  have hsorted : (distinctBy (childKey child) [] collected.reduceOption).Pairwise before :=
    hcollected.sorted.sublist (distinctBy_sublist [] _)
  refine ⟨_, ?_, hperm, hsorted, fun hrows hantisymm => ?_⟩
  · rw [associationColumn, hcut, associationRows_objects]
  · refine hperm.eq_of_pairwise (fun x y hx hy hxy hyx => ?_) hsorted hrows
    exact hantisymm x (hperm.mem_iff.mp hx) y hy hxy hyx

/-- An association has the children of its lateral, each once and in their order, however many rows the other laterals
have. -/
theorem association_recovers (hi : laterals[i]? = some rows) (hkeys : (rows.map (childKey child)).Nodup)
    (hnone : ∀ fields ∈ rows, childKey child fields ≠ none)
    (hlimit : ∀ n, limit = some n → (rows.length : Int) ≤ max n.toInt 0)
    (hmax : (rows.length : Int) ≤ Window.maxPosition)
    (hcollected : FanOut.Aggregated before laterals i collected) :
    Recovers child before rows (associationColumn (Window.forJoin limit laterals.length) collected) :=
  recovers_of_cut hi hkeys hnone hcollected (cut_collected hi hlimit hmax hcollected)

/-- Two children, told apart by their keys. -/
def first : List (String × Json) := [("id", .ofNat 1)]

def second : List (String × Json) := [("id", .ofNat 2)]

/-- Two of two children next to two rows of another lateral and none of a third: there is no window, and each child
comes twice and is kept once. -/
theorem association_recovers_twice :
    associationRows none (associationColumn (Window.forJoin (some 2) 3)
        [some first, some first, some second, some second]) = .ok ([first, second].map (childRow none)) := by
  let laterals := [[first, second], [first, second], []]
  let before (x y : List (String × Json)) : Prop := ¬ (x = second ∧ y = first)
  have hne : first ≠ second := by decide
  have hcollected : FanOut.Aggregated before laterals 0 [some first, some first, some second, some second] := by
    refine ⟨.refl _, ?_⟩
    simp [before, List.reduceOption, hne, hne.symm]
  have hi : laterals[0]? = some [first, second] := rfl
  have hkeys : ([first, second].map (childKey none)).Nodup := by
    decide +kernel
  have hnone : ∀ fields ∈ [first, second], childKey none fields ≠ none := by
    decide +kernel
  have hlimit : ∀ n : Int64, some 2 = some n → (([first, second].length : Nat) : Int) ≤ max n.toInt 0 := by
    rintro n ⟨⟩
    decide
  have hrecovers := association_recovers hi hkeys hnone hlimit (by decide) hcollected
  obtain ⟨kept, hrows, -, -, hkept⟩ := hrecovers
  have hsame : kept = [first, second] := by
    refine hkept ?_ ?_ <;> simp [before, hne, hne.symm]
  rw [← hsame]
  exact hrows

end Table

/-! ## Compiled selects -/

/-- The rows of a page. -/
def Page.cut {α : Type} (p : Page) (rows : List α) : List α := (rows.drop p.skip.toInt.toNat).take p.limit.toInt.toNat

theorem Page.length_cut_le {α : Type} {limit skip : Option Int64} {p : Page} (h : make limit skip = .ok p)
    (rows : List α) : ∀ n, limit = some n → ((p.cut rows).length : Int) ≤ max n.toInt 0 := by
  rintro n rfl
  simp only [make, Option.getD_some] at h
  split at h
  · cases h
  · cases h
    simp only [cut, List.length_take]
    omega

namespace Compiler

variable {c : Compiler} {table : String} {criteria : Criteria} {s : JoinedSelect} {a : AssociationColumn}
  {j : Join Criteria}

/-- The windows of a select are those among as many laterals as it has. -/
theorem Joined.windows (h : c.Joined table criteria s) :
    List.Forall₂ (fun a j => a.window = Window.forJoin j.nested.limit s.laterals.length) s.associations
      (criteria.joins.filter (·.select)) := by
  rw [h.laterals.length_eq]
  exact h.associations.imp fun a j ha => (association_ok ha).window

/-- The associations of a select have the pages of children that their joins ask for. -/
theorem Joined.recovers {child : Option Table} {before : List (String × Json) → List (String × Json) → Prop}
    {laterals : List (List (List (String × Json)))} {i : Nat} {rows : List (List (String × Json))} {page : Page}
    {collected : List (Option (List (String × Json)))} (h : c.Joined table criteria s)
    (hj : (a, j) ∈ s.associations.zip (criteria.joins.filter (·.select)))
    (hpage : Page.make j.nested.limit j.nested.skip = .ok page) (hcount : laterals.length = s.laterals.length)
    (hi : laterals[i]? = some (page.cut rows)) (hkeys : ((page.cut rows).map (Table.childKey child)).Nodup)
    (hnone : ∀ fields ∈ page.cut rows, Table.childKey child fields ≠ none)
    (hmax : ((page.cut rows).length : Int) ≤ Window.maxPosition)
    (hcollected : FanOut.Aggregated before laterals i collected) :
    Table.Recovers child before (page.cut rows) (Table.associationColumn a.window collected) := by
  have hwindow : a.window = Window.forJoin j.nested.limit laterals.length := by
    rw [hcount]
    exact List.forall₂_zip h.windows hj
  rw [hwindow]
  exact Table.recovers_of_cut hi hkeys hnone hcollected
    (Table.cut_collected hi (Page.length_cut_le hpage rows) hmax hcollected)

end Compiler

end SqlAdapter
