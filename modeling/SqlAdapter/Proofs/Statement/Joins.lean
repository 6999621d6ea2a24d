/-
What a joined select is made of, when the compiler makes one.

`Compiler.link?` and `Compiler.withLinks` find the joins into junction tables
without any of the checks on the way. `Compiler.joinedSelect_ok` says all that a
success means: every join is accepted, each one that is not folded has a
subquery, each selected one a column, and both stand in the order of the joins
(`Compiler.Joined`). Nothing after it looks into `Compiler.joinedSelect` again.

`Criteria.emitted` are the joins that are not folded, with their places among all
joins, and `Criteria.associated` the selected ones of them.
-/
import SqlAdapter.Proofs.Result
import SqlAdapter.Statement.Joined

namespace SqlAdapter

namespace Compiler

/-- The join into the junction table of a junction join: the first of its name. -/
def link? (joins : List (Join Criteria)) (j : Join Criteria) : Option (Join Criteria × Nat) :=
  if j.junction then
    joins.zipIdx.find? fun (link, _) =>
      !link.junction && link.name == j.name && Identifier.truncate link.child == Identifier.truncate j.parent
  else none

/-- The joins with the joins into their junction tables. -/
def withLinks (joins : List (Join Criteria)) : List LinkedJoin := joins.map fun j => ⟨j, link? joins j⟩

/-- The subquery of a join, together with the join into its junction table where it has one. -/
def lateral (c : Compiler) (j : LinkedJoin) : Result Lateral :=
  match j.link with
  | some (link, _) => c.junctionLateral link j.join
  | none => c.directLateral j.join

namespace LinkedJoin

/-- The table of the children. -/
def child (j : LinkedJoin) : String := Identifier.truncate j.join.child

/-- The parent of the children, which is the junction table where there is one. -/
def parent (j : LinkedJoin) : String := Identifier.truncate j.join.parent

/-- The junction table in the subquery, with the columns that it shares with the children. -/
def junction (j : LinkedJoin) : Option Junction :=
  j.link.map fun _ => ⟨j.parent, ⟨j.child, j.join.childKey⟩, ⟨j.parent, j.join.parentKey⟩⟩

/-- The tables that the subquery reads. -/
def tables (j : LinkedJoin) : List String := (j.junction.map (·.table)).toList ++ [j.child]

/-- The tables that the subquery reads, as they are written. -/
def source (j : LinkedJoin) : String :=
  match j.junction with
  | none => Identifier.quote j.child
  | some junction =>
    Identifier.quote junction.table ++ " JOIN " ++ Identifier.quote j.child ++ " ON " ++
      junction.childColumn.sql ++ " = " ++ junction.junctionColumn.sql

/-- The predicates on the rows of the subquery, each with its table. -/
def filters (j : LinkedJoin) : List (String × Option Predicate) :=
  (j.child, j.join.nested.predicate) :: j.link.toList.map fun (link, _) => (j.parent, link.nested.predicate)

/-- The predicates that there are on the rows of the subquery, each with its table. -/
def predicates (j : LinkedJoin) : List (String × Predicate) :=
  j.filters.flatMap fun (table, predicate) => predicate.toList.map (table, ·)

/-- The column of the subquery that holds the key of the parent row. -/
def inner (j : LinkedJoin) : ColumnRef :=
  match j.link with
  | some (link, _) => ⟨j.parent, link.childKey⟩
  | none => ⟨j.child, j.join.childKey⟩

/-- The key of the parent row. -/
def outer (j : LinkedJoin) : ColumnRef :=
  match j.link with
  | some (link, _) => ⟨Identifier.truncate link.parent, link.parentKey⟩
  | none => ⟨j.parent, j.join.parentKey⟩

end LinkedJoin

/-- The joins that have subqueries, each with the join into its junction table. -/
def planned (joins : List (Join Criteria)) : List LinkedJoin := (laterals (withLinks joins)).map (·.1)

variable {c : Compiler}

theorem linkOf_ok {joins : List (Join Criteria)} {j : Join Criteria} {link : Option (Join Criteria × Nat)}
    (h : linkOf joins j = .ok link) : link = link? joins j := by
  cases hj : j.junction with
  | false =>
    rw [linkOf, hj] at h
    rw [link?, hj]
    cases h
    rfl
  | true =>
    simp only [linkOf, hj, Bool.not_true, Bool.false_eq_true, if_false] at h
    simp only [link?, hj, if_true]
    split at h
    · next found hfound =>
      cases h
      exact hfound.symm
    · cases h

/-- A link is a join of the same name into the junction table, and no junction join itself. -/
theorem link?_some {joins : List (Join Criteria)} {j link : Join Criteria} {i : Nat}
    (h : link? joins j = some (link, i)) :
    joins[i]? = some link ∧ j.junction = true ∧ link.junction = false ∧ link.name = j.name ∧
      Identifier.truncate link.child = Identifier.truncate j.parent := by
  rw [link?] at h
  split at h
  · next hjunction =>
    have hplace := List.mk_mem_zipIdx_iff_getElem?.mp (List.mem_of_find?_eq_some h)
    have hfound := List.find?_some h
    simp only [Bool.and_eq_true, Bool.not_eq_true', beq_iff_eq] at hfound
    exact ⟨hplace, hjunction, hfound.1.1, hfound.1.2, hfound.2⟩
  · cases h

theorem linked_ok {joins : List (Join Criteria)} {linkedJoins : List LinkedJoin}
    (h : linked joins = .ok linkedJoins) : linkedJoins = withLinks joins := by
  have hall := Result.mapM_ok h
  refine (Result.forall₂_eq_map_iff.mp (hall.imp fun j linked hj => ?_)).symm
  rw [Result.bind_ok_iff] at hj
  obtain ⟨link, hlink, hj⟩ := hj
  rw [linkOf_ok hlink] at hj
  exact Result.pure_ok_iff.mp hj

theorem withLinks_joins (joins : List (Join Criteria)) : (withLinks joins).map (·.join) = joins := by
  rw [withLinks, List.map_map]
  exact List.map_id joins

theorem zipIdx_joins (joins : List (Join Criteria)) : (withLinks joins).zipIdx.map (·.1.join) = joins := by
  have hcomp : (withLinks joins).zipIdx.map (·.1.join) = ((withLinks joins).zipIdx.map Prod.fst).map (·.join) := by
    rw [List.map_map]
    rfl
  rw [hcomp, List.zipIdx_map_fst, withLinks_joins]

/-- The subquery is the one that the compiler makes for a join. -/
structure Subquery (c : Compiler) (j : LinkedJoin) (l : Lateral) : Prop where
  name : l.name = lateralName j.join
  child : l.child = j.child
  junction : l.junction = j.junction
  filters : ∃ fs, List.Forall₂ (fun f (filter : String × Option Predicate) => c.filter filter.1 filter.2 = .ok f)
    fs j.filters ∧ l.filters = fs.flatMap Option.toList
  inner : l.inner = j.inner
  outer : l.outer = j.outer
  /-- The parent is none of the tables that the subquery reads. -/
  apart : j.outer.qualifier ∉ j.tables
  order : c.order j.child j.child j.join.nested.sort = .ok l.order
  page : Page.make j.join.nested.limit j.join.nested.skip = .ok l.page

theorem lateral_ok {j : LinkedJoin} {l : Lateral} (h : c.lateral j = .ok l) : c.Subquery j l := by
  obtain ⟨join, link⟩ := j
  cases link with
  | none =>
    simp only [lateral, directLateral] at h
    split at h
    · cases h
    · next hself =>
      simp only [Result.bind_ok_iff] at h
      obtain ⟨filter, hfilter, order, horder, page, hpage, h⟩ := h
      cases Result.pure_ok_iff.mp h
      refine ⟨rfl, rfl, rfl, ⟨[filter], .cons hfilter .nil, (List.append_nil _).symm⟩, rfl, rfl, ?_, horder, hpage⟩
      intro hmem
      exact hself (List.mem_singleton.mp hmem).symm
  | some found =>
    obtain ⟨link, index⟩ := found
    simp only [lateral, junctionLateral] at h
    split at h
    · cases h
    · next hself =>
      obtain ⟨hchild, hjunction, -⟩ : ¬ _ ∧ ¬ _ ∧ ¬ _ := by simpa only [not_or] using hself
      simp only [Result.bind_ok_iff] at h
      obtain ⟨filter, hfilter, linkFilter, hlinkFilter, order, horder, page, hpage, h⟩ := h
      cases Result.pure_ok_iff.mp h
      refine ⟨rfl, rfl, rfl, ⟨[filter, linkFilter], .cons hfilter (.cons hlinkFilter .nil), ?_⟩, rfl, rfl, ?_,
        horder, hpage⟩
      · simp
      · intro hmem
        rcases List.mem_cons.mp hmem with heq | hmem
        · exact hjunction heq.symm
        · exact hchild (List.mem_singleton.mp hmem).symm

theorem Subquery.source {j : LinkedJoin} {l : Lateral} (h : c.Subquery j l) : l.source = j.source := by
  cases hj : j.junction with
  | none => simp only [Lateral.source, LinkedJoin.source, h.junction, h.child, hj]
  | some junction => simp only [Lateral.source, LinkedJoin.source, h.junction, h.child, hj]

/-- The column is the one that the compiler makes of the rows of a join, among a number of laterals. -/
structure Aggregate (c : Compiler) (j : Join Criteria) (laterals : Nat) (a : AssociationColumn) : Prop where
  name : a.name = Identifier.truncate j.name
  lateral : a.lateral = lateralName j
  order : ∃ order, c.order (Identifier.truncate j.child) (lateralName j) j.nested.sort = .ok order ∧
    a.order = if order.isEmpty then [⟨⟨lateralName j, c.keyOf (Identifier.truncate j.child)⟩, .ascending⟩] else order
  window : a.window = Window.forJoin j.nested.limit laterals

theorem association_ok {j : Join Criteria} {laterals : Nat} {a : AssociationColumn}
    (h : c.association j laterals = .ok a) : c.Aggregate j laterals a := by
  rw [association, Result.bind_ok_iff] at h
  obtain ⟨order, horder, h⟩ := h
  cases Result.pure_ok_iff.mp h
  exact ⟨rfl, rfl, ⟨order, horder, rfl⟩, rfl⟩

theorem joinParts_eq (joins : List LinkedJoin) (j : LinkedJoin) (index : Nat) :
    c.joinParts joins j index = (do
      c.checkJoin j.join
      if isFolded joins index j.join then return ([], [])
      else
        let l ← c.lateral j
        if j.join.select then return ([l], [← c.association j.join (laterals joins).length])
        else return ([l], [])) := by
  obtain ⟨join, link⟩ := j
  cases link <;> rfl

/-- What the parts of one join are: it is accepted, and it is folded and has none, or it has its
subquery, and its column if it is selected. -/
theorem joinParts_ok {joins : List LinkedJoin} {j : LinkedJoin} {index : Nat}
    {parts : List Lateral × List AssociationColumn} (h : c.joinParts joins j index = .ok parts) :
    c.checkJoin j.join = .ok () ∧
      List.Forall₂ (fun l j => c.lateral j = .ok l) parts.1 (if isFolded joins index j.join then [] else [j]) ∧
      List.Forall₂ (fun a j => c.association j (laterals joins).length = .ok a) parts.2
        (if j.join.select then [j.join] else []) := by
  rw [joinParts_eq, Result.bind_ok_iff] at h
  obtain ⟨_, hcheck, h⟩ := h
  refine ⟨hcheck, ?_⟩
  by_cases hfolded : isFolded joins index j.join = true
  · have hhidden : j.join.select = false := by
      simp only [isFolded, Bool.and_eq_true, Bool.not_eq_true'] at hfolded
      exact hfolded.1
    rw [if_pos hfolded] at h
    rw [if_pos hfolded, hhidden, ← Result.pure_ok_iff.mp h]
    exact ⟨.nil, .nil⟩
  · rw [if_neg hfolded, Result.bind_ok_iff] at h
    obtain ⟨l, hl, h⟩ := h
    rw [if_neg hfolded]
    cases hselect : j.join.select with
    | true =>
      rw [hselect, if_pos rfl, Result.bind_ok_iff] at h
      obtain ⟨a, ha, h⟩ := h
      rw [← Result.pure_ok_iff.mp h]
      exact ⟨.cons hl .nil, .cons ha .nil⟩
    | false =>
      rw [hselect, if_neg (by simp)] at h
      rw [← Result.pure_ok_iff.mp h]
      exact ⟨.cons hl .nil, .nil⟩

/-- The parts of all joins, one after another. -/
theorem allParts_ok {joins : List LinkedJoin} {places : List (LinkedJoin × Nat)}
    {parts : List (List Lateral × List AssociationColumn)}
    (h : List.Forall₂ (fun (place : LinkedJoin × Nat) part => c.joinParts joins place.1 place.2 = .ok part)
      places parts) :
    (∀ place ∈ places, c.checkJoin place.1.join = .ok ()) ∧
      List.Forall₂ (fun l j => c.lateral j = .ok l) (parts.flatMap (·.1))
        ((places.filter fun (j, index) => !isFolded joins index j.join).map (·.1)) ∧
      List.Forall₂ (fun a j => c.association j (laterals joins).length = .ok a) (parts.flatMap (·.2))
        ((places.map (·.1.join)).filter (·.select)) := by
  induction h with
  | nil => exact ⟨by simp, .nil, .nil⟩
  | @cons place part places parts hpart _ ih =>
    obtain ⟨j, index⟩ := place
    obtain ⟨hcheck, hlaterals, hassociations⟩ := joinParts_ok hpart
    obtain ⟨hchecks, hmore, hcolumns⟩ := ih
    refine ⟨List.forall_mem_cons.mpr ⟨hcheck, hchecks⟩, ?_, ?_⟩
    · have hall := List.rel_append hlaterals hmore
      rw [List.flatMap_cons, List.filter_cons]
      cases hfolded : isFolded joins index j.join with
      | true => simpa [hfolded] using hall
      | false => simpa [hfolded] using hall
    · have hall := List.rel_append hassociations hcolumns
      rw [List.flatMap_cons, List.map_cons, List.filter_cons]
      cases hselect : j.join.select with
      | true => simpa [hselect] using hall
      | false => simpa [hselect] using hall

/-- The joined select is the one that the compiler makes of criteria on a table. -/
structure Joined (c : Compiler) (table : String) (criteria : Criteria) (s : JoinedSelect) : Prop where
  checked : ∀ j ∈ criteria.joins, c.checkJoin j = .ok ()
  root : s.root = Identifier.truncate table
  columns : c.rootColumns (Identifier.truncate table) criteria.joins = .ok s.columns
  laterals : List.Forall₂ (fun l j => c.lateral j = .ok l) s.laterals (planned criteria.joins)
  associations : List.Forall₂ (fun a j => c.association j (planned criteria.joins).length = .ok a)
    s.associations (criteria.joins.filter (·.select))
  filter : c.filter (Identifier.truncate table) criteria.predicate = .ok s.filter
  key : s.key = ⟨Identifier.truncate table, c.keyOf (Identifier.truncate table)⟩
  order : c.order (Identifier.truncate table) (Identifier.truncate table) criteria.sort = .ok s.order
  page : Page.make criteria.limit criteria.skip = .ok s.page

theorem joinedSelect_ok {table : String} {criteria : Criteria} {s : JoinedSelect}
    (h : c.joinedSelect table criteria = .ok s) : c.Joined table criteria s := by
  simp only [joinedSelect, Result.bind_ok_iff] at h
  obtain ⟨_, -, joins, hjoins, columns, hcolumns, parts, hparts, filter, hfilter, order, horder, page, hpage, h⟩ := h
  rw [linked_ok hjoins] at hparts
  obtain ⟨hchecked, hlaterals, hassociations⟩ := allParts_ok (Result.mapM_ok hparts)
  have hplaces := zipIdx_joins criteria.joins
  have hlength : (planned criteria.joins).length = (laterals (withLinks criteria.joins)).length :=
    List.length_map _
  have hs := Result.pure_ok_iff.mp h
  subst hs
  refine ⟨fun j hj => ?_, rfl, hcolumns, hlaterals, ?_, hfilter, rfl, horder, hpage⟩
  · rw [← hplaces] at hj
    obtain ⟨place, hplace, rfl⟩ := List.mem_map.mp hj
    exact hchecked place hplace
  · rw [hplaces] at hassociations
    rw [hlength]
    exact hassociations

end Compiler

/-! ## Joins that have subqueries -/

namespace Criteria

open Compiler

/-- The join at a place is folded: it is hidden, and another one goes on from its junction table. -/
def Folded (c : Criteria) (place : Nat) : Prop :=
  ∃ j, (withLinks c.joins)[place]? = some j ∧ j.join.select = false ∧
    ∃ other ∈ withLinks c.joins, ∃ link, other.link = some (link, place)

/-- The join at a place has a subquery of its own. -/
def Emits (c : Criteria) (place : Nat) (j : LinkedJoin) : Prop :=
  (withLinks c.joins)[place]? = some j ∧ ¬ c.Folded place

/-- The joins that have subqueries, each with its place among all joins. -/
def emitted (c : Criteria) : List (LinkedJoin × Nat) := laterals (withLinks c.joins)

/-- The subqueries whose rows are associations, each with its place among the subqueries. -/
def associated (c : Criteria) : List ((LinkedJoin × Nat) × Nat) := c.emitted.zipIdx.filter (·.1.1.join.select)

variable {c : Criteria}

theorem isFolded_iff {j : LinkedJoin} {place : Nat} (h : (withLinks c.joins)[place]? = some j) :
    isFolded (withLinks c.joins) place j.join = true ↔ c.Folded place := by
  simp only [isFolded, Bool.and_eq_true, Bool.not_eq_true', List.any_eq_true, Option.any_eq_true, beq_iff_eq]
  constructor
  · rintro ⟨hhidden, other, hother, ⟨link, index⟩, hlink, rfl⟩
    exact ⟨j, h, hhidden, other, hother, link, hlink⟩
  · rintro ⟨j', hj', hhidden, other, hother, link, hlink⟩
    obtain rfl : j = j' := Option.some.inj (h.symm.trans hj')
    exact ⟨hhidden, other, hother, _, hlink, rfl⟩

theorem mem_emitted {j : LinkedJoin} {place : Nat} : (j, place) ∈ c.emitted ↔ c.Emits place j := by
  rw [emitted, laterals, List.mem_filter, List.mk_mem_zipIdx_iff_getElem?, Emits]
  refine and_congr_right fun h => ?_
  rw [← isFolded_iff h]
  simp

/-- The subqueries stand in the order of their joins. -/
theorem emitted_sorted (c : Criteria) : c.emitted.Pairwise (·.2 < ·.2) := by
  have hplaces : ((withLinks c.joins).zipIdx.map Prod.snd).Pairwise (· < ·) := by
    rw [List.zipIdx_map_snd]
    exact List.pairwise_lt_range'
  exact (List.pairwise_map.mp hplaces).sublist List.filter_sublist

theorem emitted_lt_iff {m n : Nat} {e f : LinkedJoin × Nat} (he : c.emitted[m]? = some e)
    (hf : c.emitted[n]? = some f) : m < n ↔ e.2 < f.2 := by
  obtain ⟨hm, rfl⟩ := List.getElem?_eq_some_iff.mp he
  obtain ⟨hn, rfl⟩ := List.getElem?_eq_some_iff.mp hf
  have hsorted := List.pairwise_iff_getElem.mp c.emitted_sorted
  refine ⟨hsorted m n hm hn, fun hlt => ?_⟩
  rcases Nat.lt_trichotomy m n with hmn | rfl | hnm
  · exact hmn
  · exact absurd hlt (Nat.lt_irrefl _)
  · exact absurd (hsorted n m hn hm hnm) (Nat.lt_asymm hlt)

/-- A selected join is not folded, so the associations are those of the selected joins that have subqueries. -/
theorem emitted_selected (c : Criteria) :
    (c.emitted.map (·.1.join)).filter (·.select) = c.joins.filter (·.select) := by
  have hfolded : ∀ e : LinkedJoin × Nat, e.1.join.select = true →
      (!isFolded (withLinks c.joins) e.2 e.1.join) = true := by
    intro e hselected
    simp [isFolded, hselected]
  conv_rhs => rw [← zipIdx_joins c.joins]
  rw [emitted, laterals, List.filter_map, List.filter_map, List.filter_filter]
  congr 1
  refine List.filter_congr fun e _ => ?_
  cases hselected : e.1.join.select with
  | false => simp [hselected]
  | true => simp [hselected, hfolded e hselected]

theorem associated_joins (c : Criteria) : c.associated.map (·.1.1.join) = c.joins.filter (·.select) := by
  have hcomp : c.associated.map (·.1.1.join) = ((c.emitted.zipIdx.map (·.1)).map (·.1.join)).filter (·.select) := by
    rw [associated, List.map_map, List.filter_map]
    rfl
  rw [hcomp, List.zipIdx_map_fst, emitted_selected]

end Criteria

namespace Compiler

variable {c : Compiler} {table : String} {criteria : Criteria} {s : JoinedSelect}

theorem planned_eq (criteria : Criteria) : planned criteria.joins = criteria.emitted.map (·.1) := rfl

/-- The subqueries are those of the joins that have one, in the order of the joins. -/
theorem Joined.subqueries (h : c.Joined table criteria s) :
    List.Forall₂ (fun l e => c.Subquery e.1 l) s.laterals criteria.emitted := by
  have hlaterals := h.laterals
  rw [planned_eq, List.forall₂_map_right_iff] at hlaterals
  exact hlaterals.imp fun l e => lateral_ok

/-- The columns of the associations are those of the selected joins, each with the place of its subquery. -/
theorem Joined.columns_placed (h : c.Joined table criteria s) :
    List.Forall₂ (fun a e => criteria.emitted[e.2]? = some e.1 ∧
        c.association e.1.1.join (planned criteria.joins).length = .ok a)
      s.associations criteria.associated := by
  have hall := h.associations
  rw [← criteria.associated_joins, List.forall₂_map_right_iff] at hall
  refine .flip ((List.forall₂_and_left _ _).mpr ⟨fun e he => ?_, .flip hall⟩)
  exact List.mem_zipIdx_iff_getElem?.mp (List.mem_filter.mp he).1

/-- Items in the same place of related lists are related. -/
theorem getElem?_forall₂ {α β : Type} {R : α → β → Prop} {xs : List α} {ys : List β} (h : List.Forall₂ R xs ys)
    {n : Nat} {x : α} (hx : xs[n]? = some x) : ∃ y, ys[n]? = some y ∧ R x y := by
  induction h generalizing n with
  | nil => cases hx
  | @cons _ y _ ys hxy _ ih =>
    cases n with
    | zero => exact ⟨y, rfl, Option.some.inj hx ▸ hxy⟩
    | succ n => exact ih hx

end Compiler

end SqlAdapter
