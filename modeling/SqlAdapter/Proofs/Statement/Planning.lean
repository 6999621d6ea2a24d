/-
What becomes of each join of a select.

A join has a subquery of its own, or it is a hidden one into a junction table
and a junction join of the same name goes through it: the subquery of that one
reads the junction table as well, and has the keys and the filter of the hidden
join (`Compiler.Through`). A selected join has one column besides, of the rows
of its own subquery (`Compiler.Collects`), which are cut once more where no
other subquery repeats them. `Compiler.joins_kept` puts this together for the
text of a compiled select: no join is lost, and no subquery and no column is
there without one.
-/
import SqlAdapter.Proofs.Statement.Scope

namespace SqlAdapter

namespace Compiler

variable {c : Compiler} {table : String} {criteria : Criteria} {columns subqueries : List String} {text : String}

/-! ## Subqueries -/

/-- The text is the subquery of a junction join that goes through a join of the same name: it reads that join's table
before the children, and it has that join's keys on the side of the parent, and that join's filter among its own. -/
structure Through (c : Compiler) (hidden : Join Criteria) (j : LinkedJoin) (text : String) : Prop where
  junction : j.join.junction = true
  name : j.join.name = hidden.name
  text : ∃ conditions rest,
    text = "LEFT JOIN LATERAL (SELECT " ++ Identifier.quote j.child ++ ".* FROM " ++
      Identifier.quote (Identifier.truncate hidden.child) ++ " JOIN " ++ Identifier.quote j.child ++ " ON " ++
      Identifier.qualified j.child j.join.childKey ++ " = " ++
      Identifier.qualified (Identifier.truncate hidden.child) j.join.parentKey ++ " WHERE " ++
      " AND ".intercalate (conditions ++ [Identifier.qualified (Identifier.truncate hidden.child) hidden.childKey ++
        " = " ++ Identifier.qualified (Identifier.truncate hidden.parent) hidden.parentKey]) ++ rest ∧
    ∀ p, hidden.nested.predicate = some p →
      ∃ filter, c.Filters (Identifier.truncate hidden.child) p filter ∧ "(" ++ filter ++ ")" ∈ conditions

theorem Subselects.through {joins : List (Join Criteria)} {j : LinkedJoin} {hidden : Join Criteria} {place : Nat}
    (h : c.Subselects j text) (hj : link? joins j.join = some (hidden, place))
    (hlink : j.link = some (hidden, place)) : c.Through hidden j text := by
  obtain ⟨-, hjunction, -, hname, htable⟩ := link?_some hj
  obtain ⟨filters, next, hfilters, rfl⟩ := h
  have hparent : j.parent = Identifier.truncate hidden.child := htable.symm
  have hsource : j.source = Identifier.quote (Identifier.truncate hidden.child) ++ " JOIN " ++
      Identifier.quote j.child ++ " ON " ++ Identifier.qualified j.child j.join.childKey ++ " = " ++
      Identifier.qualified (Identifier.truncate hidden.child) j.join.parentKey := by
    simp only [LinkedJoin.source, LinkedJoin.junction, hlink, Option.map_some, hparent, ColumnRef.sql]
  have hkeys : j.inner.sql ++ " = " ++ j.outer.sql =
      Identifier.qualified (Identifier.truncate hidden.child) hidden.childKey ++ " = " ++
        Identifier.qualified (Identifier.truncate hidden.parent) hidden.parentKey := by
    simp only [LinkedJoin.inner, LinkedJoin.outer, hlink, hparent, ColumnRef.sql]
  refine ⟨hjunction, hname.symm, filters.map fun filter => "(" ++ filter ++ ")",
    " " ++ SortKey.orderText j.child j.join.nested.sort ++ " LIMIT " ++ placeholder next ++ " OFFSET " ++
      placeholder (next + 1) ++ ") AS " ++ Identifier.quote (lateralName j.join) ++ " ON TRUE", ?_, fun p hp => ?_⟩
  · rw [hsource, hkeys]
    simp only [String.append_assoc]
  · have hasked : (Identifier.truncate hidden.child, p) ∈ j.predicates := by
      rw [LinkedJoin.predicates, LinkedJoin.filters, hlink, hparent]
      simp [hp]
    obtain ⟨n, hn⟩ := List.mem_iff_getElem?.mp hasked
    obtain ⟨filter, hfilter, hwritten⟩ := getElem?_forall₂ hfilters.flip hn
    exact ⟨filter, hwritten, List.mem_map_of_mem (List.mem_of_getElem? hfilter)⟩

theorem withLinks_getElem? {joins : List (Join Criteria)} {place : Nat} {j : LinkedJoin}
    (h : (withLinks joins)[place]? = some j) : joins[place]? = some j.join ∧ j.link = link? joins j.join := by
  rw [withLinks, List.getElem?_map, Option.map_eq_some_iff] at h
  obtain ⟨join, hjoin, rfl⟩ := h
  exact ⟨hjoin, rfl⟩

/-- A junction join has a subquery, for it is no link of another. -/
theorem emits_junction {place : Nat} {j : LinkedJoin} (h : (withLinks criteria.joins)[place]? = some j)
    (hjunction : j.join.junction = true) : criteria.Emits place j := by
  refine ⟨h, ?_⟩
  rintro ⟨_, -, -, other, hother, link, hlink⟩
  obtain ⟨n, hn⟩ := List.mem_iff_getElem?.mp hother
  rw [(withLinks_getElem? hn).2] at hlink
  obtain ⟨hplace, -, hplain, -⟩ := link?_some hlink
  rw [(withLinks_getElem? h).1] at hplace
  obtain rfl := Option.some.inj hplace
  rw [hjunction] at hplain
  cases hplain

theorem Selects.through (h : c.Selects table criteria columns subqueries text) {subquery : String}
    {e : LinkedJoin × Nat} {hidden : Join Criteria} {place : Nat} (he : (subquery, e) ∈ subqueries.zip criteria.emitted)
    (hlink : e.1.link = some (hidden, place)) : c.Through hidden e.1 subquery := by
  obtain ⟨hplace, -⟩ := Criteria.mem_emitted.mp (List.of_mem_zip he).2
  exact (List.forall₂_zip h.subqueries he).through ((withLinks_getElem? hplace).2 ▸ hlink) hlink

/-- A folded join is hidden, and a subquery is linked to it. -/
theorem Selects.folded (h : c.Selects table criteria columns subqueries text) {place : Nat}
    (hfolded : criteria.Folded place) :
    ∃ hidden, criteria.joins[place]? = some hidden ∧ hidden.select = false ∧
      ∃ subquery e, (subquery, e) ∈ subqueries.zip criteria.emitted ∧ e.1.link = some (hidden, place) := by
  obtain ⟨j, hj, hhidden, other, hother, link, hlink⟩ := hfolded
  obtain ⟨n, hn⟩ := List.mem_iff_getElem?.mp hother
  obtain ⟨hplace, hjunction, -⟩ := link?_some ((withLinks_getElem? hn).2 ▸ hlink)
  obtain rfl : j.join = link := Option.some.inj ((withLinks_getElem? hj).1.symm.trans hplace)
  obtain ⟨m, hm⟩ := List.mem_iff_getElem?.mp (Criteria.mem_emitted.mpr (emits_junction hn hjunction))
  obtain ⟨subquery, hsubquery, -⟩ := getElem?_forall₂ h.subqueries.flip hm
  exact ⟨_, hplace, hhidden, subquery, _, List.mem_of_getElem? (List.getElem?_zip_eq_some.mpr ⟨hsubquery, hm⟩), hlink⟩

/-! ## Columns -/

/-- The text is the column of an association: it has the name of its join and the rows of the subquery at a place, which
is that of its join. Where no other subquery is there, it is cut to the limit of the join, or to as many items as an
array can have. -/
structure Collects (c : Compiler) (criteria : Criteria) (subqueries : List String) (column : String)
    (e : (LinkedJoin × Nat) × Nat) : Prop where
  emitted : criteria.emitted[e.2]? = some e.1
  subquery : ∃ text, subqueries[e.2]? = some text ∧ c.Subselects e.1.1 text
  text : ∃ slice, column = c.columnText e.1.1.join slice ∧ ∀ n, slice = some n ↔
    subqueries.length = 1 ∧ ∃ limit, e.1.1.join.nested.limit = some limit ∧ n = min limit.toInt 2147483647

/-- There is a slice exactly for a limit and one subquery alone. -/
theorem sliceOf_eq_some_iff {limit : Option Int64} {count : Nat} {n : Int} :
    sliceOf limit count = some n ↔ count = 1 ∧ ∃ most, limit = some most ∧ n = min most.toInt 2147483647 := by
  rw [sliceOf]
  split
  · next hone => simp only [hone, true_and, Option.map_eq_some_iff, eq_comm (a := n)]
  · next hmore => simp [hmore]

theorem Selects.collected (h : c.Selects table criteria columns subqueries text) :
    List.Forall₂ (c.Collects criteria subqueries) columns criteria.associated := by
  have hcount : criteria.emitted.length = subqueries.length := h.subqueries.length_eq.symm
  rw [h.columns, ← criteria.associated_joins, List.map_map, List.forall₂_map_left_iff, List.forall₂_same]
  intro e he
  have hplace : criteria.emitted[e.2]? = some e.1 := List.mem_zipIdx_iff_getElem?.mp (List.mem_filter.mp he).1
  exact ⟨hplace, getElem?_forall₂ h.subqueries.flip hplace, _, rfl, fun n => hcount ▸ sliceOf_eq_some_iff⟩

/-- No join is lost and none is made up. The text of a compiled select has the subqueries of the joins that are not
folded and the columns of the selected joins, both in order, and each column has the rows of its own join's subquery. A
join is folded only if it is hidden and a subquery of a junction join of its name goes through it. -/
theorem joins_kept (hjoins : criteria.joins ≠ []) {q : Query} (h : c.compile table (.select criteria) = .ok q) :
    ∃ columns subqueries, c.Selects table criteria columns subqueries q.sql ∧
      (∀ place j, (j, place) ∈ criteria.emitted ↔ criteria.Emits place j) ∧ criteria.emitted.Pairwise (·.2 < ·.2) ∧
      List.Forall₂ (fun text e => c.Subselects e.1 text) subqueries criteria.emitted ∧
      criteria.associated.map (·.1.1.join) = criteria.joins.filter (·.select) ∧
      List.Forall₂ (c.Collects criteria subqueries) columns criteria.associated ∧
      ∀ place, criteria.Folded place → ∃ hidden, criteria.joins[place]? = some hidden ∧ hidden.select = false ∧
        (∃ text e, (text, e) ∈ subqueries.zip criteria.emitted ∧ e.1.link = some (hidden, place)) ∧
        ∀ text e, (text, e) ∈ subqueries.zip criteria.emitted → e.1.link = some (hidden, place) →
          c.Through hidden e.1 text := by
  obtain ⟨columns, subqueries, hselects⟩ := compile_selects hjoins h
  refine ⟨columns, subqueries, hselects, fun _ _ => Criteria.mem_emitted, criteria.emitted_sorted, hselects.subqueries,
    criteria.associated_joins, hselects.collected, fun place hplace => ?_⟩
  obtain ⟨hidden, hget, hhidden, hused⟩ := hselects.folded hplace
  exact ⟨hidden, hget, hhidden, hused, fun text e => hselects.through⟩

/-- The memberships of users as administrators, hidden. -/
def adminMemberships : Join Criteria := { (Join.plain "users" "id" "memberships" "user_id" "groups" : Join Criteria) with
  select := false
  criteria := some { Criteria.empty with predicate := some (.compare "role" (.compare .eq) (.string "admin")) } }

/-- Two of the groups of memberships. -/
def twoGroups : Join Criteria := { (Join.plain "memberships" "group_id" "groups" "id" "groups" : Join Criteria) with
  junction := true
  criteria := some { Criteria.empty with limit := some 2 } }

/-- Users, each with two of the groups in which they are administrators. -/
def ownGroups : Criteria := { Criteria.empty with joins := [adminMemberships, twoGroups] }

/-- The memberships are read in the subquery of the groups, with their filter, and the column is cut to two groups. -/
theorem joins_kept_ownGroups : ∃ q column subquery rest, (ofSchema .empty).compile "users" (.select ownGroups) = .ok q ∧
    q.sql = "SELECT \"users\".*, " ++ column ++ " FROM \"users\" " ++ subquery ++ rest ∧
    column = "array_to_json((array_remove(array_agg(\"groupsgroups\".* ORDER BY \"groupsgroups\".\"id\"), NULL))" ++
      "[1:2]) AS \"groups\"" ∧
    (ofSchema .empty).Through adminMemberships ⟨twoGroups, some (adminMemberships, 0)⟩ subquery := by
  obtain ⟨q, hq⟩ : ∃ q, (ofSchema .empty).compile "users" (.select ownGroups) = .ok q :=
    compile_of_isSome .empty (by decide +kernel) (by decide +kernel)
  obtain ⟨columns, subqueries, hselects, -, -, hsubqueries, -, hcolumns, hfolded⟩ := joins_kept (by decide) hq
  have hemitted : ownGroups.emitted = [(⟨twoGroups, some (adminMemberships, 0)⟩, 1)] := rfl
  have hassociated : ownGroups.associated = [((⟨twoGroups, some (adminMemberships, 0)⟩, 1), 0)] := rfl
  rw [hemitted] at hsubqueries
  rw [hassociated] at hcolumns
  obtain ⟨subquery, _, -, hnone, rfl⟩ := List.forall₂_cons_right_iff.mp hsubqueries
  cases hnone
  obtain ⟨column, _, hcolumn, hnone, rfl⟩ := List.forall₂_cons_right_iff.mp hcolumns
  cases hnone
  obtain ⟨slice, hslice, hcut⟩ := hcolumn.text
  obtain rfl : slice = some 2 := (hcut 2).mpr ⟨rfl, 2, rfl, by decide⟩
  have hrows : (ofSchema .empty).columnText twoGroups (some 2) = "array_to_json((array_remove(array_agg(" ++
      "\"groupsgroups\".* ORDER BY \"groupsgroups\".\"id\"), NULL))[1:2]) AS \"groups\"" := by
    decide +kernel
  have hroot : (ofSchema .empty).rootItems (Identifier.truncate "users") ownGroups = ["\"users\".*"] := by
    decide +kernel
  have hfrom : Identifier.quote (Identifier.truncate "users") = "\"users\"" := by decide +kernel
  obtain ⟨hidden, hget, -, -, hthrough⟩ := hfolded 0 ((Criteria.isFolded_iff rfl).mp rfl)
  obtain rfl : adminMemberships = hidden := Option.some.inj hget
  have hgoes := hthrough subquery (⟨twoGroups, some (adminMemberships, 0)⟩, 1) (by simp [hemitted]) rfl
  obtain ⟨filter, next, -, hsql⟩ := hselects.text
  rw [hroot, hfrom, List.singleton_append, String.intercalate_cons_cons, String.intercalate_singleton,
    List.map_singleton, String.join_cons, String.join_nil] at hsql
  have hfront : "SELECT " ++ ("\"users\".*" ++ ", " ++ column) ++ " FROM " ++ "\"users\"" ++ (" " ++ subquery ++ "") =
      "SELECT \"users\".*, " ++ column ++ " FROM \"users\" " ++ subquery := by
    have hlist : "SELECT \"users\".*, " = ("SELECT " : String) ++ ("\"users\".*" ++ ", ") := rfl
    have hopen : " FROM \"users\" " = (" FROM " : String) ++ ("\"users\"" ++ " ") := rfl
    rw [hlist, hopen]
    simp only [String.append_assoc, String.append_empty]
  exact ⟨q, column, subquery, _, hq, hsql.trans (congrArg (· ++ _) hfront), hslice.trans hrows, hgoes⟩

/-- Users, each with as many posts as there are, and more than an array can have. -/
def allPosts : Criteria := { Criteria.empty with
  joins := [{ (Join.plain "users" "id" "posts" "user_id" "posts" : Join Criteria) with
    criteria := some { Criteria.empty with limit := some 2147483648 } }] }

/-- A limit beyond the greatest position of an array is not the bound of the slice. -/
theorem slice_not_limit : ∃ q s a, (ofSchema .empty).compile "users" (.select allPosts) = .ok q ∧
    (ofSchema .empty).statement "users" (.select allPosts) = .ok (.joined s) ∧
    allPosts.joins.map (·.nested.limit) = [some 2147483648] ∧ s.laterals.length = 1 ∧ s.associations = [a] ∧
    a.window ≠ some ⟨1, 2147483648⟩ ∧ a.window.map Window.sql = some "[1:2147483647]" := by
  obtain ⟨q, hq⟩ : ∃ q, (ofSchema .empty).compile "users" (.select allPosts) = .ok q :=
    compile_of_isSome .empty (by decide +kernel) (by decide +kernel)
  obtain ⟨s, hs, -, hjoined⟩ := compile_joined (by decide) hq
  have hcount : s.laterals.length = 1 := hjoined.laterals.length_eq.trans rfl
  have hcolumns : List.Forall₂ _ s.associations [_] := hjoined.associations
  obtain ⟨a, rest, ha, hrest, hassociations⟩ := List.forall₂_cons_right_iff.mp hcolumns
  obtain rfl := List.forall₂_nil_right_iff.mp hrest
  have hwindow : a.window = some ⟨1, 2147483647⟩ := (association_ok ha).window
  refine ⟨q, s, a, hq, hs, rfl, hcount, hassociations, ?_, ?_⟩
  · rw [hwindow]
    decide
  · rw [hwindow]
    decide +kernel

end Compiler

end SqlAdapter
