/-
The text of a select with joins: its columns, the subqueries behind FROM, and the
rest.

`Compiler.Selects` spells it out, word for word, from the table and the criteria
alone. The columns are those of the root that no join takes out, and one for each
selected join, of the rows of the subquery with its name. Behind FROM stand the
root and one subquery for each join that is not folded, each under its name. A
compiled select has just this text (`Compiler.compile_selects`); what is proved of
the parts of a joined select is about its text by that.
-/
import SqlAdapter.Proofs.Sql.Query
import SqlAdapter.Proofs.Statement.Request
import SqlAdapter.Proofs.Statement.Texts

namespace SqlAdapter

/-! ## Columns of the root -/

namespace Criteria

/-- The keys that joins take out of the columns of the root. -/
def removedKeys (c : Criteria) (root : String) : List String :=
  (c.joins.filter fun j =>
    j.removeParentKey && j.select && Identifier.truncate j.parent == root).map (·.parentKey)

/-- The columns of the root that are left. -/
def keptNames (c : Criteria) (root : String) (t : Table) : List String :=
  (t.columns.map (·.name)).filter (!(c.removedKeys root).contains ·)

end Criteria

namespace Compiler

variable {c : Compiler} {table : String} {criteria : Criteria}

/-- The columns of the root as they are written: all of them at once, or one by one those that are left. -/
def rootItems (c : Compiler) (root : String) (criteria : Criteria) : List String :=
  if criteria.removedKeys root = [] then [Identifier.quote root ++ ".*"]
  else ((c.schema.get? root).toList.flatMap fun t => criteria.keptNames root t).map (Identifier.qualified root)

/-- In the list of what is selected, the columns of the root stand before the others. -/
theorem rootItems_ok {root : String} {s : JoinedSelect} (hroot : s.root = root)
    (h : c.rootColumns root criteria.joins = .ok s.columns) (columns : List String) :
    ", ".intercalate (s.rootSql :: columns) = ", ".intercalate (c.rootItems root criteria ++ columns) := by
  simp only [rootColumns] at h
  split at h
  · next hnone =>
    have hremoved : criteria.removedKeys root = [] := List.isEmpty_iff.mp hnone
    rw [rootItems, if_pos hremoved, JoinedSelect.rootSql, ← Except.ok.inj h, hroot]
    rfl
  · next hsome =>
    have hremoved : criteria.removedKeys root ≠ [] := fun hnone => hsome (List.isEmpty_iff.mpr hnone)
    split at h
    · cases h
    · next t ht =>
      split at h
      · cases h
      · next hleft =>
        have hnames : criteria.keptNames root t ≠ [] := fun hnone => hleft (List.isEmpty_iff.mpr hnone)
        have hcolumns : s.columns = .some (criteria.keptNames root t) := (Except.ok.inj h).symm
        rw [rootItems, if_neg hremoved, ht, Option.toList_some, List.flatMap_singleton, JoinedSelect.rootSql,
          hcolumns, hroot]
        exact intercalate_intercalate_cons (by simpa using hnames) columns

/-! ## Columns of the associations -/

/-- The keys by which the rows of a join stand in its column: those of the join, else the primary key of the children. -/
def rowKeys (c : Compiler) (j : Join Criteria) : List SortKey :=
  if j.nested.sort = [] then [⟨c.keyOf (Identifier.truncate j.child), .ascending⟩] else j.nested.sort

/-- The rows of the subquery of a join as an array, without the empty row of a parent that has none. -/
def rowsText (c : Compiler) (j : Join Criteria) : String :=
  "array_remove(array_agg(" ++ Identifier.quote (lateralName j) ++ ".* " ++
    SortKey.orderText (lateralName j) (c.rowKeys j) ++ "), NULL)"

/-- The first rows of a join where there is a slice of them, else all of them. -/
def slicedText (c : Compiler) (j : Join Criteria) : (slice : Option Int) → String
  | some n => "(" ++ c.rowsText j ++ ")[1:" ++ integerText n ++ "]"
  | none => c.rowsText j

/-- The column of a selected join, under its name. -/
def columnText (c : Compiler) (j : Join Criteria) (slice : Option Int) : String :=
  "array_to_json(" ++ c.slicedText j slice ++ ") AS " ++ Identifier.quote (Identifier.truncate j.name)

/-- How many rows a limit leaves in a column: as many as it says, or as an array can have. No rows are cut where the
subqueries are several and repeat each other's rows. -/
def sliceOf (limit : Option Int64) (subqueries : Nat) : Option Int :=
  if subqueries = 1 then limit.map fun n => min n.toInt 2147483647 else none

theorem window_sql {limit : Option Int64} (h : ∀ n, limit = some n → 0 ≤ n.toInt) (subqueries : Nat) :
    (Window.forJoin limit subqueries).map Window.sql =
      (sliceOf limit subqueries).map fun n => "[1:" ++ integerText n ++ "]" := by
  unfold Window.forJoin sliceOf
  split
  · next n =>
    have hstart : "[" ++ integerText 1 ++ ":" = "[1:" := by decide +kernel
    have hlast : Window.maxPosition = 2147483647 := rfl
    rw [if_pos rfl, Option.map_some, Option.map_some, Option.map_some, Window.sql, Int.max_eq_left (h n rfl), hlast,
      hstart]
  · next hnone =>
    cases limit with
    | none => split <;> rfl
    | some n =>
      rw [if_neg fun hone => hnone n rfl hone]
      rfl

theorem Aggregate.order_eq {j : Join Criteria} {subqueries : Nat} {a : AssociationColumn}
    (h : c.Aggregate j subqueries a) : a.order = (c.rowKeys j).map (SortKey.orderKey (lateralName j)) := by
  obtain ⟨order, horder, ha⟩ := h.order
  rw [ha, order_keys horder, List.isEmpty_map, rowKeys]
  by_cases hsort : j.nested.sort = []
  · rw [hsort, if_pos rfl, if_pos List.isEmpty_nil]
    rfl
  · rw [if_neg hsort, if_neg (by simpa using hsort)]

theorem Aggregate.order_ne_nil {j : Join Criteria} {subqueries : Nat} {a : AssociationColumn}
    (h : c.Aggregate j subqueries a) : a.order ≠ [] := by
  rw [h.order_eq, ne_eq, List.map_eq_nil_iff, rowKeys]
  split
  · exact List.cons_ne_nil _ _
  · assumption

theorem Aggregate.aggregate_eq {j : Join Criteria} {subqueries : Nat} {a : AssociationColumn}
    (h : c.Aggregate j subqueries a) : a.aggregate = c.rowsText j := by
  have hrows : c.rowsText j = "array_remove(array_agg(" ++ Identifier.quote a.lateral ++ ".* " ++
      OrderKey.clause a.order ++ "), NULL)" := by
    rw [h.order_eq, SortKey.clause_eq, h.lateral]
    rfl
  have hopen : ".* ORDER BY " = (".* " : String) ++ "ORDER BY " := rfl
  have haggregate : a.aggregate = "array_remove(array_agg(" ++ Identifier.quote a.lateral ++ ".* ORDER BY " ++
      OrderKey.listSql a.order ++ "), NULL)" := rfl
  rw [hrows, haggregate, OrderKey.clause_of_ne_nil h.order_ne_nil, hopen]
  simp only [String.append_assoc]

theorem columnSql_eq (a : AssociationColumn) : a.sql = "array_to_json(" ++
    (a.window.map fun w => "(" ++ a.aggregate ++ ")" ++ w.sql).getD a.aggregate ++ ") AS " ++ Identifier.quote a.name := by
  obtain ⟨lateral, order, window, name⟩ := a
  cases window <;> rfl

/-- The column of a join is written as its rows, cut where there is a slice. -/
theorem Aggregate.sql_eq {j : Join Criteria} {subqueries : Nat} {a : AssociationColumn}
    (h : c.Aggregate j subqueries a) (hlimit : ∀ n, j.nested.limit = some n → 0 ≤ n.toInt) :
    a.sql = c.columnText j (sliceOf j.nested.limit subqueries) := by
  have hwindow := window_sql hlimit subqueries
  rw [← h.window] at hwindow
  rw [columnSql_eq, h.aggregate_eq, h.name]
  refine congrArg (fun rows => "array_to_json(" ++ rows ++ ") AS " ++ Identifier.quote (Identifier.truncate j.name)) ?_
  cases hslice : sliceOf j.nested.limit subqueries with
  | none =>
    rw [hslice, Option.map_none, Option.map_eq_none_iff] at hwindow
    rw [hwindow, slicedText]
    rfl
  | some n =>
    rw [hslice, Option.map_some, Option.map_eq_some_iff] at hwindow
    obtain ⟨w, hw, hcut⟩ := hwindow
    have hopen : ")[1:" = (")" : String) ++ "[1:" := rfl
    rw [hw, slicedText, hopen, Option.map_some, Option.getD_some, hcut]
    simp only [String.append_assoc]

/-! ## Subqueries -/

/-- The text is the filter of a predicate on a table, its values numbered from somewhere on. -/
def Filters (c : Compiler) (name : String) (p : Predicate) (text : String) : Prop :=
  ∃ t next, c.filter name (some p) = .ok (some t) ∧ text = t.sqlFrom next

/-- The text is the subquery of a join. It reads the children, behind the junction table where there is one; it has the
filters in parentheses and the equation with the key of the parent; and it is named for its join. -/
def Subselects (c : Compiler) (j : LinkedJoin) (text : String) : Prop :=
  ∃ filters next,
    List.Forall₂ (fun filter (asked : String × Predicate) => c.Filters asked.1 asked.2 filter) filters j.predicates ∧
    text = "LEFT JOIN LATERAL (SELECT " ++ Identifier.quote j.child ++ ".* FROM " ++ j.source ++ " WHERE " ++
      " AND ".intercalate (filters.map (fun filter => "(" ++ filter ++ ")") ++ [j.inner.sql ++ " = " ++ j.outer.sql]) ++
      " " ++ SortKey.orderText j.child j.join.nested.sort ++ " LIMIT " ++ placeholder next ++ " OFFSET " ++
      placeholder (next + 1) ++ ") AS " ++ Identifier.quote (lateralName j.join) ++ " ON TRUE"

theorem filter_rel {name : String} {predicate : Option Predicate} {filter : Option Template}
    (h : c.filter name predicate = .ok filter) :
    Option.Rel (fun t p => c.filter name (some p) = .ok (some t)) filter predicate := by
  cases predicate with
  | none =>
    cases h
    exact .none
  | some p =>
    obtain ⟨_, -, hmade⟩ := Result.bind_ok_iff.mp h
    obtain ⟨t, -, hmade⟩ := Result.bind_ok_iff.mp hmade
    obtain rfl := Result.pure_ok_iff.mp hmade
    exact .some h

theorem filter_text {name : String} {predicate : Option Predicate} {filter : Option Template}
    (h : c.filter name predicate = .ok filter) (next : Nat) :
    Option.Rel (fun text p => c.Filters name p text) (filter.map (Template.sqlFrom next)) predicate := by
  cases filter_rel h with
  | none => exact .none
  | some hone => exact .some ⟨_, next, hone, rfl⟩

/-- There is a filter for each predicate, in the same order. -/
theorem Subquery.filters_rel {j : LinkedJoin} {l : Lateral} (h : c.Subquery j l) :
    List.Forall₂ (fun t (asked : String × Predicate) => c.filter asked.1 (some asked.2) = .ok (some t))
      l.filters j.predicates := by
  obtain ⟨fs, hfs, hfilters⟩ := h.filters
  rw [hfilters]
  refine List.rel_flatMap hfs fun filter asked hfilter => ?_
  obtain ⟨name, predicate⟩ := asked
  cases filter_rel hfilter with
  | none => exact .nil
  | some hone => exact .cons hone .nil

theorem Subquery.subselects {j : LinkedJoin} {l : Lateral} (h : c.Subquery j l) (next : Nat) :
    c.Subselects j (Template.sqlFrom next l.template) := by
  have hfilters : List.Forall₂ (fun filter (asked : String × Predicate) => c.Filters asked.1 asked.2 filter)
      (Template.texts next l.filters) j.predicates :=
    (Template.rel_texts h.filters_rel next).imp fun _ _ ⟨t, n, ht, htext⟩ => ⟨t, n, ht, htext⟩
  have hopen : "LEFT JOIN LATERAL (SELECT " = ("LEFT JOIN LATERAL (" : String) ++ "SELECT " := rfl
  have hlimit : " LIMIT " = (" " : String) ++ "LIMIT " := rfl
  refine ⟨_, next + (Template.intercalate " AND " l.conditions).params.length, hfilters, ?_⟩
  rw [l.sqlFrom_template, l.sqlFrom_subquery, l.sqlFrom_condition, Template.texts_enclosed, Page.sqlFrom_template,
    h.child, h.name, h.inner, h.outer, h.source, order_keys h.order, SortKey.clause_eq, hopen, hlimit]
  simp only [String.append_assoc]

/-! ## Names in the text -/

/-- The text is a column of an array under a name. -/
def ColumnAs (name text : String) : Prop := ∃ rows, text = "array_to_json(" ++ rows ++ ") AS " ++ Identifier.quote name

/-- The text is a subquery behind FROM under a name. -/
def LateralAs (name text : String) : Prop :=
  ∃ body, text = "LEFT JOIN LATERAL (" ++ body ++ ") AS " ++ Identifier.quote name ++ " ON TRUE"

theorem columnAs_columnText (c : Compiler) (j : Join Criteria) (slice : Option Int) :
    ColumnAs (Identifier.truncate j.name) (c.columnText j slice) := ⟨c.slicedText j slice, rfl⟩

theorem Subselects.lateralAs {j : LinkedJoin} {text : String} (h : c.Subselects j text) :
    LateralAs (lateralName j.join) text := by
  obtain ⟨filters, next, -, rfl⟩ := h
  have hopen : "LEFT JOIN LATERAL (SELECT " = ("LEFT JOIN LATERAL (" : String) ++ "SELECT " := rfl
  refine ⟨"SELECT " ++ Identifier.quote j.child ++ ".* FROM " ++ j.source ++ " WHERE " ++
    " AND ".intercalate (filters.map (fun filter => "(" ++ filter ++ ")") ++ [j.inner.sql ++ " = " ++ j.outer.sql]) ++
    " " ++ SortKey.orderText j.child j.join.nested.sort ++ " LIMIT " ++ placeholder next ++ " OFFSET " ++
    placeholder (next + 1), ?_⟩
  rw [hopen]
  simp only [String.append_assoc]

/-! ## The whole select -/

/-- The text is the select of the rows of a table with their associations: the columns of the root and these, from the
root with these subqueries. -/
structure Selects (c : Compiler) (table : String) (criteria : Criteria) (columns subqueries : List String)
    (text : String) : Prop where
  text : ∃ filter next,
    Option.Rel (fun filter p => c.Filters (Identifier.truncate table) p filter) filter criteria.predicate ∧
    text = "SELECT " ++ ", ".intercalate (c.rootItems (Identifier.truncate table) criteria ++ columns) ++
      " FROM " ++ Identifier.quote (Identifier.truncate table) ++ String.join (subqueries.map (" " ++ ·)) ++
      (whereText filter ++ " GROUP BY " ++
        Identifier.qualified (Identifier.truncate table) (c.keyOf (Identifier.truncate table)) ++ " " ++
        SortKey.orderText (Identifier.truncate table) criteria.sort ++ " LIMIT " ++ placeholder next ++ " OFFSET " ++
        placeholder (next + 1))
  /-- One column for each selected join. -/
  columns : columns = (criteria.joins.filter (·.select)).map fun j =>
    c.columnText j (sliceOf j.nested.limit criteria.emitted.length)
  /-- One subquery for each join that is not folded. -/
  subqueries : List.Forall₂ (fun text (e : LinkedJoin × Nat) => c.Subselects e.1 text) subqueries criteria.emitted

theorem Joined.columns_sql {s : JoinedSelect} (h : c.Joined table criteria s) :
    s.associations.map AssociationColumn.sql = (criteria.joins.filter (·.select)).map fun j =>
      c.columnText j (sliceOf j.nested.limit criteria.emitted.length) := by
  have hcount : (planned criteria.joins).length = criteria.emitted.length := List.length_map _
  rw [← criteria.associated_joins, List.map_map]
  refine Result.forall₂_map_iff.mp (h.columns_placed.imp fun a e ⟨hplace, ha⟩ => ?_)
  -- The column's limit is that of a subquery, where it has been checked.
  obtain ⟨l, -, hsubquery⟩ := getElem?_forall₂ h.subqueries.flip hplace
  rw [hcount] at ha
  exact (association_ok ha).sql_eq (Page.limit_nonneg hsubquery.page)

/-- A joined select is written as the select of its criteria. -/
theorem Joined.selects {s : JoinedSelect} (h : c.Joined table criteria s) :
    c.Selects table criteria (s.associations.map AssociationColumn.sql)
      (Template.texts 1 (s.laterals.map Lateral.template)) (s.template.sqlFrom 1) := by
  have hlaterals : List.Forall₂ (fun t (e : LinkedJoin × Nat) => ∃ l : Lateral, c.Subquery e.1 l ∧ t = l.template)
      (s.laterals.map Lateral.template) criteria.emitted :=
    List.forall₂_map_left_iff.mpr (h.subqueries.imp fun l _ hl => ⟨l, hl, rfl⟩)
  refine ⟨?_, h.columns_sql, (Template.rel_texts hlaterals 1).imp fun text e => ?_⟩
  · let before := 1 + ((s.laterals.map Lateral.template).flatMap Template.params).length
    refine ⟨_, before + (filterParams s.filter).length, filter_text h.filter before, ?_⟩
    have hsql : s.template.sqlFrom 1 = _ := congrArg Query.sql (Statement.written_joined s)
    have hlist : s.listSql = ", ".intercalate (c.rootItems (Identifier.truncate table) criteria ++
        s.associations.map AssociationColumn.sql) := rootItems_ok h.root h.columns _
    have hkey : s.key.sql = Identifier.qualified (Identifier.truncate table) (c.keyOf (Identifier.truncate table)) := by
      rw [h.key]
      rfl
    have hlimit : " LIMIT " = (" " : String) ++ "LIMIT " := rfl
    rw [hsql]
    dsimp only
    rw [hlist, h.root, hkey, order_keys h.order, SortKey.clause_eq, Page.sqlFrom_template, hlimit]
    simp only [String.append_assoc]
    rfl
  · rintro ⟨_, next, ⟨l, hl, rfl⟩, rfl⟩
    exact hl.subselects next

/-- A query for criteria with joins is the text and the values of a joined select. -/
theorem compile_joined (hjoins : criteria.joins ≠ []) {q : Query} (h : c.compile table (.select criteria) = .ok q) :
    ∃ s, c.statement table (.select criteria) = .ok (.joined s) ∧ q = ⟨s.template.sqlFrom 1, s.template.params⟩ ∧
      c.Joined table criteria s := by
  rw [compile_eq, Result.bind_ok_iff] at h
  obtain ⟨statement, hs, hq⟩ := h
  cases statement_ok hs with
  | select hnone => exact absurd hnone hjoins
  | @joined _ s _ hjoined => exact ⟨s, hs, (Query.make_ok_iff.mp hq).1, hjoined⟩

/-- A compiled select with joins has one column for each selected join and one subquery for each join that is not
folded, and nothing else beside the columns of the root and its clauses. -/
theorem compile_selects (hjoins : criteria.joins ≠ []) {q : Query} (h : c.compile table (.select criteria) = .ok q) :
    ∃ columns subqueries, c.Selects table criteria columns subqueries q.sql := by
  obtain ⟨s, -, rfl, hjoined⟩ := compile_joined hjoins h
  exact ⟨_, _, hjoined.selects⟩

end Compiler

end SqlAdapter
