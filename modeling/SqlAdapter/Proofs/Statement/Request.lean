/-
What a request asks for, clause by clause.

A `Request` is any of the five things that can be done to the rows of a table,
and `Request.clauses` lists what it has to say, in the order of the statement:
for every subquery the filter of the children, the filter on the junction table
and the page; then the written values, the filter and the page of the root. The
list is read off the request, without any of the checks of the compiler, and each
clause is spelled out here: a new value behind the name of its column, the limit
behind LIMIT. `Request.values` are the values alone.

`Compiler.statement_ok` says what statement the compiler makes for a request, and
such a statement is written as these clauses (`Compiler.statement_writes`).
-/
import SqlAdapter.Proofs.Statement.Joins
import SqlAdapter.Proofs.Statement.Layout
import SqlAdapter.Statement.Compile

namespace SqlAdapter

/-- What can be done to the rows of a table. -/
inductive Request where
  | select (criteria : Criteria)
  | insert (values : List (String × Value))
  | update (criteria : Criteria) (values : List (String × Value))
  | delete (criteria : Criteria)
  | count (criteria : Criteria)

namespace Compiler

/-- The query for a request. -/
def compile (c : Compiler) (table : String) : Request → Result Query
  | .select criteria => c.select table criteria
  | .insert values => c.insert table values
  | .update criteria values => c.update table criteria values
  | .delete criteria => c.delete table criteria
  | .count criteria => c.count table criteria

/-- The statement for a request. -/
def statement (c : Compiler) (table : String) : Request → Result Statement
  | .select criteria => c.selectStatement table criteria
  | .insert values => c.insertStatement table values
  | .update criteria values => c.updateStatement table criteria values
  | .delete criteria => c.deleteStatement table criteria
  | .count criteria => c.countStatement table criteria

theorem compile_eq (c : Compiler) (table : String) (r : Request) :
    c.compile table r = (c.statement table r >>= Statement.query) := by
  cases r <;> rfl

end Compiler

/-! ## Clauses of a request -/

/-- The page for a limit and a skip, by default all rows. -/
def pageClause (limit skip : Option Int64) : Template :=
  [.text "LIMIT ", .value (.bigInt (limit.getD Int64.maxValue)), .text " OFFSET ", .value (.bigInt (skip.getD 0))]

/-- A column and its new value. -/
def cellClause (cell : String × Value) : Template := [.text (Identifier.quote cell.1 ++ " = "), .value cell.2]

/-- The columns of a new row and their values, both in one order; without any, the defaults. -/
def rowClause : List (String × Value) → Template
  | [] => [.text " DEFAULT VALUES"]
  | cells => .text (" (" ++ ", ".intercalate (cells.map fun cell => Identifier.quote cell.1) ++ ") VALUES ") ::
    Condition.items (cells.map (·.2))

/-- The clauses of the subquery of a join. -/
def Compiler.LinkedJoin.clauses (j : LinkedJoin) : List Template :=
  filterClauses (Identifier.truncate j.join.child) j.join.nested.predicate ++
    (j.link.toList.flatMap fun (link, _) =>
      filterClauses (Identifier.truncate j.join.parent) link.nested.predicate) ++
    [pageClause j.join.nested.limit j.join.nested.skip]

namespace Criteria

/-- The clauses of the subqueries, in the order of the joins. -/
def joinClauses (c : Criteria) : List (List Template) :=
  (Compiler.laterals (Compiler.withLinks c.joins)).map fun (j, _) => j.clauses

end Criteria

/-- A value as the column holds it. -/
def Schema.written (schema : Schema) (table column : String) (value : Value) : Value :=
  match (schema.get? table).bind (·.find? column) with
  | some a => a.encode value
  | none => value

/-- Values, each as its column holds it. -/
def Schema.writtenAll (schema : Schema) (table : String) (values : List (String × Value)) :
    List (String × Value) :=
  values.map fun (column, value) => (column, schema.written table column value)

namespace Request

/-- All clauses with values, in the order of the statement. -/
def clauses (schema : Schema) (table : String) : Request → List Template
  | .select criteria =>
    criteria.joinClauses.flatten ++ filterClauses (Identifier.truncate table) criteria.predicate ++
      [pageClause criteria.limit criteria.skip]
  | .insert values => [rowClause (schema.writtenAll (Identifier.truncate table) values)]
  | .update criteria values =>
    (schema.writtenAll (Identifier.truncate table) values).map cellClause ++
      filterClauses (Identifier.truncate table) criteria.predicate
  | .delete criteria | .count criteria => filterClauses (Identifier.truncate table) criteria.predicate

end Request

/-! ## Values of a request -/

/-- The values of a filter, in the order of the text; strings that hold JSON arrays are arrays among them. -/
def filterValues (table : String) (predicate : Option Predicate) : List Value :=
  predicate.toList.flatMap fun p => (p.condition table).values.map Value.unbracketed

/-- The values of a page. -/
def pageValues (limit skip : Option Int64) : List Value :=
  [.bigInt (limit.getD Int64.maxValue), .bigInt (skip.getD 0)]

/-- The values of the subquery of a join: those of its filter, those of the filter on the junction table, and the page. -/
def Compiler.LinkedJoin.values (j : LinkedJoin) : List Value :=
  filterValues (Identifier.truncate j.join.child) j.join.nested.predicate ++
    (j.link.toList.flatMap fun (link, _) =>
      filterValues (Identifier.truncate j.join.parent) link.nested.predicate) ++
    pageValues j.join.nested.limit j.join.nested.skip

namespace Request

/-- All values, in the order of the statement. -/
def values (schema : Schema) (table : String) : Request → List Value
  | .select criteria =>
    ((Compiler.laterals (Compiler.withLinks criteria.joins)).flatMap fun (j, _) => j.values) ++
      filterValues (Identifier.truncate table) criteria.predicate ++ pageValues criteria.limit criteria.skip
  | .insert values => values.map fun (column, value) => schema.written (Identifier.truncate table) column value
  | .update criteria values =>
    (values.map fun (column, value) => schema.written (Identifier.truncate table) column value) ++
      filterValues (Identifier.truncate table) criteria.predicate
  | .delete criteria | .count criteria => filterValues (Identifier.truncate table) criteria.predicate

end Request

theorem params_filterClauses (table : String) (predicate : Option Predicate) :
    (filterClauses table predicate).flatMap Template.params = filterValues table predicate := by
  rw [filterClauses, List.flatMap_map, filterValues]
  refine List.flatMap_congr fun p _ => ?_
  rw [Template.params_map, Condition.clause_params]

theorem params_cellClauses (cells : List (String × Value)) :
    (cells.map cellClause).flatMap Template.params = cells.map (·.2) := by
  rw [List.flatMap_map]
  exact List.flatMap_pure_eq_map ..

theorem params_rowClause (cells : List (String × Value)) : (rowClause cells).params = cells.map (·.2) := by
  cases cells with
  | nil => rfl
  | cons cell cells => exact Condition.items_params _

theorem Compiler.LinkedJoin.params_clauses (j : LinkedJoin) : j.clauses.flatMap Template.params = j.values := by
  rw [clauses, values, List.flatMap_append, List.flatMap_append, List.flatMap_assoc, params_filterClauses]
  simp only [params_filterClauses]
  rfl

/-- The values of a request are those of its clauses, one clause after another. -/
theorem Request.params_clauses (schema : Schema) (table : String) (r : Request) :
    (r.clauses schema table).flatMap Template.params = r.values schema table := by
  have hwritten : ∀ values : List (String × Value), (schema.writtenAll (Identifier.truncate table) values).map (·.2) =
      values.map fun (column, value) => schema.written (Identifier.truncate table) column value := by
    intro values
    rw [Schema.writtenAll, List.map_map]
    rfl
  cases r with
  | select criteria =>
    have hjoins : criteria.joinClauses.flatten.flatMap Template.params =
        (Compiler.laterals (Compiler.withLinks criteria.joins)).flatMap fun (j, _) => j.values := by
      rw [Criteria.joinClauses, ← List.flatMap_def, List.flatMap_assoc]
      exact List.flatMap_congr fun e _ => e.1.params_clauses
    rw [clauses, List.flatMap_append, List.flatMap_append, hjoins, params_filterClauses, Request.values]
    rfl
  | insert values => rw [clauses, List.flatMap_singleton, params_rowClause, hwritten, Request.values]
  | update criteria values =>
    rw [clauses, List.flatMap_append, params_cellClauses, params_filterClauses, hwritten, Request.values]
  | delete criteria => exact params_filterClauses _ _
  | count criteria => exact params_filterClauses _ _

/-! ## What the compiler makes of each part -/

namespace Compiler

variable {schema : Schema} {table : String}

theorem page_ok {limit skip : Option Int64} {page : Page} (h : Page.make limit skip = .ok page) :
    page.template = pageClause limit skip := by
  simp only [Page.make] at h
  split at h
  · cases h
  · cases h
    rfl

theorem assignments_writes (values : List (String × Value)) :
    Template.Writes (Statement.assignments values) (values.map cellClause) := by
  have hcells : List.Forall₂ Template.Writes (values.map cellClause) ((values.map cellClause).map fun t => [t]) :=
    List.forall₂_map_right_iff.mpr (List.forall₂_same.mpr fun t _ => .clause t)
  have hall := Template.Writes.intercalate .comma hcells
  rw [← List.flatMap_def, List.flatMap_singleton'] at hall
  exact hall

theorem insertion_writes (values : List (String × Value)) :
    Template.Writes (Statement.insertion values) [rowClause values] := by
  refine Template.Writes.same ?_ (.clause _)
  cases values with
  | nil => exact .refl _
  | cons cell cells =>
    have hopen : ") VALUES (" = (") VALUES " : String) ++ "(" := rfl
    rw [Statement.insertion, Identifier.quoteAll_map, hopen, ← String.append_assoc, rowClause, Condition.items, List.map_map]
    · exact .text _ _ _
    · exact List.cons_ne_nil _ _
    · exact List.cons_ne_nil _ _

theorem encode_ok {column : String} {value v : Value} (h : (ofSchema schema).encode table column value = .ok v) :
    v = schema.written table column value := by
  rw [encode, Result.bind_ok_iff] at h
  obtain ⟨_, -, h⟩ := h
  rw [Schema.written]
  split at h
  · next hnone =>
    have hget : schema.get? table = none := hnone
    rw [hget]
    exact (Result.pure_ok_iff.mp h).symm
  · next t hsome =>
    have hget : schema.get? table = some t := hsome
    rw [hget, Option.bind_some]
    split at h
    · cases h
    · next a hfind =>
      rw [hfind]
      split at h
      · cases h
      · exact (Result.pure_ok_iff.mp h).symm

theorem encodeAll_ok {values written : List (String × Value)}
    (h : (ofSchema schema).encodeAll table values = .ok written) : written = schema.writtenAll table values := by
  have hall := Result.mapM_ok h
  refine (Result.forall₂_eq_map_iff.mp (hall.imp fun cell v hv => ?_)).symm
  obtain ⟨column, value⟩ := cell
  rw [Result.bind_ok_iff] at hv
  obtain ⟨w, hw, hv⟩ := hv
  rw [encode_ok hw] at hv
  exact Result.pure_ok_iff.mp hv

/-- The filters of a subquery are written as the clauses of its predicates. -/
theorem lateral_filters {j : LinkedJoin} {l : Lateral} (h : (ofSchema schema).lateral j = .ok l) :
    List.Forall₂ Template.Same l.filters (j.filters.flatMap fun filter => filterClauses filter.1 filter.2) := by
  obtain ⟨fs, hfs, hfilters⟩ := (lateral_ok h).filters
  rw [hfilters]
  exact List.rel_flatMap hfs fun f filter => filter_ok

theorem lateral_writes {j : LinkedJoin} {l : Lateral} (h : (ofSchema schema).lateral j = .ok l) :
    Template.Writes l.template j.clauses := by
  have hclauses : j.clauses = (j.filters.flatMap fun filter => filterClauses filter.1 filter.2) ++
      [pageClause j.join.nested.limit j.join.nested.skip] := by
    rw [LinkedJoin.clauses, LinkedJoin.filters, List.flatMap_cons, List.flatMap_map]
    rfl
  have hwrites := Lateral.writes (lateral_filters h)
  rw [page_ok (lateral_ok h).page, ← hclauses] at hwrites
  exact hwrites

/-- A joined select is written as the clauses of its request. -/
theorem joinedSelect_writes {criteria : Criteria} {s : JoinedSelect} (h : (ofSchema schema).Joined table criteria s) :
    Template.Writes s.template ((Request.select criteria).clauses schema table) := by
  have hclauses : criteria.joinClauses = (planned criteria.joins).map LinkedJoin.clauses := by
    rw [planned, List.map_map]
    rfl
  have hlaterals : List.Forall₂ (fun l clauses => Template.Writes l.template clauses) s.laterals
      criteria.joinClauses := by
    rw [hclauses]
    exact List.forall₂_map_right_iff.mpr (h.laterals.imp fun l j => lateral_writes)
  have hwrites := JoinedSelect.writes hlaterals (filter_ok h.filter)
  rw [page_ok h.page] at hwrites
  exact hwrites

/-- The statement is the one that the compiler makes for a request. -/
inductive Made (c : Compiler) (table : String) : Request → Statement → Prop where
  | select {criteria : Criteria} {filter : Option Template} {order : List OrderKey} {page : Page}
      (hjoins : criteria.joins = [])
      (hfilter : c.filter (Identifier.truncate table) criteria.predicate = .ok filter)
      (horder : c.order (Identifier.truncate table) (Identifier.truncate table) criteria.sort = .ok order)
      (hpage : Page.make criteria.limit criteria.skip = .ok page) :
      Made c table (.select criteria) (.select (Identifier.truncate table) filter order page)
  | joined {criteria : Criteria} {s : JoinedSelect} (hjoins : criteria.joins ≠ [])
      (hjoined : c.Joined table criteria s) : Made c table (.select criteria) (.joined s)
  | insert {values written : List (String × Value)}
      (hwritten : c.encodeAll (Identifier.truncate table) values = .ok written) :
      Made c table (.insert values) (.insert (Identifier.truncate table) written)
  | update {criteria : Criteria} {values written : List (String × Value)} {filter : Option Template}
      (hwritten : c.encodeAll (Identifier.truncate table) values = .ok written)
      (hfilter : c.filter (Identifier.truncate table) criteria.predicate = .ok filter) :
      Made c table (.update criteria values) (.update (Identifier.truncate table) written filter)
  | delete {criteria : Criteria} {filter : Option Template}
      (hfilter : c.filter (Identifier.truncate table) criteria.predicate = .ok filter) :
      Made c table (.delete criteria) (.delete (Identifier.truncate table) filter)
  | count {criteria : Criteria} {filter : Option Template}
      (hfilter : c.filter (Identifier.truncate table) criteria.predicate = .ok filter) :
      Made c table (.count criteria) (.count (Identifier.truncate table) filter)

theorem statement_ok {c : Compiler} {r : Request} {s : Statement} (h : c.statement table r = .ok s) :
    c.Made table r s := by
  cases r with
  | select criteria =>
    rw [statement, selectStatement] at h
    split at h
    · next hjoins =>
      simp only [Result.bind_ok_iff] at h
      obtain ⟨_, -, filter, hfilter, order, horder, page, hpage, h⟩ := h
      cases Result.pure_ok_iff.mp h
      exact .select (List.isEmpty_iff.mp hjoins) hfilter horder hpage
    · next hjoins =>
      rw [Result.bind_ok_iff] at h
      obtain ⟨joined, hjoined, h⟩ := h
      cases Result.pure_ok_iff.mp h
      exact .joined (fun hnone => hjoins (List.isEmpty_iff.mpr hnone)) (joinedSelect_ok hjoined)
  | insert values =>
    simp only [statement, insertStatement, Result.bind_ok_iff] at h
    obtain ⟨_, -, written, hwritten, h⟩ := h
    cases Result.pure_ok_iff.mp h
    exact .insert hwritten
  | update criteria values =>
    rw [statement, updateStatement] at h
    split at h
    · cases h
    · simp only [Result.bind_ok_iff] at h
      obtain ⟨_, -, written, hwritten, filter, hfilter, h⟩ := h
      cases Result.pure_ok_iff.mp h
      exact .update hwritten hfilter
  | delete criteria =>
    simp only [statement, deleteStatement, Result.bind_ok_iff] at h
    obtain ⟨_, -, filter, hfilter, h⟩ := h
    cases Result.pure_ok_iff.mp h
    exact .delete hfilter
  | count criteria =>
    simp only [statement, countStatement, Result.bind_ok_iff] at h
    obtain ⟨_, -, filter, hfilter, h⟩ := h
    cases Result.pure_ok_iff.mp h
    exact .count hfilter

/-- The statement for a request is written as the clauses of the request. -/
theorem statement_writes {r : Request} {s : Statement} (h : (ofSchema schema).statement table r = .ok s) :
    Template.Writes s.template (r.clauses schema table) := by
  cases statement_ok h with
  | @select criteria filter order page hjoins hfilter _ hpage =>
    have hwrites : Template.Writes
        (Statement.select (Identifier.truncate table) filter order page).template _ :=
      Statement.select_writes order page (filter_ok hfilter)
    rw [page_ok hpage] at hwrites
    have hnone : criteria.joinClauses = [] := by
      rw [Criteria.joinClauses, hjoins]
      rfl
    simpa [Request.clauses, hnone] using hwrites
  | joined _ hjoined => exact joinedSelect_writes hjoined
  | insert hwritten =>
    rw [encodeAll_ok hwritten]
    exact Statement.insert_writes (insertion_writes _)
  | update hwritten hfilter =>
    rw [encodeAll_ok hwritten]
    exact Statement.update_writes (assignments_writes _) (filter_ok hfilter)
  | delete hfilter => exact Statement.delete_writes (filter_ok hfilter)
  | count hfilter => exact Statement.count_writes (filter_ok hfilter)

end Compiler

/-! ## Clean clauses -/

namespace Request

theorem pageClause_clean (limit skip : Option Int64) : Template.Clean (pageClause limit skip) :=
  .text (.word (by decide)) (.value _ (.text (.word (by decide)) (.value _ .nil)))

theorem cellClause_clean (cell : String × Value) : Template.Clean (cellClause cell) :=
  .text ((Inert.quote cell.1).append (.word (by decide))) (.value cell.2 .nil)

theorem rowClause_clean (cells : List (String × Value)) : Template.Clean (rowClause cells) := by
  cases cells with
  | nil => exact .text (.word (by decide)) .nil
  | cons cell cells =>
    have hcolumns := Inert.quoteAll ((cell :: cells).map (·.1))
    rw [Identifier.quoteAll_map] at hcolumns
    exact .text (((Inert.word (by decide)).append hcolumns).append (.word (by decide))) (Condition.clean_items _)

theorem joinClauses_clean (j : Compiler.LinkedJoin) : ∀ t ∈ j.clauses, Template.Clean t := by
  intro t ht
  simp only [Compiler.LinkedJoin.clauses, List.mem_append, List.mem_flatMap, List.mem_singleton] at ht
  obtain (ht | ⟨link, -, ht⟩) | rfl := ht
  · exact filterClauses_clean _ _ t ht
  · exact filterClauses_clean _ _ t ht
  · exact pageClause_clean _ _

/-- Around their values the clauses of a request have no placeholders of their own. -/
theorem clauses_clean (schema : Schema) (table : String) (r : Request) :
    ∀ t ∈ r.clauses schema table, Template.Clean t := by
  intro t ht
  cases r with
  | select criteria =>
    simp only [clauses, Criteria.joinClauses, List.mem_append, List.mem_flatten, List.mem_map,
      List.mem_singleton] at ht
    obtain (⟨_, ⟨⟨j, _⟩, -, rfl⟩, ht⟩ | ht) | rfl := ht
    · exact joinClauses_clean j t ht
    · exact filterClauses_clean _ _ t ht
    · exact pageClause_clean _ _
  | insert values =>
    rw [List.mem_singleton.mp ht]
    exact rowClause_clean _
  | update criteria values =>
    rcases List.mem_append.mp ht with ht | ht
    · obtain ⟨cell, -, rfl⟩ := List.mem_map.mp ht
      exact cellClause_clean cell
    · exact filterClauses_clean _ _ t ht
  | delete criteria => exact filterClauses_clean _ _ t ht
  | count criteria => exact filterClauses_clean _ _ t ht

end Request

end SqlAdapter
