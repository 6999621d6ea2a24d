/-
The rows that criteria choose, whatever is done to them.

A select without joins, a count, a deletion and an update write one and the same
filter (`Compiler.Made`), each behind a lead of its own. Only the update binds values
before it, so its placeholders are those of the others, moved by as many
(`Template.renumber_sqlFrom`). And the filter is made by a step that the four have in
common: they differ in what they check besides, which a predicate has no part in
(`Compiler.statement_unfiltered`), so none of them refuses a predicate that another one
takes (`Compiler.compile_chosen`).
-/
import SqlAdapter.Proofs.Sql.Renumbered
import SqlAdapter.Proofs.Statement.Numbering
import SqlAdapter.Proofs.Statement.Written

namespace SqlAdapter

open Result (Agree bind_error_iff)

/-! ## Requests on chosen rows -/

namespace Request

/-- The requests on the rows that criteria choose. -/
def choosing (criteria : Criteria) (values : List (String × Value)) : List Request :=
  [.select criteria, .count criteria, .delete criteria, .update criteria values]

/-- The request without its predicate. -/
def unfiltered : Request → Request
  | .select criteria => .select { criteria with predicate := none }
  | .insert values => .insert values
  | .update criteria values => .update { criteria with predicate := none } values
  | .delete criteria => .delete { criteria with predicate := none }
  | .count criteria => .count { criteria with predicate := none }

end Request

namespace Compiler

/-- The request is refused for its predicate: without the predicate it is not refused in this way. -/
def Rejects (c : Compiler) (table : String) (r : Request) (e : Failure) : Prop :=
  c.compile table r = .error e ∧ c.compile table r.unfiltered ≠ .error e

/-- The queries for the requests on the rows that criteria choose, cut at their condition. All of them have one or none
has: it is the text `condition` where nothing is bound before it, and `moved` behind the new values of an update. -/
structure Chosen (schema : Schema) (table : String) (criteria : Criteria) (written : List (String × Value))
    (condition moved : Option String) (params : List Value) (select count delete update : Query) : Prop where
  given : condition.isSome = criteria.predicate.isSome
  /-- The numbers of the one are those of the other, less the values bound before it. -/
  lowered : condition = moved.map (Placeholder.renumber (· - written.length))
  raised : moved = condition.map (Placeholder.renumber (· + written.length))
  binds : params = (filterClauses (Identifier.truncate table) criteria.predicate).flatMap Template.params
  selects : ∃ order,
    (ofSchema schema).order (Identifier.truncate table) (Identifier.truncate table) criteria.sort = .ok order ∧
    select = ⟨"SELECT * FROM " ++ Identifier.quote (Identifier.truncate table) ++ whereText condition ++
        (" " ++ OrderKey.clause order ++ " ") ++ (pageClause criteria.limit criteria.skip).sqlFrom (1 + params.length),
      params ++ (pageClause criteria.limit criteria.skip).params⟩
  counts : count = ⟨"SELECT COUNT(*) AS \"count\" FROM " ++ Identifier.quote (Identifier.truncate table) ++
    whereText condition, params⟩
  deletes : delete = ⟨"DELETE FROM " ++ Identifier.quote (Identifier.truncate table) ++ whereText condition ++
    " RETURNING *", params⟩
  updates : update = ⟨"UPDATE " ++ Identifier.quote (Identifier.truncate table) ++ " SET " ++
      (Statement.assignments written).sqlFrom 1 ++ whereText moved ++ " RETURNING *",
    written.map (·.2) ++ params⟩

variable {schema : Schema} {table : String} {criteria : Criteria} {values written : List (String × Value)}

/-- A filter is written as the one clause of its predicate. -/
theorem filter_cases {predicate : Option Predicate} {filter : Option Template}
    (h : (ofSchema schema).filter table predicate = .ok filter) :
    (filter = none ∧ filterClauses table predicate = []) ∨
      ∃ t clause, filter = some t ∧ filterClauses table predicate = [clause] ∧ t.Same clause := by
  have hfilter := filter_ok h
  generalize filterClauses table predicate = clauses at hfilter
  cases filter with
  | none =>
    cases hfilter
    exact .inl ⟨rfl, rfl⟩
  | some t =>
    obtain _ | ⟨hsame, hnil⟩ := hfilter
    cases hnil
    exact .inr ⟨t, _, rfl, rfl, hsame⟩

theorem filter_isSome {predicate : Option Predicate} {filter : Option Template}
    (h : (ofSchema schema).filter table predicate = .ok filter) : filter.isSome = predicate.isSome := by
  have hlength := (filter_ok h).length_eq
  cases filter <;> cases predicate <;> simp_all [filterClauses]

theorem filterParams_eq {predicate : Option Predicate} {filter : Option Template}
    (h : (ofSchema schema).filter table predicate = .ok filter) :
    filterParams filter = (filterClauses table predicate).flatMap Template.params := by
  rcases filter_cases h with ⟨rfl, hclauses⟩ | ⟨t, clause, rfl, hclauses, hsame⟩
  · rw [hclauses]
    rfl
  · rw [hclauses, List.flatMap_singleton, ← hsame.params]
    rfl

/-- The same filter numbered from different numbers on. -/
theorem filter_renumber {predicate : Option Predicate} {filter : Option Template}
    (h : (ofSchema schema).filter table predicate = .ok filter) {f : Nat → Nat} {next moved : Nat}
    (hf : ∀ i, f (next + i) = moved + i) :
    (filter.map (Template.sqlFrom next)).map (Placeholder.renumber f) = filter.map (Template.sqlFrom moved) := by
  rcases filter_cases h with ⟨rfl, -⟩ | ⟨t, clause, rfl, hclauses, hsame⟩
  · rfl
  · have hclean : Template.Clean clause :=
      filterClauses_clean table predicate clause (hclauses ▸ List.mem_singleton_self clause)
    have hmoved := Template.renumber_sqlFrom hclean fun i _ => hf i
    rw [← hsame.sqlFrom, ← hsame.sqlFrom] at hmoved
    exact congrArg some hmoved

/-- What the four requests are compiled to, once all of them are. -/
theorem chosen_of_compile (hjoins : criteria.joins = [])
    (hwritten : (ofSchema schema).encodeAll (Identifier.truncate table) values = .ok written)
    {select count delete update : Query} (hselect : (ofSchema schema).compile table (.select criteria) = .ok select)
    (hcount : (ofSchema schema).compile table (.count criteria) = .ok count)
    (hdelete : (ofSchema schema).compile table (.delete criteria) = .ok delete)
    (hupdate : (ofSchema schema).compile table (.update criteria values) = .ok update) :
    ∃ condition moved params,
      Chosen schema table criteria written condition moved params select count delete update := by
  obtain ⟨_, hselected, rfl, -⟩ := compile_ok schema hselect
  obtain ⟨_, hcounted, rfl, -⟩ := compile_ok schema hcount
  obtain ⟨_, hdeleted, rfl, -⟩ := compile_ok schema hdelete
  obtain ⟨_, hupdated, rfl, -⟩ := compile_ok schema hupdate
  cases statement_ok hcounted with | @count _ filter hfilter => ?_
  cases statement_ok hdeleted with | delete hfilter' => ?_
  cases hfilter.symm.trans hfilter'
  cases statement_ok hupdated with | update hwritten' hfilter' => ?_
  cases hfilter.symm.trans hfilter'
  cases hwritten.symm.trans hwritten'
  cases statement_ok hselected with
  | joined hjoined _ => exact absurd hjoins hjoined
  | @select _ _ order page _ hfilter' horder hpage =>
    cases hfilter.symm.trans hfilter'
    refine ⟨filter.map (Template.sqlFrom 1), filter.map (Template.sqlFrom (1 + written.length)),
      filterParams filter, ?_⟩
    have hpage' := page_ok hpage
    constructor
    · rw [Option.isSome_map, filter_isSome hfilter]
    · refine (filter_renumber hfilter fun i => ?_).symm
      show 1 + written.length + i - written.length = 1 + i
      omega
    · refine (filter_renumber hfilter fun i => ?_).symm
      show 1 + i + written.length = 1 + written.length + i
      omega
    · exact filterParams_eq hfilter
    · rw [← hpage']
      exact ⟨order, horder, Statement.written_select ..⟩
    · exact Statement.written_count ..
    · exact Statement.written_delete ..
    · exact Statement.written_update ..

/-! ## Predicates that are refused -/

theorem forall_choosing {P : Request → Prop} : (∀ r ∈ Request.choosing criteria values, P r) ↔
    P (.select criteria) ∧ P (.count criteria) ∧ P (.delete criteria) ∧ P (.update criteria values) := by
  simp [Request.choosing]

section

variable {c : Compiler}

/-- Unless the predicate is refused on a table of a valid name, a request ends like the one without it. -/
theorem statement_unfiltered (hjoins : criteria.joins = []) (hfilter : Identifier.check table = .ok () →
      ∃ filter, c.filter (Identifier.truncate table) criteria.predicate = .ok filter) :
    ∀ r ∈ Request.choosing criteria values,
      Agree (· = ·) (fun _ _ => True) (c.statement table r) (c.statement table r.unfiltered) := by
  have hboth : Identifier.check table = .ok () → Agree (· = ·) (fun _ _ => True)
      (c.filter (Identifier.truncate table) criteria.predicate) (c.filter (Identifier.truncate table) none) := by
    intro htable
    obtain ⟨filter, hfilter⟩ := hfilter htable
    rw [hfilter]
    exact .ok trivial
  have hempty : criteria.joins.isEmpty = true := List.isEmpty_iff.mpr hjoins
  refine forall_choosing.mpr ⟨?_, ?_, ?_, ?_⟩
  · simp only [Request.unfiltered, statement, selectStatement, if_pos hempty]
    refine .bind_same_ok _ fun _ htable => (hboth htable).bind fun _ _ _ => ?_
    exact .bind_same _ fun _ => .bind_same _ fun _ => .pure trivial
  · exact .bind_same_ok _ fun _ htable => (hboth htable).bind fun _ _ _ => .pure trivial
  · exact .bind_same_ok _ fun _ htable => (hboth htable).bind fun _ _ _ => .pure trivial
  · simp only [Request.unfiltered, statement, updateStatement]
    split
    · exact .error rfl
    · refine .bind_same_ok _ fun _ htable => .bind_same _ fun _ => ?_
      exact (hboth htable).bind fun _ _ _ => .pure trivial

/-- Where the predicate is refused on a table of a valid name, every request is. -/
theorem statement_refused (hjoins : criteria.joins = []) (hvalues : values ≠ [])
    (hwritten : c.encodeAll (Identifier.truncate table) values = .ok written)
    (htable : Identifier.check table = .ok ()) {e : Failure}
    (hfilter : c.filter (Identifier.truncate table) criteria.predicate = .error e) :
    ∀ r ∈ Request.choosing criteria values, c.statement table r = .error e := by
  have hrefused : ∀ next : Option Template → Result Statement,
      (c.filter (Identifier.truncate table) criteria.predicate >>= next) = .error e :=
    fun next => bind_error_iff.mpr (.inl hfilter)
  have hchecked : ∀ next : Option Template → Result Statement,
      (Identifier.check table >>= fun _ => c.filter (Identifier.truncate table) criteria.predicate >>= next) =
        .error e :=
    fun next => bind_error_iff.mpr (.inr ⟨(), htable, hrefused next⟩)
  have hempty : criteria.joins.isEmpty = true := List.isEmpty_iff.mpr hjoins
  have hsome : ¬ values.isEmpty = true := fun h => hvalues (List.isEmpty_iff.mp h)
  refine forall_choosing.mpr ⟨?_, hchecked _, hchecked _, ?_⟩
  · rw [statement, selectStatement, if_pos hempty]
    exact hchecked _
  · rw [statement, updateStatement, if_neg hsome]
    exact bind_error_iff.mpr (.inr ⟨(), htable, bind_error_iff.mpr (.inr ⟨written, hwritten, hrefused _⟩)⟩)

end

/-- A predicate for which one of the requests is refused is refused as a filter of the table. -/
theorem filter_of_rejects (hjoins : criteria.joins = []) (hvalues : values ≠ [])
    (hwritten : (ofSchema schema).encodeAll (Identifier.truncate table) values = .ok written) {r : Request}
    (hr : r ∈ Request.choosing criteria values)
    (hlen : ((r.clauses schema table).flatMap Template.params).length < 2 ^ 64) {e : Failure}
    (h : (ofSchema schema).Rejects table r e) : Identifier.check table = .ok () ∧
      (ofSchema schema).filter (Identifier.truncate table) criteria.predicate = .error e := by
  obtain ⟨hrefused, hother⟩ := h
  by_cases hfilter : Identifier.check table = .ok () →
      ∃ filter, (ofSchema schema).filter (Identifier.truncate table) criteria.predicate = .ok filter
  · have hagree := statement_unfiltered hjoins hfilter r hr
    rw [compile_eq, bind_error_iff] at hrefused
    rcases hrefused with hs | ⟨s, hs, hquery⟩
    · rw [hs] at hagree
      generalize hs' : (ofSchema schema).statement table r.unfiltered = other at hagree
      cases hagree with
      | error heq =>
        refine absurd ?_ hother
        rw [compile_eq, hs', heq]
        rfl
    · have hcompile := compile_of_statement schema hs hlen
      rw [compile_eq, hs] at hcompile
      cases hquery.symm.trans hcompile
  · obtain ⟨htable, hnone⟩ := Classical.not_imp.mp hfilter
    cases hresult : (ofSchema schema).filter (Identifier.truncate table) criteria.predicate with
    | ok filter => exact absurd ⟨filter, hresult⟩ hnone
    | error e' =>
      rw [compile_eq, statement_refused hjoins hvalues hwritten htable hresult r hr] at hrefused
      cases hrefused
      exact ⟨htable, rfl⟩

/-- On a table of a valid name a count has nothing but its predicate to be refused for. -/
theorem rejects_count (htable : Identifier.check table = .ok ()) {e : Failure}
    (hfilter : (ofSchema schema).filter (Identifier.truncate table) criteria.predicate = .error e) :
    (ofSchema schema).Rejects table (.count criteria) e := by
  have hrefused : (ofSchema schema).statement table (.count criteria) = .error e :=
    bind_error_iff.mpr (.inr ⟨(), htable, bind_error_iff.mpr (.inl hfilter)⟩)
  have hbare : (ofSchema schema).statement table (Request.count criteria).unfiltered =
      .ok (.count (Identifier.truncate table) none) := by
    rw [Request.unfiltered, statement, countStatement, htable]
    rfl
  constructor
  · rw [compile_eq, hrefused]
    rfl
  · have hlen : (((Request.count criteria).unfiltered.clauses schema table).flatMap Template.params).length <
        2 ^ 64 := by
      simp [Request.unfiltered, Request.clauses, filterClauses]
    rw [compile_of_statement schema hbare hlen]
    intro h
    cases h

/-- Select without joins, count, deletion and update ask for the same rows. Once all four are compiled they have the
same condition on the table or none, with the same parameters, and its numbers in the update are those in the others
moved by the values that are written. And a predicate for which one of them is refused is one that the filter of the
table refuses, and all four are refused with its failure. -/
theorem compile_chosen (hjoins : criteria.joins = []) (hvalues : values ≠ [])
    (hwritten : (ofSchema schema).encodeAll (Identifier.truncate table) values = .ok written) :
    (∀ select count delete update,
      (ofSchema schema).compile table (.select criteria) = .ok select →
      (ofSchema schema).compile table (.count criteria) = .ok count →
      (ofSchema schema).compile table (.delete criteria) = .ok delete →
      (ofSchema schema).compile table (.update criteria values) = .ok update →
      ∃ condition moved params,
        Chosen schema table criteria written condition moved params select count delete update) ∧
    ((∀ r ∈ Request.choosing criteria values,
        ((r.clauses schema table).flatMap Template.params).length < 2 ^ 64) →
      ∀ e, ((∃ r ∈ Request.choosing criteria values, (ofSchema schema).Rejects table r e) ↔
          Identifier.check table = .ok () ∧
            (ofSchema schema).filter (Identifier.truncate table) criteria.predicate = .error e) ∧
        ((∃ r ∈ Request.choosing criteria values, (ofSchema schema).Rejects table r e) →
          ∀ r ∈ Request.choosing criteria values, (ofSchema schema).compile table r = .error e)) := by
  refine ⟨fun select count delete update => chosen_of_compile hjoins hwritten, fun hlen e => ?_⟩
  have hfilter : (∃ r ∈ Request.choosing criteria values, (ofSchema schema).Rejects table r e) →
      Identifier.check table = .ok () ∧
        (ofSchema schema).filter (Identifier.truncate table) criteria.predicate = .error e := by
    intro ⟨r, hr, hrejects⟩
    exact filter_of_rejects hjoins hvalues hwritten hr (hlen r hr) hrejects
  refine ⟨⟨hfilter, fun ⟨htable, hrefused⟩ => ?_⟩, fun hrejects r hr => ?_⟩
  · exact ⟨.count criteria, by simp [Request.choosing], rejects_count htable hrefused⟩
  · obtain ⟨htable, hrefused⟩ := hfilter hrejects
    rw [compile_eq, statement_refused hjoins hvalues hwritten htable hrefused r hr]
    rfl

/-- Members over thirty of two names, one of which looks like a placeholder. -/
def members (field : String) : Criteria where
  predicate := some (.all [.compare "age" (.compare .gt) (.bigInt 30),
    .compare field .among (.array [.string "$9", .string "'?"])])
  sort := []
  limit := some 5
  skip := none
  joins := []

theorem sql_of_statement {r : Request} {q : Query} (h : (ofSchema schema).compile table r = .ok q) {sql : String}
    (hs : ((ofSchema schema).statement table r).toOption.map (·.template.sqlFrom 1) = some sql) : q.sql = sql := by
  obtain ⟨s, hstatement, rfl, -⟩ := compile_ok schema h
  rw [hstatement] at hs
  exact Option.some.inj hs

theorem members_countable (field : String) : ∀ r ∈ Request.choosing (members field) [("age", .int 31)],
    ((r.clauses .empty "users").flatMap Template.params).length < 2 ^ 64 := by
  refine forall_choosing.mpr ⟨?_, ?_, ?_, ?_⟩
  · show 5 < 2 ^ 64
    decide
  · show 3 < 2 ^ 64
    decide
  · show 3 < 2 ^ 64
    decide
  · show 4 < 2 ^ 64
    decide

/-- An update numbers the condition of a count from two on, and a field with a blank in its name is refused by all. -/
theorem compile_chosen_members :
    (∃ select count delete update condition moved params,
      (ofSchema .empty).compile "users" (.select (members "name")) = .ok select ∧
      (ofSchema .empty).compile "users" (.count (members "name")) = .ok count ∧
      (ofSchema .empty).compile "users" (.delete (members "name")) = .ok delete ∧
      (ofSchema .empty).compile "users" (.update (members "name") [("age", .int 31)]) = .ok update ∧
      Chosen .empty "users" (members "name") [("age", .int 31)] condition moved params select count delete update ∧
      count.sql = "SELECT COUNT(*) AS \"count\" FROM \"users\"" ++
        " WHERE \"users\".\"age\" > $1 AND \"users\".\"name\" IN ($2, $3)" ∧
      update.sql = "UPDATE \"users\" SET \"age\" = $1" ++
        " WHERE \"users\".\"age\" > $2 AND \"users\".\"name\" IN ($3, $4) RETURNING *") ∧
    ∀ r ∈ Request.choosing (members "first name") [("age", .int 31)],
      (ofSchema .empty).compile "users" r = .error (.identifierCharacter "first name" ' ') := by
  have htable : Identifier.check "users" = .ok () := by decide +kernel
  have hwritten : (ofSchema .empty).encodeAll (Identifier.truncate "users") [("age", .int 31)] =
      .ok [("age", .int 31)] := rfl
  constructor
  · have hstatement : ∀ r ∈ Request.choosing (members "name") [("age", .int 31)],
        ((ofSchema .empty).statement "users" r).toOption.isSome = true :=
      forall_choosing.mpr (by decide +kernel)
    have hcompiled : ∀ r ∈ Request.choosing (members "name") [("age", .int 31)],
        ∃ q, (ofSchema .empty).compile "users" r = .ok q :=
      fun r hr => compile_of_isSome .empty (hstatement r hr) (members_countable "name" r hr)
    obtain ⟨⟨select, hselect⟩, ⟨count, hcount⟩, ⟨delete, hdelete⟩, update, hupdate⟩ :=
      forall_choosing.mp hcompiled
    obtain ⟨condition, moved, params, hchosen⟩ :=
      (compile_chosen rfl (by simp) hwritten).1 select count delete update hselect hcount hdelete hupdate
    exact ⟨select, count, delete, update, condition, moved, params, hselect, hcount, hdelete, hupdate, hchosen,
      sql_of_statement hcount (by decide +kernel), sql_of_statement hupdate (by decide +kernel)⟩
  · have hfilter : (ofSchema .empty).filter (Identifier.truncate "users") (members "first name").predicate =
        .error (.identifierCharacter "first name" ' ') := rfl
    obtain ⟨hrejects, hrefused⟩ :=
      (compile_chosen rfl (by simp) hwritten).2 (members_countable _) (.identifierCharacter "first name" ' ')
    exact hrefused (hrejects.mpr ⟨htable, hfilter⟩)

end Compiler

end SqlAdapter
