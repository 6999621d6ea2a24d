/-
Subqueries hold the rows of one parent only.

The condition of a subquery is put together as text: each filter in its
parentheses and the equation of the keys, with AND between them. Read back it is
the conjunction of just these, whatever the filters have at their top, so no OR
in a filter lets a row past the equation (`Compiler.readNumbered_condition`).
The numbers of its values start somewhere in the statement and the parameters
of the whole statement are at hand; `Template.readNumbered_sqlFrom` carries the
reading there.
-/
import SqlAdapter.Proofs.Condition.Bound
import SqlAdapter.Proofs.Statement.Numbering

namespace SqlAdapter

/-! ## Conjunctions of several conditions -/

namespace Condition

theorem lexes_enclosed (c : Condition) : Lexes false (Template.marked (.text "(" :: c.clause true ++ [.text ")"]))
    (Template.params (.text "(" :: c.clause true ++ [.text ")"])) (.opening :: c.tokens true ++ [.closing]) := by
  have hclose : Template.marked [.text ")"] = ")" := String.append_empty
  have hmarked := Template.marked_append (.text "(" :: c.clause true) [.text ")"]
  have hparams := Template.params_append (.text "(" :: c.clause true) [.text ")"]
  have hlexes := (Lexes.opening.append (lexes true c) (.inl rfl)).append .closing (.inr rfl)
  rw [Template.marked, clause_marked, hclose] at hmarked
  rw [Template.params, clause_params] at hparams
  rw [hmarked, hparams]
  exact hlexes.opened

/-- An equation of two columns. -/
def equation (left right : ColumnRef) : Template := [.text (left.sql ++ " = " ++ right.sql)]

theorem lexes_equation (left right : ColumnRef) : Lexes false (equation left right).marked []
    (left.tokens ++ [.comparison .eq] ++ right.tokens) := by
  have heq : Lexes false "=" [] [.comparison .eq] := .signs (by decide) (by decide) rfl
  have hsign : Lexes true " = " [] [.comparison .eq] :=
    (Lexes.blank.append heq (.inl rfl)).append .blank (.inr rfl)
  rw [equation, Template.marked, Template.marked, String.append_empty]
  exact (left.lexes.append hsign (.inr rfl)).append right.lexes (.inl rfl)

theorem reads_equation (left right : ColumnRef) : ReadsAs (left.tokens ++ [.comparison .eq] ++ right.tokens)
    (.atom (.compare left .eq (.column right))) := fun _ _ => rfl

theorem clean_equation (left right : ColumnRef) : Template.Clean (equation left right) :=
  .text ((left.inert.append (.word (by decide))).append right.inert) .nil

/-- Operands with AND between them are read as their conjunction. -/
theorem reads_conjuncts {tss : List (List Token)} {es : List Expr} (h : List.Forall₂ ReadsAs tss es)
    (hne : tss ≠ []) : ReadsWhole (separated (.keyword .and) tss) (combined .and true es) := by
  cases h with
  | nil => exact absurd rfl hne
  | cons hts htss => exact reads_and (.cons hts htss)

end Condition

namespace Compiler

namespace LinkedJoin

/-! ## What a subquery should say of its rows -/

/-- The truth of a row of the subquery: all predicates hold of it, and its key is that of the parent. -/
def truth (j : LinkedJoin) (assignment : Atom → Truth) : Truth :=
  .all (j.predicates.map (fun (table, p) => p.bound.truth assignment table) ++
    [assignment (.compare j.inner .eq (.column j.outer))])

/-- The text is the subquery of the join in a statement with these parameters, and its condition is
read as an expression with the truth that its rows should have. -/
def Written (params : List Value) (sql : String) (j : LinkedJoin) : Prop :=
  ∃ condition order first e,
    sql = "LEFT JOIN LATERAL (SELECT " ++ Identifier.quote j.child ++ ".* FROM " ++ j.source ++ " WHERE " ++
      condition ++ " " ++ OrderKey.clause order ++ " " ++
      (pageClause j.join.nested.limit j.join.nested.skip).sqlFrom first ++
      ") AS " ++ Identifier.quote (lateralName j.join) ++ " ON TRUE" ∧
    readNumbered condition params = some e ∧
    ∀ assignment, e.truth assignment = j.truth assignment

/-! ## The condition of a subquery -/

/-- The parts of the condition: the clauses of the predicates, and the equation of the keys. -/
def conjuncts (j : LinkedJoin) : List Template :=
  j.predicates.map (fun (table, p) => .text "(" :: (p.bound.condition table).clause true ++ [.text ")"]) ++
    [Condition.equation j.inner j.outer]

/-- All parts of the condition together. -/
def condition (j : LinkedJoin) : Template := Template.intercalate " AND " j.conjuncts

theorem condition_clean (j : LinkedJoin) : j.condition.Clean := by
  refine Template.Clean.intercalate Inert.andWord fun t ht => ?_
  rcases List.mem_append.mp ht with ht | ht
  · obtain ⟨⟨table, p⟩, -, rfl⟩ := List.mem_map.mp ht
    exact (Template.Clean.text .opening (Condition.clause_clean true _)).append (.text .closing .nil)
  · rw [List.mem_singleton.mp ht]
    exact Condition.clean_equation j.inner j.outer

/-- The condition is read as the conjunction of its parts. -/
theorem readCondition_condition (j : LinkedJoin) :
    ∃ e, readCondition j.condition.marked j.condition.params = some e ∧
      ∀ assignment, e.truth assignment = j.truth assignment := by
  let tokens :=
    j.predicates.map (fun (table, p) => .opening :: (p.bound.condition table).tokens true ++ [.closing]) ++
      [j.inner.tokens ++ [.comparison .eq] ++ j.outer.tokens]
  let exprs := j.predicates.map (fun (table, p) => (p.bound.condition table).expr) ++
    [.atom (.compare j.inner .eq (.column j.outer))]
  have hlexes : List.Forall₂ (fun (part : String × List Value) ts => Lexes false part.1 part.2 ts)
      (j.conjuncts.map fun t => (t.marked, t.params)) tokens := by
    rw [conjuncts, List.map_append, List.map_map]
    refine List.rel_append ?_ (.cons (Condition.lexes_equation j.inner j.outer) .nil)
    refine List.forall₂_map_left_iff.mpr (List.forall₂_map_right_iff.mpr (List.forall₂_same.mpr ?_))
    exact fun f _ => Condition.lexes_enclosed (f.2.bound.condition f.1)
  have hreads : List.Forall₂ ReadsAs tokens exprs := by
    refine List.rel_append ?_ (.cons (Condition.reads_equation j.inner j.outer) .nil)
    refine List.forall₂_map_left_iff.mpr (List.forall₂_map_right_iff.mpr (List.forall₂_same.mpr ?_))
    exact fun f _ => (Condition.reads_condition f.1 f.2.bound).2.enclosed
  have hne : tokens ≠ [] := List.append_ne_nil_of_right_ne_nil _ (List.cons_ne_nil _ _)
  have htext := Condition.lexes_separated (Lexes.keywordBetween .and) rfl hlexes
  rw [List.map_map, List.flatMap_map] at htext
  refine ⟨Condition.combined .and true exprs, ?_, fun assignment => ?_⟩
  · rw [condition, Template.intercalate_marked, Template.intercalate_params]
    exact Condition.readCondition_eq htext (Condition.reads_conjuncts hreads hne)
  · rw [Condition.truth_all, List.map_append, List.map_map, truth]
    simp only [Function.comp_def, Condition.truth_condition]
    rfl

end LinkedJoin

/-! ## Subqueries in a statement -/

variable {schema : Schema}

/-- The compiler writes the condition of a subquery part by part. -/
theorem lateral_condition {j : LinkedJoin} {l : Lateral} (h : (ofSchema schema).lateral j = .ok l) :
    (Template.intercalate " AND " l.conditions).Same j.condition := by
  have hl := lateral_ok h
  have hclauses : (j.filters.flatMap fun filter => filterClauses filter.1 filter.2) =
      j.predicates.map fun (table, p) => (p.bound.condition table).clause true := by
    simp only [LinkedJoin.predicates, List.map_flatMap, List.map_map, filterClauses_eq]
    rfl
  have hfilters := lateral_filters h
  rw [hclauses, List.forall₂_map_right_iff] at hfilters
  refine Template.Same.intercalate " AND " (List.rel_append ?_ (.cons ?_ .nil))
  · refine List.rel_map (fun f p hsame => ?_) hfilters
    exact ((Template.Same.refl [.text "("]).append hsame).append (.refl [.text ")"])
  · rw [hl.inner, hl.outer]
    exact .refl _

/-- The subqueries of a statement stand one after another, each written as that of its join. The list
of parameters reaches over the whole statement. -/
theorem laterals_written {ls : List Lateral} {js : List LinkedJoin}
    (h : List.Forall₂ (fun l j => (ofSchema schema).lateral j = .ok l) ls js) (before after : List Value)
    (hlen : before.length + (JoinedSelect.lateralsTemplate ls).params.length < 2 ^ 64) :
    ∃ subqueries, (JoinedSelect.lateralsTemplate ls).sqlFrom (before.length + 1) =
        String.join (subqueries.map (" " ++ ·)) ∧
      List.Forall₂ (LinkedJoin.Written (before ++ (JoinedSelect.lateralsTemplate ls).params ++ after))
        subqueries js := by
  induction h generalizing before with
  | nil => exact ⟨[], rfl, .nil⟩
  | @cons l j ls js hl hls ih =>
    have hcondition := lateral_condition hl
    have hfirst : Template.params l.template = j.condition.params ++ Template.params l.page.template := by
      rw [l.params_template, l.params_subquery, ← l.params_condition, hcondition.params]
    have hparams : (JoinedSelect.lateralsTemplate (l :: ls)).params =
        Template.params l.template ++ (JoinedSelect.lateralsTemplate ls).params := Template.params_append _ _
    rw [hparams, List.length_append] at hlen
    -- The subqueries behind this one find its values among those before their own.
    have hafter : (before ++ Template.params l.template).length +
        (JoinedSelect.lateralsTemplate ls).params.length < 2 ^ 64 := by
      rw [List.length_append]
      omega
    obtain ⟨subqueries, hsql, hwritten⟩ := ih (before ++ Template.params l.template) hafter
    rw [List.append_assoc before, ← hparams] at hwritten
    refine ⟨Template.sqlFrom (before.length + 1) l.template :: subqueries, ?_, .cons ?_ hwritten⟩
    · have hnext : before.length + 1 + (Template.params l.template).length =
          (before ++ Template.params l.template).length + 1 := by
        rw [List.length_append]
        omega
      have hall := Template.sqlFrom_append (before.length + 1) (.text " " :: l.template)
        (JoinedSelect.lateralsTemplate ls)
      rw [Template.sqlFrom, Template.params, hnext, hsql] at hall
      rw [List.map_cons, String.join_cons]
      exact hall
    · have hshort : before.length + j.condition.params.length < 2 ^ 64 := by
        rw [hfirst, List.length_append] at hlen
        omega
      have hread := Template.readNumbered_sqlFrom j.condition_clean before
        (Template.params l.page.template ++ (JoinedSelect.lateralsTemplate ls).params ++ after) hshort
      obtain ⟨e, he, htruth⟩ := j.readCondition_condition
      rw [he] at hread
      refine ⟨j.condition.sqlFrom (before.length + 1), l.order, before.length + 1 + j.condition.params.length, e,
        ?_, ?_, htruth⟩
      · have hopen : "LEFT JOIN LATERAL (SELECT " = ("LEFT JOIN LATERAL (" : String) ++ "SELECT " := rfl
        rw [l.sqlFrom_template, l.sqlFrom_subquery, hcondition.sqlFrom, hcondition.params, (lateral_ok hl).source,
          (lateral_ok hl).child, (lateral_ok hl).name, page_ok (lateral_ok hl).page]
        simp only [hopen, String.append_assoc]
      · rw [hparams, hfirst]
        simp only [List.append_assoc] at hread ⊢
        exact hread

/-- A compiled select has a subquery for each of its joins, whose condition is the conjunction of the
filters of the join and the equation with the key of the parent; and the parent is none of the
tables that the subquery reads itself. -/
theorem subqueries_tied {table : String} {criteria : Criteria} {q : Query}
    (h : (ofSchema schema).compile table (.select criteria) = .ok q) :
    (∃ columns subqueries rest,
      q.sql = "SELECT " ++ columns ++ " FROM " ++ Identifier.quote (Identifier.truncate table) ++
        String.join (subqueries.map (" " ++ ·)) ++ rest ∧
      List.Forall₂ (LinkedJoin.Written q.params) subqueries (planned criteria.joins)) ∧
    ∀ j ∈ planned criteria.joins, j.outer.qualifier ∉ j.tables := by
  obtain ⟨s, hs, rfl, hlen⟩ := compile_ok schema h
  cases statement_ok hs with
  | @select _ filter order page hjoins _ _ _ =>
    have hnone : planned criteria.joins = [] := by
      rw [hjoins]
      rfl
    let rest : Template := Template.optional " WHERE " filter ++
      .text (" " ++ OrderKey.clause order ++ " ") :: page.template
    have hlist : ("SELECT " : String) ++ "*" ++ " FROM " = "SELECT * FROM " := rfl
    rw [hnone]
    refine ⟨⟨"*", [], rest.sqlFrom 1, ?_, .nil⟩, fun j hj => absurd hj List.not_mem_nil⟩
    rw [hlist, List.map_nil, String.join_nil, String.append_empty]
    rfl
  | @joined _ s _ hjoined =>
    have htemplate := s.template_eq
    have hparams : Template.params s.template =
        (JoinedSelect.lateralsTemplate s.laterals).params ++ s.restTemplate.params := by
      rw [htemplate, Template.params, Template.params_append]
    have hshort : ([] : List Value).length +
        (JoinedSelect.lateralsTemplate s.laterals).params.length < 2 ^ 64 := by
      rw [Statement.template, hparams, List.length_append] at hlen
      rw [List.length_nil]
      omega
    obtain ⟨subqueries, hsql, hwritten⟩ := laterals_written hjoined.laterals [] s.restTemplate.params hshort
    refine ⟨⟨s.listSql, subqueries,
      s.restTemplate.sqlFrom (1 + (JoinedSelect.lateralsTemplate s.laterals).params.length), ?_, ?_⟩, fun j hj => ?_⟩
    · have hfirst : (JoinedSelect.lateralsTemplate s.laterals).sqlFrom 1 = _ := hsql
      rw [Statement.template, htemplate, Template.sqlFrom, Template.sqlFrom_append, ← hjoined.root, hfirst]
      simp only [String.append_assoc]
    · rw [Statement.template, hparams]
      exact hwritten
    · exact Result.forall_of_forall₂ hjoined.laterals (fun l j hl => (lateral_ok hl).apart) j hj

/-- Users with the groups that they lead and that are open, by way of their memberships. -/
def ledGroups : Criteria where
  predicate := none
  sort := []
  limit := none
  skip := none
  joins := [
    { (Join.plain "users" "id" "memberships" "user_id" "groups" : Join Criteria) with
      select := false
      criteria := some { Criteria.empty with
        predicate := some (.any [.eq "role" (.string "owner"), .eq "role" (.string "admin")]) } },
    { (Join.plain "memberships" "group_id" "groups" "id" "groups" : Join Criteria) with
      junction := true
      criteria := some { Criteria.empty with predicate := some (.not (.isNull "opened")) } }]

theorem subqueries_tied_ledGroups : ∃ q, (ofSchema .empty).compile "users" (.select ledGroups) = .ok q ∧
    ∃ columns sql rest, q.sql = "SELECT " ++ columns ++ " FROM \"users\" " ++ sql ++ rest ∧
      LinkedJoin.Written q.params sql ⟨ledGroups.joins[1], some (ledGroups.joins[0], 0)⟩ := by
  have hstatement : ((ofSchema .empty).statement "users" (.select ledGroups)).toOption.isSome = true := by
    decide +kernel
  have hlen : (((Request.select ledGroups).clauses .empty "users").flatMap Template.params).length < 2 ^ 64 := by
    decide +kernel
  cases hs : (ofSchema .empty).statement "users" (.select ledGroups) with
  | error e =>
    rw [hs] at hstatement
    cases hstatement
  | ok s =>
    have hcompile := compile_of_statement .empty hs hlen
    obtain ⟨⟨columns, subqueries, rest, hsql, hwritten⟩, -⟩ := subqueries_tied hcompile
    have hplanned : planned ledGroups.joins = [⟨ledGroups.joins[1], some (ledGroups.joins[0], 0)⟩] := rfl
    rw [hplanned] at hwritten
    obtain _ | ⟨hfirst, hnone⟩ := hwritten
    cases hnone
    have hfrom : " FROM \"users\" " = " FROM " ++ (Identifier.quote (Identifier.truncate "users") ++ " ") := by
      decide +kernel
    refine ⟨_, hcompile, columns, _, rest, ?_, hfirst⟩
    rw [hsql, hfrom, List.map_singleton, String.join_cons, String.join_nil]
    simp only [String.append_assoc, String.append_empty]

end Compiler

end SqlAdapter
