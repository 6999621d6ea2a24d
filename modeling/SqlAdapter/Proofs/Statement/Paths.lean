/-
The path of names by which a statement names its table, and those of the
columns of the table.

A table is quoted part by part, so a dot in its name separates two names of a
path. A column stands behind its table with the table's name quoted as one, dot
or not. The two paths are therefore the same exactly for a table without a dot
(`Compiler.columns_behind_iff`). Paths are read from the text, with the reader of
tokens that conditions are read with.
-/
import SqlAdapter.Proofs.Statement.References
import SqlAdapter.Proofs.Statement.Tie
import SqlAdapter.Proofs.Text.Pieces

namespace SqlAdapter

/-! ## Paths -/

/-- The names of a path, between dots. -/
def Token.path? : List Token → Option (List String)
  | [.name part] => some [part]
  | .name part :: .dot :: tokens => (path? tokens).map (part :: ·)
  | _ => none

namespace Identifier

/-- The names of the path that a text writes. -/
def path? (sql : String) : Option (List String) := (Lexing.between.tokens? sql.toList []).bind Token.path?

theorem path?_of_lexes {sql : String} {tokens : List Token} (h : Lexes false sql [] tokens) :
    path? sql = Token.path? tokens := by
  have hread := h [] [] (.inr (.inl rfl))
  rw [List.append_nil, List.append_nil] at hread
  rw [path?, hread]
  simp [Lexing.tokens?, Lexing.flush]

theorem path?_names {part : String} (parts : List String) :
    Token.path? (Condition.separated .dot ((part :: parts).map fun p => [.name p])) = some (part :: parts) := by
  induction parts generalizing part with
  | nil => rfl
  | cons next parts ih =>
    have hrest := @ih next
    simp only [List.map_cons, Condition.separated, List.cons_append, List.nil_append, Token.path?] at hrest ⊢
    rw [hrest]
    rfl

/-- A quoted name is the path of its parts. -/
theorem path?_quote (name : String) :
    path? (quote name) = some ((Text.splitAt '.' name.toList).map String.ofList) := by
  have hparts : List.Forall₂ (fun part tokens => Lexes false part.1 part.2 tokens)
      ((Text.splitAt '.' name.toList).map fun part => (quotePart (String.ofList part), []))
      (((Text.splitAt '.' name.toList).map String.ofList).map fun part => [.name part]) :=
    List.forall₂_map_left_iff.mpr (List.forall₂_map_right_iff.mpr (List.forall₂_map_right_iff.mpr
      (List.forall₂_same.mpr fun part _ => Lexes.name (String.ofList part))))
  have hlexes := Condition.lexes_separated Lexes.dot rfl hparts
  rw [List.map_map, List.flatMap_map] at hlexes
  have hvalues : (Text.splitAt '.' name.toList).flatMap (fun _ => ([] : List Value)) = [] :=
    List.flatMap_eq_nil_iff.mpr fun _ _ => rfl
  rw [hvalues] at hlexes
  have hquote : path? (quote name) = _ := path?_of_lexes hlexes
  rw [hquote]
  cases hsplit : Text.splitAt '.' name.toList with
  | nil => exact absurd rfl (Text.splitAt_eq_iff.mp hsplit).ne_nil
  | cons part parts => exact path?_names (parts.map String.ofList)

theorem path?_column (c : ColumnRef) : path? c.sql = some [c.qualifier, c.column] := path?_of_lexes c.lexes

end Identifier

namespace ColumnRef

/-- The column is written behind the path by which its table is named. -/
def Behind (c : ColumnRef) (table : String) : Prop :=
  ∃ path, Identifier.path? (Identifier.quote table) = some path ∧ Identifier.path? c.sql = some (path ++ [c.column])

/-- A column stands behind the path of its table exactly when the table has no dot in its name. -/
theorem behind_iff {c : ColumnRef} {table : String} (h : c.qualifier = table) :
    c.Behind table ↔ '.' ∉ table.toList := by
  rw [Behind, Identifier.path?_quote, Identifier.path?_column, h, ← Text.splitAt_singleton_iff]
  constructor
  · rintro ⟨path, hpath, hcolumn⟩
    have hwhole : [table] ++ [c.column] = path ++ [c.column] := Option.some.inj hcolumn
    have hone := (Option.some.inj hpath).trans (List.append_cancel_right hwhole).symm
    have hparts := congrArg (List.map String.toList) hone
    simpa [List.map_map, Function.comp_def] using hparts
  · intro hsplit
    refine ⟨[table], ?_, rfl⟩
    rw [hsplit, List.map_singleton, String.ofList_toList]

end ColumnRef

/-! ## Tables and their columns -/

namespace Statement

/-- The table of a statement, which is the root of a joined select. -/
def table : Statement → String
  | .select table .. | .insert table _ | .update table .. | .delete table _ | .count table _ => table
  | .joined s => s.root

/-- What a statement says before it names its table. -/
def lead : Statement → String
  | .select .. => "SELECT * FROM "
  | .joined s => "SELECT " ++ s.listSql ++ " FROM "
  | .insert .. => "INSERT INTO "
  | .update .. => "UPDATE "
  | .delete .. => "DELETE FROM "
  | .count .. => "SELECT COUNT(*) AS \"count\" FROM "

/-- A statement names its table by the quoted path. -/
theorem sql_names (s : Statement) : ∃ after, s.template.sqlFrom 1 = s.lead ++ Identifier.quote s.table ++ after := by
  cases s with
  | joined s =>
    refine ⟨(JoinedSelect.lateralsTemplate s.laterals ++ s.restTemplate).sqlFrom 1, ?_⟩
    rw [template, s.template_eq]
    rfl
  | update table values filter =>
    let rest : Template := assignments values ++ Template.optional " WHERE " filter ++ [.text " RETURNING *"]
    refine ⟨" SET " ++ rest.sqlFrom 1, ?_⟩
    rw [← String.append_assoc]
    rfl
  | select | insert | delete | count => exact ⟨_, rfl⟩

/-- The columns of its table that a statement filters, groups and orders by, and those of a root that
subqueries are tied to. -/
def tableColumns : Statement → List ColumnRef
  | .select _ filter order _ => filter.toList.flatMap Template.columns ++ order.map (·.column)
  | .joined s =>
    ((s.laterals.map (·.outer)).filter (·.qualifier = s.root)) ++ s.filter.toList.flatMap Template.columns ++
      s.key :: s.order.map (·.column)
  | .insert .. => []
  | .update _ _ filter | .delete _ filter | .count _ filter => filter.toList.flatMap Template.columns

end Statement

/-- The columns of a table that a predicate asks about. -/
def Predicate.columns (table : String) (predicate : Option Predicate) : List ColumnRef :=
  predicate.toList.flatMap fun p => p.fields.map (ColumnRef.mk table)

/-- The columns of its table that a request filters, groups and orders by, and those of a root that
joins start from. -/
def Request.tableColumns (schema : Schema) (table : String) : Request → List ColumnRef
  | .select c =>
    ((Compiler.planned c.joins).map (·.outer)).filter (·.qualifier = table) ++ Predicate.columns table c.predicate ++
      ((if c.joins.isEmpty then [] else [⟨table, (Compiler.ofSchema schema).keyOf table⟩]) ++
        c.sort.map fun key => ⟨table, key.field⟩)
  | .insert _ => []
  | .update c _ | .delete c | .count c => Predicate.columns table c.predicate

namespace Request

theorem tableColumns_qualifier {schema : Schema} {table : String} {r : Request} :
    ∀ column ∈ r.tableColumns schema table, column.qualifier = table := by
  have hpredicate : ∀ predicate, ∀ column ∈ Predicate.columns table predicate, column.qualifier = table := by
    intro predicate column hcolumn
    obtain ⟨p, -, hcolumn⟩ := List.mem_flatMap.mp hcolumn
    obtain ⟨field, -, rfl⟩ := List.mem_map.mp hcolumn
    rfl
  intro column hcolumn
  cases r with
  | select criteria =>
    simp only [tableColumns, List.mem_append] at hcolumn
    rcases hcolumn with (houter | hfilter) | hkey | hsort
    · exact of_decide_eq_true (List.mem_filter.mp houter).2
    · exact hpredicate _ column hfilter
    · split at hkey
      · cases hkey
      · rw [List.mem_singleton.mp hkey]
    · obtain ⟨key, -, rfl⟩ := List.mem_map.mp hsort
      rfl
  | insert values => cases hcolumn
  | update criteria values => exact hpredicate _ column hcolumn
  | delete criteria => exact hpredicate _ column hcolumn
  | count criteria => exact hpredicate _ column hcolumn

end Request

namespace Compiler

variable {schema : Schema} {table : String}

theorem order_columns {qualifier : String} {sort : List SortKey} {keys : List OrderKey}
    (h : (ofSchema schema).order table qualifier sort = .ok keys) :
    keys.map (·.column) = sort.map fun key => ⟨qualifier, key.field⟩ := by
  rw [order_keys h, List.map_map]
  rfl

/-- The table of a statement and the columns of it are those of the request. -/
theorem statement_columns {r : Request} {s : Statement} (h : (ofSchema schema).statement table r = .ok s) :
    s.table = Identifier.truncate table ∧
      s.tableColumns = r.tableColumns schema (Identifier.truncate table) := by
  cases statement_ok h with
  | @select criteria _ _ _ hjoins hfilter horder _ =>
    refine ⟨rfl, ?_⟩
    rw [Statement.tableColumns, filter_columns hfilter, order_columns horder, Request.tableColumns, hjoins]
    rfl
  | @joined criteria s hjoins hjoined =>
    have houter : s.laterals.map (·.outer) = (planned criteria.joins).map (·.outer) :=
      Result.forall₂_map_iff.mp (hjoined.laterals.imp fun l j hl => (lateral_ok hl).outer)
    have hnonempty : ¬ criteria.joins.isEmpty = true := by simpa using hjoins
    refine ⟨hjoined.root, ?_⟩
    rw [Statement.tableColumns, filter_columns hjoined.filter, order_columns hjoined.order, hjoined.root,
      hjoined.key, houter, Request.tableColumns, if_neg hnonempty]
    rfl
  | insert _ => exact ⟨rfl, rfl⟩
  | update _ hfilter => exact ⟨rfl, filter_columns hfilter⟩
  | delete hfilter => exact ⟨rfl, filter_columns hfilter⟩
  | count hfilter => exact ⟨rfl, filter_columns hfilter⟩

/-- A compiled statement names its table by its quoted path. Each column of the table, wherever rows are
filtered, grouped or ordered, has the table's name before it; and it is written behind the table's path
exactly when there is no dot in that name. -/
theorem columns_behind_iff {r : Request} {q : Query} (h : (ofSchema schema).compile table r = .ok q) :
    ∃ s after, (ofSchema schema).statement table r = .ok s ∧ q = ⟨s.template.sqlFrom 1, s.template.params⟩ ∧
      q.sql = s.lead ++ Identifier.quote (Identifier.truncate table) ++ after ∧
      s.tableColumns = r.tableColumns schema (Identifier.truncate table) ∧
      ∀ column ∈ s.tableColumns, column.qualifier = Identifier.truncate table ∧
        (column.Behind (Identifier.truncate table) ↔ '.' ∉ (Identifier.truncate table).toList) := by
  obtain ⟨s, hs, rfl, -⟩ := compile_ok schema h
  obtain ⟨htable, hcolumns⟩ := statement_columns hs
  obtain ⟨after, hafter⟩ := s.sql_names
  refine ⟨s, after, hs, rfl, htable ▸ hafter, hcolumns, fun column hcolumn => ?_⟩
  have hqualifier := Request.tableColumns_qualifier column (hcolumns ▸ hcolumn)
  exact ⟨hqualifier, ColumnRef.behind_iff hqualifier⟩

/-- Users of a certain age. -/
def ofAge : Criteria := Criteria.empty.filter (.eq "age" (.int 1))

theorem columns_behind_iff_public : ∃ q lead after,
    (ofSchema .empty).compile "public.users" (.select ofAge) = .ok q ∧
    q.sql = lead ++ "\"public\".\"users\"" ++ after ∧
    ∃ column ∈ (Request.select ofAge).tableColumns .empty (Identifier.truncate "public.users"),
      column.sql = "\"public.users\".\"age\"" ∧ ¬ column.Behind "public.users" := by
  have hstatement : ((ofSchema .empty).statement "public.users" (.select ofAge)).toOption.isSome = true := by
    decide +kernel
  have hlen : (((Request.select ofAge).clauses .empty "public.users").flatMap Template.params).length < 2 ^ 64 := by
    decide +kernel
  have hshort : Identifier.truncate "public.users" = "public.users" := by
    decide +kernel
  have hquote : Identifier.quote "public.users" = "\"public\".\"users\"" := by
    decide +kernel
  have hage : ⟨"public.users", "age"⟩ ∈
      (Request.select ofAge).tableColumns .empty (Identifier.truncate "public.users") := by
    decide +kernel
  cases hs : (ofSchema .empty).statement "public.users" (.select ofAge) with
  | error e =>
    rw [hs] at hstatement
    cases hstatement
  | ok _ =>
    have hcompile := compile_of_statement _ hs hlen
    obtain ⟨s, after, -, -, hsql, hcolumns, hbehind⟩ := columns_behind_iff hcompile
    rw [hshort, hquote] at hsql
    rw [hshort] at hbehind
    refine ⟨_, s.lead, after, hcompile, hsql, _, hage, by decide +kernel, fun h => ?_⟩
    exact ((hbehind _ (hcolumns ▸ hage)).2.mp h) (by decide)

end Compiler

end SqlAdapter
