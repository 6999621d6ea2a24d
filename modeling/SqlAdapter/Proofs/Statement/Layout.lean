/-
How statements are made of clauses.

`Lateral.writes`, `JoinedSelect.writes` and their like say which clauses a part
of a statement is made of, given those of its parts: all that stands between
them is inert, since names are quoted and numbers of windows are in brackets.
-/
import SqlAdapter.Proofs.Condition.Clause
import SqlAdapter.Statement.Basic

namespace SqlAdapter

open Template

/-! ## Inert parts of a statement -/

namespace Inert

theorem whereWord : Inert " WHERE " := word (by decide)

theorem returningWord : Inert " RETURNING *" := word (by decide)

theorem digits (cs : List Char) (h : ∀ c ∈ cs, isDigit c = true) :
    Placeholder.passes .plain cs = some .plain := by
  induction cs with
  | nil => rfl
  | cons c cs ih =>
    have hc : isDigit c = true := h c (List.mem_cons_self ..)
    have hafter : Placeholder.Quoting.after .plain c = .plain := by
      have hne : c ≠ '\'' ∧ c ≠ '"' := by
        refine ⟨?_, ?_⟩ <;> (rintro rfl; revert hc; decide)
      rw [Placeholder.Quoting.after, if_neg hne.1, if_neg hne.2]
    have hmark : ¬ (c = '?' ∨ c = '$') := by
      rintro (rfl | rfl) <;> (revert hc; decide)
    rw [Placeholder.passes, if_neg fun h => hmark h.2, hafter]
    exact ih fun d hd => h d (List.mem_cons_of_mem c hd)

theorem integerChars (i : Int) : Placeholder.passes .plain (integerChars i) = some .plain := by
  rw [SqlAdapter.integerChars]
  split
  · rw [Placeholder.passes, if_neg (by decide)]
    exact digits _ (decimalChars_isDigit _)
  · exact digits _ (decimalChars_isDigit _)

theorem window (w : Window) : Inert w.sql := by
  refine ⟨?_, ?_⟩
  · simp only [Window.sql, integerText, String.toList_append, String.toList_ofList, List.append_assoc]
    have hopen : Placeholder.passes .plain "[".toList = some .plain := by decide
    have hcolon : Placeholder.passes .plain ":".toList = some .plain := by decide
    rw [Placeholder.passes_append _ hopen, Placeholder.passes_append _ (integerChars w.lower),
      Placeholder.passes_append _ hcolon, Placeholder.passes_append _ (integerChars w.upper)]
    decide
  · simp only [Window.sql, String.toList_append, List.append_assoc]
    rfl

end Inert

theorem OrderKey.inert (k : OrderKey) : Inert k.sql := by
  have hsuffix : Inert k.direction.suffix := by
    cases k.direction with
    | ascending => exact .word (by decide)
    | descending => exact .word (by decide)
  exact k.column.inert.append hsuffix

theorem OrderKey.inert_listSql (keys : List OrderKey) : Inert (listSql keys) := by
  refine Inert.intercalate Inert.comma fun part hp => ?_
  obtain ⟨k, -, rfl⟩ := List.mem_map.mp hp
  exact k.inert

theorem OrderKey.inert_clause (keys : List OrderKey) : Inert (clause keys) := by
  have hword : Inert "ORDER BY " := .word (by decide)
  cases keys with
  | nil => exact .word (by decide)
  | cons k keys => exact hword.append (inert_listSql (k :: keys))

/-- The order clause as it stands between two others. -/
theorem OrderKey.inert_between (keys : List OrderKey) : Inert (" " ++ clause keys ++ " ") := by
  have hblank : Inert " " := .word (by decide)
  exact (hblank.append (inert_clause keys)).append hblank

theorem AssociationColumn.inert (a : AssociationColumn) : Inert a.sql := by
  have harray : Inert "array_remove(array_agg(" := .word (by decide)
  have horder : Inert ".* ORDER BY " := .word (by decide)
  have hnull : Inert "), NULL)" := .word (by decide)
  have hjson : Inert "array_to_json(" := .word (by decide)
  have hname : Inert ") AS " := .word (by decide)
  have haggregate : Inert a.aggregate :=
    (((harray.append (.quote _)).append horder).append (OrderKey.inert_listSql _)).append hnull
  have hcolumn : ∀ rows, Inert rows →
      Inert ("array_to_json(" ++ rows ++ ") AS " ++ Identifier.quote a.name) :=
    fun rows hrows => ((hjson.append hrows).append hname).append (.quote _)
  obtain ⟨lateral, order, window, name⟩ := a
  cases window with
  | none => exact hcolumn _ haggregate
  | some w => exact hcolumn _ (((Inert.opening.append haggregate).append .closing).append (.window w))

theorem JoinedSelect.inert_rootSql (s : JoinedSelect) : Inert s.rootSql := by
  have hall : Inert ".*" := .word (by decide)
  rw [rootSql]
  split
  · exact (Inert.quote _).append hall
  · refine Inert.intercalate Inert.comma fun part hp => ?_
    obtain ⟨name, -, rfl⟩ := List.mem_map.mp hp
    exact .qualified _ _

/-! ## Clauses of each part -/

namespace Lateral

theorem inert_source (l : Lateral) : Inert l.source := by
  have hjoin : Inert " JOIN " := .word (by decide)
  have hon : Inert " ON " := .word (by decide)
  have heq : Inert " = " := .word (by decide)
  rw [source]
  split
  · exact .quote _
  · exact ((((((Inert.quote _).append hjoin).append (.quote _)).append hon).append
      (ColumnRef.inert _)).append heq).append (ColumnRef.inert _)

/-- A subquery is made of its filters and its page. -/
theorem writes {l : Lateral} {clauses : List Template} (h : List.Forall₂ Same l.filters clauses) :
    Writes l.template (clauses ++ [l.page.template]) := by
  have hselect : Inert ("SELECT " ++ Identifier.quote l.child ++ ".* FROM " ++ l.source ++ " WHERE ") :=
    ((((Inert.word (by decide)).append (.quote _)).append (.word (by decide))).append l.inert_source).append
      (.word (by decide))
  have hlink : Inert (l.inner.sql ++ " = " ++ l.outer.sql) :=
    (l.inner.inert.append (.word (by decide))).append l.outer.inert
  have hname : Inert (") AS " ++ Identifier.quote l.name ++ " ON TRUE") :=
    ((Inert.word (by decide)).append (.quote _)).append (.word (by decide))
  have hlateral : Inert "LEFT JOIN LATERAL (" := .word (by decide)
  -- Each filter in its parentheses is one clause, the tie to the parent none.
  have hfilters : List.Forall₂ Writes (l.filters.map fun f => .text "(" :: f ++ [.text ")"])
      (clauses.map fun c => [c]) := by
    refine List.forall₂_map_left_iff.mpr (List.forall₂_map_right_iff.mpr (h.imp fun f c hsame => ?_))
    exact (Writes.textAppend .opening ((Writes.clause c).same hsame)).append (.text .closing)
  have hconditions : List.Forall₂ Writes l.conditions (clauses.map (fun c => [c]) ++ [[]]) :=
    List.rel_append hfilters (.cons (.text hlink) .nil)
  have hflat : (clauses.map (fun c => [c]) ++ [[]]).flatten = clauses := by
    rw [List.flatten_append, ← List.flatMap_def, List.flatMap_singleton']
    exact List.append_nil _
  have hwhere := Writes.intercalate Inert.andWord hconditions
  rw [hflat] at hwhere
  have hpage : Writes (.text (" " ++ OrderKey.clause l.order ++ " ") :: l.page.template) [l.page.template] :=
    .textAppend (OrderKey.inert_between l.order) (.clause _)
  have hsubquery : Writes l.subquery (clauses ++ [l.page.template]) :=
    (Writes.textAppend hselect hwhere).append hpage
  have hall := (Writes.textAppend hlateral hsubquery).append (.text hname)
  rw [List.append_nil] at hall
  exact hall

end Lateral

/-- A clause behind a word, if there is one. -/
theorem Template.Writes.optional {before : String} (hbefore : Inert before) {filter : Option Template}
    {clauses : List Template} (h : List.Forall₂ Same filter.toList clauses) :
    Writes (Template.optional before filter) clauses := by
  cases filter with
  | none =>
    cases h
    exact .nil
  | some t =>
    obtain _ | ⟨hsame, hnil⟩ := h
    cases hnil
    exact .textAppend hbefore ((Writes.clause _).same hsame)

/-- A joined select is made of the clauses of its subqueries, its filter and its page. -/
theorem JoinedSelect.writes {s : JoinedSelect} {laterals : List (List Template)} {filter : List Template}
    (hlaterals : List.Forall₂ (fun l clauses => Writes l.template clauses) s.laterals laterals)
    (hfilter : List.Forall₂ Same s.filter.toList filter) :
    Writes s.template (laterals.flatten ++ filter ++ [s.page.template]) := by
  have hcolumns : Inert (", ".intercalate (s.rootSql :: s.associations.map AssociationColumn.sql)) := by
    refine Inert.intercalate Inert.comma fun part hp => ?_
    rcases List.mem_cons.mp hp with rfl | hp
    · exact s.inert_rootSql
    · obtain ⟨a, -, rfl⟩ := List.mem_map.mp hp
      exact a.inert
  have hselect : Inert ("SELECT " ++ ", ".intercalate (s.rootSql :: s.associations.map AssociationColumn.sql) ++
      " FROM " ++ Identifier.quote s.root) :=
    (((Inert.word (by decide)).append hcolumns).append (.word (by decide))).append (.quote _)
  have hgroup : Inert (" GROUP BY " ++ s.key.sql ++ " " ++ OrderKey.clause s.order ++ " ") := by
    have hword : Inert " GROUP BY " := .word (by decide)
    have h := (hword.append s.key.inert).append (OrderKey.inert_between s.order)
    simp only [← String.append_assoc] at h
    exact h
  have hsubqueries : Writes (s.laterals.flatMap fun l => .text " " :: l.template) laterals.flatten := by
    rw [List.flatMap_def]
    refine Writes.flatten (List.forall₂_map_left_iff.mpr (hlaterals.imp fun l clauses h => ?_))
    exact .textAppend (.word (by decide)) h
  have hwhere := Template.Writes.optional Inert.whereWord hfilter
  have hpage := Writes.textAppend hgroup (Writes.clause s.page.template)
  exact (((Writes.textAppend hselect hsubqueries).append hwhere).append hpage)

namespace Statement

variable {table : String} {filter : Option Template} {clauses : List Template}

theorem select_writes (order : List OrderKey) (page : Page)
    (h : List.Forall₂ Same filter.toList clauses) :
    Writes (Statement.select table filter order page).template (clauses ++ [page.template]) := by
  have hselect : Inert ("SELECT * FROM " ++ Identifier.quote table) :=
    (Inert.word (by decide)).append (.quote _)
  have hwhere := Template.Writes.optional Inert.whereWord h
  have hpage := Writes.textAppend (OrderKey.inert_between order) (Writes.clause page.template)
  exact (Writes.textAppend hselect hwhere).append hpage

theorem insert_writes {values : List (String × Value)} {row : List Template} (hrow : Writes (insertion values) row) :
    Writes (Statement.insert table values).template row := by
  have hinsert : Inert ("INSERT INTO " ++ Identifier.quote table) :=
    (Inert.word (by decide)).append (.quote _)
  have hall := (Writes.textAppend hinsert hrow).append (.text .returningWord)
  rw [List.append_nil] at hall
  exact hall

theorem update_writes {values : List (String × Value)} {cells : List Template}
    (hcells : Writes (assignments values) cells) (h : List.Forall₂ Same filter.toList clauses) :
    Writes (Statement.update table values filter).template (cells ++ clauses) := by
  have hupdate : Inert ("UPDATE " ++ Identifier.quote table ++ " SET ") :=
    ((Inert.word (by decide)).append (.quote _)).append (.word (by decide))
  have hwhere := Template.Writes.optional Inert.whereWord h
  have hall := ((Writes.textAppend hupdate hcells).append hwhere).append (.text .returningWord)
  rw [List.append_nil] at hall
  exact hall

theorem delete_writes (h : List.Forall₂ Same filter.toList clauses) :
    Writes (Statement.delete table filter).template clauses := by
  have hdelete : Inert ("DELETE FROM " ++ Identifier.quote table) :=
    (Inert.word (by decide)).append (.quote _)
  have hwhere := Template.Writes.optional Inert.whereWord h
  have hall := (Writes.textAppend hdelete hwhere).append (.text .returningWord)
  rw [List.append_nil] at hall
  exact hall

theorem count_writes (h : List.Forall₂ Same filter.toList clauses) :
    Writes (Statement.count table filter).template clauses := by
  have hcount : Inert ("SELECT COUNT(*) AS \"count\" FROM " ++ Identifier.quote table) :=
    (Inert.word (by decide)).append (.quote _)
  exact Writes.textAppend hcount (.optional .whereWord h)

end Statement

end SqlAdapter
