/-
The columns that a joined select returns, and when none of them hides another.

They are the columns of the root that no join takes out, and behind them one
column for each selected join, under its name as the database cuts it. The
compiler compares no names, so two selected joins may share a column, and a join
may take that of a root column that is still there; `Criteria.ColumnsApart` is
what keeps the second from happening. On the way to records a column that is not
alone under its name is lost (`Compiler.output_kept_iff`).
-/
import SqlAdapter.Proofs.Record.Output
import SqlAdapter.Proofs.Schema.Validity
import SqlAdapter.Proofs.Statement.JoinedText
import SqlAdapter.Proofs.Statement.Numbering

namespace SqlAdapter

/-! ## Names of columns -/

namespace JoinedSelect

/-- The columns of the root in the answer, `t` being the root. -/
def rootNames (s : JoinedSelect) (t : Table) : List String :=
  match s.columns with
  | .all => t.columns.map (·.name)
  | .some names => names

/-- The columns of the answer. -/
def outputNames (s : JoinedSelect) (t : Table) : List String := s.rootNames t ++ s.associations.map (·.name)

end JoinedSelect

namespace Criteria

/-- The joins whose associations appear in the result. -/
def selected (c : Criteria) : List (Join Criteria) := c.joins.filter (·.select)

/-- The columns of the associations. -/
def associationColumns (c : Criteria) : List String := c.selected.map Join.column

/-- An association with the name of a column of the root stands for it: a join takes the column out. -/
def ColumnsApart (c : Criteria) (root : String) (t : Table) : Prop :=
  ∀ a ∈ t.columns, a.name ∈ c.associationColumns → a.name ∈ c.removedKeys root

instance (c : Criteria) (root : String) (t : Table) : Decidable (c.ColumnsApart root t) :=
  inferInstanceAs (Decidable (∀ a ∈ t.columns, a.name ∈ c.associationColumns → a.name ∈ c.removedKeys root))

variable {c : Criteria} {root : String} {t : Table}

theorem columnsApart_iff : c.ColumnsApart root t ↔ ∀ name ∈ c.keptNames root t, name ∉ c.associationColumns := by
  simp only [ColumnsApart, keptNames, List.mem_filter, List.mem_map]
  refine ⟨fun h name ⟨⟨a, ha, hname⟩, hkept⟩ hassociation => ?_, fun h a ha hassociation => ?_⟩
  · have hremoved := h a ha (hname ▸ hassociation)
    rw [hname] at hremoved
    simp [hremoved] at hkept
  · by_contra hkept
    exact h a.name ⟨⟨a, ha, rfl⟩, by simpa using hkept⟩ hassociation

theorem keptNames_nodup (c : Criteria) (root : String) (h : (t.attributes.map (·.name)).Nodup) :
    (c.keptNames root t).Nodup :=
  (h.sublist (List.filter_sublist.map _)).filter _

theorem nodup_output_iff (h : (c.keptNames root t).Nodup) :
    (c.keptNames root t ++ c.associationColumns).Nodup ↔ c.associationColumns.Nodup ∧ c.ColumnsApart root t := by
  rw [List.nodup_append, columnsApart_iff]
  constructor
  · exact fun ⟨_, hassociations, hapart⟩ => ⟨hassociations, fun name hname hmem => hapart name hname name hmem rfl⟩
  · exact fun ⟨hassociations, hapart⟩ =>
      ⟨h, hassociations, fun name hname _ hmem heq => hapart name hname (heq ▸ hmem)⟩

/-- Without the columns of the associations, those of the root are left that have other names. -/
theorem filter_output (c : Criteria) (root : String) (t : Table) :
    (c.keptNames root t ++ c.associationColumns).filter (· ∉ c.associationColumns) =
      (c.keptNames root t).filter (· ∉ c.associationColumns) := by
  have hnone : c.associationColumns.filter (· ∉ c.associationColumns) = [] := by simp
  rw [List.filter_append, hnone, List.append_nil]

end Criteria

namespace Compiler

variable {schema : Schema} {table : String} {criteria : Criteria} {t : Table}

theorem rootColumns_ok {root : String} (ht : schema.get? root = some t) {s : JoinedSelect}
    (h : (ofSchema schema).rootColumns root criteria.joins = .ok s.columns) :
    s.rootNames t = criteria.keptNames root t := by
  have htable : (ofSchema schema).schema.get? root = some t := ht
  simp only [rootColumns, htable] at h
  split at h
  · next hnone =>
    have hremoved : criteria.removedKeys root = [] := List.isEmpty_iff.mp hnone
    rw [JoinedSelect.rootNames, ← Except.ok.inj h, Criteria.keptNames, hremoved]
    exact (List.filter_true _).symm
  · split at h
    · cases h
    · rw [JoinedSelect.rootNames, ← Except.ok.inj h]
      rfl

/-- The names of the columns are those that criteria and table give. -/
theorem outputNames_ok {s : JoinedSelect} (ht : schema.get? table = some t)
    (h : (ofSchema schema).Joined table criteria s) :
    s.rootNames t = criteria.keptNames (Identifier.truncate table) t ∧
      s.outputNames t = criteria.keptNames (Identifier.truncate table) t ++ criteria.associationColumns := by
  have hroot : schema.get? (Identifier.truncate table) = some t :=
    (Schema.get?_congr (Identifier.truncate_truncate table)).trans ht
  have hassociations : s.associations.map (·.name) = criteria.associationColumns :=
    Result.forall₂_map_iff.mp (h.associations.imp fun a j ha => (association_ok ha).name)
  have hkept := rootColumns_ok hroot h.columns
  rw [JoinedSelect.outputNames, hkept, hassociations]
  exact ⟨rfl, rfl⟩

/-- The columns of the text have the names of the associations. -/
theorem Selects.columns_named {columns subqueries : List String} {text : String}
    (h : (ofSchema schema).Selects table criteria columns subqueries text) :
    List.Forall₂ ColumnAs criteria.associationColumns columns := by
  rw [h.columns, Criteria.associationColumns, List.forall₂_map_left_iff, List.forall₂_map_right_iff]
  exact List.forall₂_same.mpr fun j _ => columnAs_columnText _ j _

/-- A record of an answer has all columns of the root exactly when no association has the column of one. -/
theorem fields_kept_iff {root : String} {columns : List WireColumn} {cells : List Value} {row : Row} {r : Record}
    (hkept : (criteria.keptNames root t).Nodup) (hlen : cells.length = columns.length)
    (hcolumns : columns.map (·.name) = criteria.keptNames root t ++ criteria.associationColumns)
    (hrow : Row.ofCells columns cells [] = .ok row) (hr : schema.record table criteria.joins row = .ok r) :
    Row.names r.fields = criteria.keptNames root t ↔ criteria.ColumnsApart root t := by
  have hleft : (columns.map (·.name)).filter (· ∉ criteria.associationColumns) =
      (criteria.keptNames root t).filter (· ∉ criteria.associationColumns) := by
    rw [hcolumns, Criteria.filter_output]
  have hrowNames := Row.ofCells_names_filter hlen hrow (hleft ▸ hkept.filter _)
  have hfields : Row.names r.fields = row.names.filter (· ∉ criteria.associationColumns) := by
    rw [Schema.record_fields hr, Table.castRow_names, Row.names, Row.names, List.filter_map]
    rfl
  rw [hfields, hrowNames, hleft, List.filter_eq_self, Criteria.columnsApart_iff]
  simp

/-- A joined select returns the columns of the root that no join takes out, and one column for each selected
join, as its text selects them. These have distinct names exactly when no two associations have one column and
none has that of a column of the root that is still there. The row of an answer has all cells in the same case;
of its record, the second decides on the fields and the first on the associations. -/
theorem output_kept_iff (hjoins : criteria.joins ≠ []) {q : Query}
    (h : (ofSchema schema).compile table (.select criteria) = .ok q) (ht : schema.get? table = some t)
    (hnames : (t.attributes.map (·.name)).Nodup) :
    ∃ s, (ofSchema schema).statement table (.select criteria) = .ok (.joined s) ∧
      q = ⟨s.template.sqlFrom 1, s.template.params⟩ ∧
      (∃ columns subqueries, (ofSchema schema).Selects table criteria columns subqueries q.sql ∧
        List.Forall₂ ColumnAs criteria.associationColumns columns) ∧
      s.outputNames t = criteria.keptNames (Identifier.truncate table) t ++ criteria.associationColumns ∧
      ((s.outputNames t).Nodup ↔
        criteria.associationColumns.Nodup ∧ criteria.ColumnsApart (Identifier.truncate table) t) ∧
      ∀ columns cells row, columns.map (·.name) = s.outputNames t → cells.length = columns.length →
        Row.ofCells columns cells [] = .ok row →
        (List.Forall₂ WireColumn.Reads row (columns.zip cells) ↔
          criteria.associationColumns.Nodup ∧ criteria.ColumnsApart (Identifier.truncate table) t) ∧
        ∀ r, schema.record table criteria.joins row = .ok r →
          (Row.names r.fields = s.rootNames t ↔ criteria.ColumnsApart (Identifier.truncate table) t) ∧
          (criteria.associationColumns.Nodup →
            List.Forall₂ (schema.Taken row) r.associations criteria.selected) ∧
          (¬ criteria.associationColumns.Nodup → ∃ j ∈ criteria.selected, (j.name, []) ∈ r.associations) := by
  obtain ⟨_, hs, hq, -⟩ := compile_ok schema h
  cases statement_ok hs with
  | select hnone => exact absurd hnone hjoins
  | @joined _ s _ hjoined =>
    obtain ⟨hroot, houtput⟩ := outputNames_ok ht hjoined
    have hkept := criteria.keptNames_nodup (Identifier.truncate table) hnames
    have hdistinct := Criteria.nodup_output_iff hkept
    obtain ⟨columns, subqueries, hselects⟩ := compile_selects hjoins h
    refine ⟨s, hs, hq, ⟨columns, subqueries, hselects, hselects.columns_named⟩, houtput, houtput ▸ hdistinct,
      fun columns cells row hcolumns hlen hrow => ⟨?_, fun r hr => ⟨?_, ?_, ?_⟩⟩⟩
    · rw [Row.ofCells_reads_iff hlen hrow, hcolumns, houtput, hdistinct]
    · rw [hroot]
      exact fields_kept_iff hkept hlen (hcolumns.trans houtput) hrow hr
    · exact fun hdistinct => Schema.record_associations hdistinct hr
    · exact fun hshared => Schema.record_shared hshared hr

/-- Posts, with the user who wrote them as a key. -/
def posts : Table :=
  .make "posts" [(Attribute.plain "id" .integer).asPrimaryKey, .plain "title" .string, .plain "user_id" .integer]

/-- Posts, each with its user under the name of the key, which stays. -/
def authored : Criteria := Criteria.empty.join (.plain "posts" "user_id" "users" "id" "user_id")

theorem output_kept_iff_authored : ∃ q s,
    (ofSchema (.ofTables [posts])).compile "posts" (.select authored) = .ok q ∧
    (ofSchema (.ofTables [posts])).statement "posts" (.select authored) = .ok (.joined s) ∧
    s.outputNames posts = ["id", "title", "user_id", "user_id"] ∧
    ∀ columns cells row, columns.map (·.name) = s.outputNames posts → cells.length = columns.length →
      Row.ofCells columns cells [] = .ok row →
      ¬ List.Forall₂ WireColumn.Reads row (columns.zip cells) ∧
      ∀ r, (Schema.ofTables [posts]).record "posts" authored.joins row = .ok r →
        Row.names r.fields ≠ s.rootNames posts := by
  have hstatement :
      ((ofSchema (.ofTables [posts])).statement "posts" (.select authored)).toOption.isSome = true := by
    decide +kernel
  have hlen :
      (((Request.select authored).clauses (.ofTables [posts]) "posts").flatMap Template.params).length < 2 ^ 64 := by
    decide +kernel
  have htable : (Schema.ofTables [posts]).get? "posts" = some posts := by
    rfl
  have hnames : authored.keptNames (Identifier.truncate "posts") posts ++ authored.associationColumns =
      ["id", "title", "user_id", "user_id"] := by
    decide +kernel
  have htogether : ¬ authored.ColumnsApart (Identifier.truncate "posts") posts := by
    decide +kernel
  cases hs : (ofSchema (.ofTables [posts])).statement "posts" (.select authored) with
  | error e =>
    rw [hs] at hstatement
    cases hstatement
  | ok _ =>
    have hcompile := compile_of_statement _ hs hlen
    obtain ⟨s, hjoined, -, -, houtput, -, hrows⟩ := output_kept_iff (by decide) hcompile htable (by decide)
    refine ⟨_, s, hcompile, hs ▸ hjoined, houtput.trans hnames, fun columns cells row hcolumns hlen hrow => ?_⟩
    obtain ⟨hreads, hrecord⟩ := hrows columns cells row hcolumns hlen hrow
    exact ⟨fun hall => htogether (hreads.mp hall).2, fun r hr hfields => htogether ((hrecord r hr).1.mp hfields)⟩

end Compiler

end SqlAdapter
