/-
The statements of a plan after the first.

A default that is an expression is written only where its column is made, and
that is always the first statement of a plan. All later ones make keys and
indexes: names are quoted there, so only what a foreign key does on deletion could
hold a placeholder, and the actions that SQL knows do not
(`ForeignKey.IsReferential.quiet`).
-/
import SqlAdapter.Proofs.Schema.Quiet
import SqlAdapter.Proofs.Text.Pieces

namespace SqlAdapter

/-! ## Referential actions -/

namespace ForeignKey

/-- What SQL can do to a row when the row that it refers to is deleted. -/
def referentialActions : List String := ["NO ACTION", "RESTRICT", "CASCADE", "SET NULL", "SET DEFAULT"]

/-- The key names one of the actions of SQL, in any letter case. -/
def IsReferential (key : ForeignKey) : Prop := referentialActions.any (sameIgnoringCase key.onDelete) = true

instance (key : ForeignKey) : Decidable key.IsReferential := inferInstanceAs (Decidable (_ = true))

/-- The key has the words of one of the actions of SQL, in any letter case and with any white space around them. -/
def Acts (key : ForeignKey) : Prop := ∃ action ∈ referentialActions,
  Text.words (key.onDelete.toList.map asciiLower) = Text.words (action.toList.map asciiLower)

instance (key : ForeignKey) : Decidable key.Acts := inferInstanceAs (Decidable (∃ action ∈ referentialActions, _ = _))

theorem IsReferential.acts {key : ForeignKey} (h : key.IsReferential) : key.Acts := by
  obtain ⟨action, haction, hsame⟩ := List.any_eq_true.mp h
  have hlower : key.onDelete.toList.map asciiLower = action.toList.map asciiLower := by
    simpa [sameIgnoringCase] using hsame
  exact ⟨action, haction, by rw [hlower]⟩

theorem isNeutral_of_asciiLower {c : Char} (h : isNeutral (asciiLower c) = true) : isNeutral c = true := by
  rw [asciiLower] at h
  split at h
  · next hupper =>
    refine isNeutral_of_isLetter ?_
    simp [isLetter, hupper]
  · exact h

theorem isNeutral_of_isBlank {c : Char} (h : Text.isBlank c = true) : isNeutral c = true := by
  simp only [isNeutral, Bool.not_eq_true', Bool.or_eq_false_iff, decide_eq_false_iff_not]
  refine ⟨⟨⟨?_, ?_⟩, ?_⟩, ?_⟩ <;> (rintro rfl; revert h; decide)

/-- Nothing stands in a text but its words and blanks. -/
theorem isBlank_or_mem_words {cs : List Char} {words : List (List Char)} (h : Text.Spaced cs words) :
    ∀ c ∈ cs, Text.isBlank c = true ∨ ∃ word ∈ words, c ∈ word := by
  induction h with
  | blank hblank => exact fun c hc => .inl (hblank c hc)
  | @word before word rest words hbefore _ _ _ _ ih =>
    intro c hc
    simp only [List.mem_append] at hc
    rcases hc with (hc | hc) | hc
    · exact .inl (hbefore c hc)
    · exact .inr ⟨word, List.mem_cons_self .., hc⟩
    · refine (ih c hc).imp_right fun ⟨other, hother, hc⟩ => ⟨other, List.mem_cons_of_mem word hother, hc⟩

theorem Acts.quiet {key : ForeignKey} (h : key.Acts) : Quiet key.onDelete := by
  obtain ⟨action, haction, hwords⟩ := h
  have hneutral : ∀ action ∈ referentialActions, ∀ word ∈ Text.words (action.toList.map asciiLower),
      word.all isNeutral = true := by
    decide
  rw [← String.ofList_toList (s := key.onDelete)]
  refine Quiet.neutral fun c hc => isNeutral_of_asciiLower ?_
  rcases isBlank_or_mem_words (Text.words_eq_iff.mp hwords) _ (List.mem_map_of_mem hc) with hblank | ⟨word, hword, hc⟩
  · exact isNeutral_of_isBlank hblank
  · exact List.all_eq_true.mp (hneutral action haction word hword) _ hc

theorem IsReferential.quiet {key : ForeignKey} (h : key.IsReferential) : Quiet key.onDelete := h.acts.quiet

end ForeignKey

/-! ## Later statements -/

namespace Plan

variable {mode : MappingMode} {table : String} {a : Attribute} {p q : Plan}

theorem indexes_quiet (p : Plan) (steps : List Operation) :
    ∀ sql ∈ steps.filterMap (Operation.indexSql? (Identifier.quote p.table)), SqlAdapter.Quiet sql := by
  intro sql hsql
  obtain ⟨step, -, hindex⟩ := List.mem_filterMap.mp hsql
  exact Operation.quiet_indexSql (.of_inert (.quote p.table)) hindex

/-- A plan that alters no table makes or drops it with one statement, and makes indexes with the others. -/
theorem later_quiet_of_ne_alter (h : p.kind ≠ .alter) : ∀ sql ∈ p.statements.tail, SqlAdapter.Quiet sql := by
  rw [statements]
  cases hkind : p.kind with
  | create => exact p.indexes_quiet p.operations
  | drop => exact p.indexes_quiet p.operations
  | alter => exact absurd hkind h

/-- A plan that alters a table does its first step with its first statement. -/
theorem later_quiet_of_alter {step : Operation} {rest : List Operation} (hkind : p.kind = .alter)
    (hsteps : p.operations = step :: rest) (hfirst : step.alteration?.isSome = true)
    (hrest : ∀ step ∈ rest, step.Quiet) :
    ∀ sql ∈ p.statements.tail, SqlAdapter.Quiet sql := by
  obtain ⟨first, hfirst⟩ := Option.isSome_iff_exists.mp hfirst
  have hstatements : p.statements.tail =
      (rest.filterMap Operation.alteration?).map (fun change =>
        "ALTER TABLE " ++ Identifier.quote p.table ++ " " ++ change) ++
      p.operations.filterMap (Operation.indexSql? (Identifier.quote p.table)) := by
    rw [statements, hkind, hsteps, List.filterMap_cons_some hfirst]
    rfl
  intro sql hsql
  rw [hstatements, List.mem_append] at hsql
  rcases hsql with hsql | hsql
  · obtain ⟨change, hchange, rfl⟩ := List.mem_map.mp hsql
    obtain ⟨step, hstep, hchange⟩ := List.mem_filterMap.mp hchange
    have htable : SqlAdapter.Quiet (Identifier.quote p.table) := .of_inert (.quote p.table)
    exact ((SqlAdapter.Quiet.append (by decide) htable).append (by decide)).append
      ((hrest step hstep).alteration hchange)
  · exact p.indexes_quiet p.operations sql hsql

theorem create_kind {t : Table} (h : create mode t = .ok p) : p.kind = .create := by
  obtain ⟨-, -, -, columns, -, rfl⟩ := create_ok_iff.mp h
  rfl

theorem addAttribute_later_quiet (h : addAttribute mode table a = .ok p)
    (hkey : ∀ key, a.foreignKey = some key → SqlAdapter.Quiet key.onDelete) :
    ∀ sql ∈ p.statements.tail, SqlAdapter.Quiet sql := by
  obtain ⟨-, -, c, -, rfl⟩ := addAttribute_ok_iff.mp h
  refine later_quiet_of_alter rfl rfl rfl fun step hstep => ?_
  rcases List.mem_append.mp hstep with hindex | hforeign
  · split at hindex
    · rw [List.mem_singleton.mp hindex]
      exact trivial
    · cases hindex
  · obtain ⟨key, hsome, rfl⟩ := mem_foreignKeyOf.mp hforeign
    exact hkey key hsome

theorem removeAttribute_later {name : String} (h : removeAttribute table name = .ok p) : p.statements.tail = [] := by
  obtain ⟨_, -, h⟩ := Result.bind_ok_iff.mp h
  obtain ⟨_, -, h⟩ := Result.bind_ok_iff.mp h
  rw [← Result.pure_ok_iff.mp h]
  rfl

theorem drop_later (h : drop table = .ok p) : p.statements.tail = [] := by
  obtain ⟨_, -, h⟩ := Result.bind_ok_iff.mp h
  rw [← Result.pure_ok_iff.mp h]
  rfl

end Plan

end SqlAdapter
