/-
Plans and the placeholders in their statements.

Names and literals are quoted, types and numbers have no characters that matter,
so the only texts of a plan that could hold a placeholder are those which an
attribute brings along as SQL: a default that is an expression, and what a
foreign key does on deletion. Where these are `Quiet`, so are the steps of every
plan, and all its statements with them (`Plan.Quiet.statements`).
-/
import SqlAdapter.Proofs.Schema.Plans
import SqlAdapter.Proofs.Sql.Spans
import SqlAdapter.Proofs.Sql.Template

namespace SqlAdapter

open Placeholder

/-- Text that holds no placeholder and closes all its quotes. -/
def Quiet (sql : String) : Prop := passes .plain sql.toList = some .plain

instance (sql : String) : Decidable (Quiet sql) := inferInstanceAs (Decidable (_ = _))

/-- A character that neither belongs to a quote nor stands for a placeholder. -/
def isNeutral (c : Char) : Bool := !(c = '\'' || c = '"' || c = '?' || c = '$')

theorem isNeutral_of_isDigit {c : Char} (h : isDigit c = true) : isNeutral c = true := by
  simp only [isNeutral, Bool.not_eq_true', Bool.or_eq_false_iff, decide_eq_false_iff_not]
  refine ⟨⟨⟨?_, ?_⟩, ?_⟩, ?_⟩ <;> (rintro rfl; revert h; decide)

theorem isNeutral_of_isLetter {c : Char} (h : isLetter c = true) : isNeutral c = true := by
  simp only [isNeutral, Bool.not_eq_true', Bool.or_eq_false_iff, decide_eq_false_iff_not]
  refine ⟨⟨⟨?_, ?_⟩, ?_⟩, ?_⟩ <;> (rintro rfl; revert h; decide)

namespace Quiet

theorem append {s t : String} (hs : Quiet s) (ht : Quiet t) : Quiet (s ++ t) := by
  rw [Quiet, String.toList_append, passes_append _ hs]
  exact ht

theorem intercalate {separator : String} (hsep : Quiet separator) :
    ∀ {parts : List String}, (∀ part ∈ parts, Quiet part) → Quiet (separator.intercalate parts)
  | [], _ => by rw [String.intercalate_nil]; rfl
  | [part], h => by rw [String.intercalate_singleton]; exact h part (List.mem_singleton_self part)
  | part :: next :: parts, h => by
    rw [String.intercalate_cons_cons]
    have hrest : Quiet (separator.intercalate (next :: parts)) :=
      intercalate hsep fun p hp => h p (List.mem_cons_of_mem part hp)
    exact ((h part (List.mem_cons_self ..)).append hsep).append hrest

theorem of_inert {sql : String} (h : Inert sql) : Quiet sql := h.passes

theorem neutral {cs : List Char} (h : ∀ c ∈ cs, isNeutral c = true) : Quiet (String.ofList cs) := by
  rw [Quiet, String.toList_ofList]
  induction cs with
  | nil => rfl
  | cons c cs ih =>
    obtain ⟨hc, hcs⟩ := List.forall_mem_cons.mp h
    simp only [isNeutral, Bool.not_eq_true', Bool.or_eq_false_iff, decide_eq_false_iff_not] at hc
    obtain ⟨⟨⟨hsingle, hdouble⟩, hmark⟩, hdollar⟩ := hc
    rw [passes, if_neg (by simp [hmark, hdollar]), Quoting.after_plain (not_or.mpr ⟨hsingle, hdouble⟩)]
    exact ih hcs

theorem literal (text : String) : Quiet (Identifier.literal text) := of_inert (.literal text)

theorem natural (n : Nat) : Quiet (naturalText n) :=
  neutral fun c hc => isNeutral_of_isDigit (decimalChars_isDigit n c hc)

theorem integer (i : Int) : Quiet (integerText i) := by
  refine neutral fun c hc => ?_
  rw [integerChars] at hc
  split at hc
  · rcases List.mem_cons.mp hc with rfl | hc
    · rfl
    · exact isNeutral_of_isDigit (decimalChars_isDigit _ c hc)
  · exact isNeutral_of_isDigit (decimalChars_isDigit _ c hc)

theorem neutral_positional {digits : List Char} (h : ∀ c ∈ digits, isNeutral c = true) (position : Int) :
    ∀ c ∈ Binary.positional digits position false, isNeutral c = true := by
  have hzeros : ∀ n, ∀ c ∈ List.replicate n '0', isNeutral c = true := by
    intro n c hc
    rw [List.eq_of_mem_replicate hc]
    rfl
  intro c hc
  rw [Binary.positional] at hc
  split at hc
  · simp only [List.mem_cons, List.mem_append] at hc
    rcases hc with rfl | rfl | hc | hc
    · rfl
    · rfl
    · exact hzeros _ c hc
    · exact h c hc
  · split at hc
    · simp only [Bool.false_eq_true, if_false, List.append_nil, List.mem_append] at hc
      rcases hc with hc | hc
      · exact h c hc
      · exact hzeros _ c hc
    · simp only [List.mem_cons, List.mem_append] at hc
      rcases hc with hc | rfl | hc
      · exact h c (List.mem_of_mem_take hc)
      · rfl
      · exact h c (List.mem_of_mem_drop hc)

/-- The plain layout of a binary number has digits, a point and a sign. -/
theorem plainText {f : Binary.Format} (x : Binary f) : Quiet x.plainText := by
  rw [Binary.plainText]
  split
  · refine neutral fun c hc => ?_
    simp only [Binary.layOut, Binary.Layout.sql, Bool.or_true, if_true, List.mem_append] at hc
    rcases hc with hc | hc
    · split at hc
      · rw [List.mem_singleton.mp hc]
        rfl
      · cases hc
    · exact neutral_positional (fun c hc => isNeutral_of_isDigit (decimalChars_isDigit _ c hc)) _ c hc
  · rw [Binary.wordOf]
    split
    · decide
    · split <;> decide

end Quiet

/-- A text is passed over where no mark and no dollar sign stands outside of quotes, and the last quotes are closed. -/
theorem Spans.passes_iff {cs : List Char} {spans : List Span} (h : Spans cs spans) :
    passes .plain cs = some .plain ↔
      .char '?' ∉ spans ∧ .char '$' ∉ spans ∧ ∀ quote inside, .quoted quote inside false ∉ spans := by
  induction h with
  | nil => simp [passes]
  | @char c cs spans hc _ ih =>
    rw [passes, Quoting.after_plain hc]
    by_cases hplaceholder : c = '?' ∨ c = '$'
    · rw [if_pos ⟨rfl, hplaceholder⟩]
      rcases hplaceholder with rfl | rfl <;> simp
    · rw [if_neg fun h => hplaceholder h.2, ih]
      obtain ⟨hmark, hdollar⟩ := not_or.mp hplaceholder
      simp [Ne.symm hmark, Ne.symm hdollar]
  | @closed quote inside cs spans hquote _ _ ih =>
    rw [passes_append _ (passes_enclosed hquote inside), ih]
    simp
  | @unclosed quote inside hquote =>
    rw [passes_unclosed hquote]
    rcases hquote with rfl | rfl <;> simp [Quoting.within]

/-! ## Parts of a plan -/

/-- A default that brings no placeholder: any value, or an expression without one. -/
def DefaultValue.Quiet : DefaultValue → Prop
  | .expression sql => SqlAdapter.Quiet sql
  | _ => True

/-- The SQL that an attribute brings along has no placeholders. -/
structure Attribute.Quiet (a : Attribute) : Prop where
  default : ∀ value, a.default = some value → value.Quiet
  onDelete : ∀ key, a.foreignKey = some key → SqlAdapter.Quiet key.onDelete

theorem DefaultValue.quiet_sql {value : DefaultValue} (h : value.Quiet) : SqlAdapter.Quiet value.sql := by
  cases value with
  | null => exact rfl
  | bool value => cases value <;> exact rfl
  | int i => exact Quiet.integer i.toInt
  | float x => exact Quiet.plainText x
  | text t => exact Quiet.literal t
  | json j => exact Quiet.literal j.text
  | expression sql => exact h

/-- A column whose type, default and condition have no placeholders. -/
structure Column.Quiet (c : Column) : Prop where
  type : SqlAdapter.Quiet c.type.sql
  default : ∀ sql, c.default = some sql → SqlAdapter.Quiet sql
  check : ∀ sql, c.check = some sql → SqlAdapter.Quiet sql

namespace Column

theorem quiet_plain (name : String) {type : ColumnType} (h : SqlAdapter.Quiet type.sql) : (plain name type).Quiet :=
  ⟨h, nofun, nofun⟩

theorem quiet_isRaw {sql : String} (h : sql.toList.all isRaw = true) : SqlAdapter.Quiet sql := by
  rw [← String.ofList_toList (s := sql)]
  refine Quiet.neutral fun c hc => ?_
  have hraw := List.all_eq_true.mp h c hc
  simp only [isRaw, Bool.or_eq_true] at hraw
  rcases hraw with (hletter | hdigit) | hsign
  · exact isNeutral_of_isLetter hletter
  · exact isNeutral_of_isDigit hdigit
  · simp only [List.contains_eq_mem, decide_eq_true_eq, List.mem_cons, List.not_mem_nil, or_false] at hsign
    rcases hsign with rfl | rfl | rfl | rfl | rfl | rfl | rfl <;> rfl

theorem quiet_typeOf {a : Attribute} : ∀ {type : AttributeType} {column : ColumnType},
    typeOf a type = .ok column → SqlAdapter.Quiet column.sql
  | .array element, column, h => by
    rw [typeOf] at h
    cases helement : typeOf a element with
    | error e =>
      rw [helement] at h
      cases h
    | ok inner =>
      rw [helement] at h
      cases h
      exact (quiet_typeOf helement).append (by decide)
  | .raw sql, column, h => by
    rw [typeOf] at h
    split at h
    · cases h
    · next hraw =>
      have hquiet : SqlAdapter.Quiet sql := quiet_isRaw (by simpa using (not_or.mp hraw).2)
      cases h
      exact hquiet
  | .string, _, h => by
    cases h
    exact (Quiet.append (s := "VARCHAR(") (by decide) (.natural _)).append (by decide)
  | .decimal, _, h => by
    cases h
    exact ((((Quiet.append (s := "NUMERIC(") (by decide) (.natural _)).append (t := ", ") (by decide)).append
      (.natural _))).append (by decide)
  | .unknown tag, _, h => by cases h
  | .text, _, h | .integer, _, h | .bigInteger, _, h | .smallInteger, _, h | .float, _, h | .double, _, h
  | .boolean, _, h | .date, _, h | .time, _, h | .dateTime, _, h | .timestamp, _, h | .binary, _, h | .json, _, h
  | .jsonb, _, h | .uuid, _, h | .untypedArray, _, h | .enum _, _, h => by
    cases h
    exact rfl

theorem quiet_oneOf (name : String) (values : List String) : SqlAdapter.Quiet (oneOf name values) := by
  have hvalues : SqlAdapter.Quiet (", ".intercalate (values.map Identifier.literal)) := by
    refine Quiet.intercalate (by decide) fun part hpart => ?_
    obtain ⟨value, -, rfl⟩ := List.mem_map.mp hpart
    exact .literal value
  exact (((Quiet.of_inert (.quote name)).append (t := " IN (") (by decide)).append hvalues).append (by decide)

/-- The column of an attribute has nothing of its own that could be a placeholder. -/
theorem quiet_ofAttribute {mode : MappingMode} {a : Attribute} {c : Column} (h : ofAttribute mode a = .ok c) :
    c.Quiet := by
  have htext : SqlAdapter.Quiet ColumnType.text.sql := rfl
  have huuid : SqlAdapter.Quiet ColumnType.uuid.sql := rfl
  rw [ofAttribute, Result.bind_ok_iff] at h
  obtain ⟨_, -, h⟩ := h
  split at h
  · rw [← Result.pure_ok_iff.mp h]
    refine quiet_plain _ ?_
    split <;> exact rfl
  · split at h
    · rw [← Result.pure_ok_iff.mp h]
      refine ⟨htext, nofun, fun sql hsql => ?_⟩
      rw [← Option.some.inj hsql]
      exact quiet_oneOf _ _
    · rw [← Result.pure_ok_iff.mp h]
      refine ⟨huuid, fun sql hsql => ?_, nofun⟩
      rw [← Option.some.inj hsql]
      decide
    · split at h
      · cases h
      · rw [← Result.pure_ok_iff.mp h]
        exact ⟨htext, nofun, nofun⟩
    · obtain ⟨type, htype, h⟩ := Result.bind_ok_iff.mp h
      rw [← Result.pure_ok_iff.mp h]
      exact quiet_plain a.name (quiet_typeOf htype)

theorem Quiet.constrained {a : Attribute} {c : Column} (h : c.Quiet) (ha : a.Quiet) : (c.constrained a).Quiet := by
  rw [constrained_eq]
  refine ⟨h.type, fun sql hsql => ?_, h.check⟩
  -- The default is the declared one, if there is any; only a declared one may bring SQL.
  dsimp only at hsql
  split at hsql
  · exact h.default sql hsql
  · rcases Option.or_eq_some_iff.mp hsql with hdeclared | ⟨-, hown⟩
    · obtain ⟨value, hvalue, rfl⟩ := Option.map_eq_some_iff.mp hdeclared
      exact DefaultValue.quiet_sql (ha.default value hvalue)
    · exact h.default sql hown

theorem quiet_compiled {mode : MappingMode} {a : Attribute} {c : Column} (ha : a.Quiet) (h : compiled mode a = .ok c) :
    c.Quiet := by
  obtain ⟨mapped, hmapped, rfl⟩ := Result.map_ok_iff.mp h
  exact (quiet_ofAttribute hmapped).constrained ha

theorem quiet_columns {mode : MappingMode} {attributes : List Attribute} {columns : List Column}
    (h : List.Forall₂ (fun a c => compiled mode a = .ok c) attributes columns) (hquiet : ∀ a ∈ attributes, a.Quiet) :
    ∀ c ∈ columns, c.Quiet := by
  induction h with
  | nil => exact fun c hc => nomatch hc
  | cons hc _ ih =>
    obtain ⟨ha, hrest⟩ := List.forall_mem_cons.mp hquiet
    exact List.forall_mem_cons.mpr ⟨quiet_compiled ha hc, ih hrest⟩

theorem Quiet.sql {c : Column} (h : c.Quiet) : SqlAdapter.Quiet c.sql := by
  have hname : SqlAdapter.Quiet (Identifier.quote c.name ++ " " ++ c.type.sql) :=
    ((SqlAdapter.Quiet.of_inert (.quote c.name)).append (by decide)).append h.type
  rw [Column.sql]
  refine (((hname.append ?notNull).append ?unique).append ?default).append ?check
  case notNull => split <;> exact rfl
  case unique => split <;> exact rfl
  case default =>
    split
    · next sql hsql => exact SqlAdapter.Quiet.append (by decide) (h.default sql hsql)
    · exact rfl
  case check =>
    split
    · next sql hsql => exact (SqlAdapter.Quiet.append (by decide) (h.check sql hsql)).append (by decide)
    · exact rfl

end Column

namespace Operation

/-- A step all of whose texts are free of placeholders. -/
def Quiet : Operation → Prop
  | .addColumn column => column.Quiet
  | .foreignKey _ key => SqlAdapter.Quiet key.onDelete
  | _ => True

theorem quiet_foreignKeySql (column : String) {key : ForeignKey} (h : SqlAdapter.Quiet key.onDelete) :
    SqlAdapter.Quiet (foreignKeySql column key) :=
  have hquote (name : String) : SqlAdapter.Quiet (Identifier.quote name) := .of_inert (.quote name)
  (((((((SqlAdapter.Quiet.append (s := "FOREIGN KEY (") (by decide) (hquote column)).append
    (t := ") REFERENCES ") (by decide)).append (hquote _)).append (t := " (") (by decide)).append
    (hquote _)).append (t := ") ON DELETE ") (by decide)).append h)

theorem Quiet.definition {step : Operation} (h : step.Quiet) {sql : String} (hsql : step.definition? = some sql) :
    SqlAdapter.Quiet sql := by
  cases step with
  | addColumn column =>
    rw [← Option.some.inj hsql]
    exact Column.Quiet.sql h
  | primaryKey columns =>
    rw [← Option.some.inj hsql]
    exact (SqlAdapter.Quiet.append (by decide) (.of_inert (.quoteAll columns))).append (by decide)
  | foreignKey column key =>
    rw [← Option.some.inj hsql]
    exact quiet_foreignKeySql column h
  | dropColumn name => cases hsql
  | createIndex name column => cases hsql

theorem Quiet.alteration {step : Operation} (h : step.Quiet) {sql : String} (hsql : step.alteration? = some sql) :
    SqlAdapter.Quiet sql := by
  cases step with
  | addColumn column =>
    rw [← Option.some.inj hsql]
    exact SqlAdapter.Quiet.append (by decide) (Column.Quiet.sql h)
  | dropColumn name =>
    rw [← Option.some.inj hsql]
    exact SqlAdapter.Quiet.append (by decide) (.of_inert (.quote name))
  | primaryKey columns =>
    rw [← Option.some.inj hsql]
    exact (SqlAdapter.Quiet.append (by decide) (.of_inert (.quoteAll columns))).append (by decide)
  | foreignKey column key =>
    rw [← Option.some.inj hsql]
    exact SqlAdapter.Quiet.append (by decide) (quiet_foreignKeySql column h)
  | createIndex name column => cases hsql

theorem quiet_indexSql {table : String} (htable : SqlAdapter.Quiet table) {step : Operation} {sql : String}
    (hsql : indexSql? table step = some sql) : SqlAdapter.Quiet sql := by
  cases step with
  | createIndex name column =>
    rw [← Option.some.inj hsql]
    exact (((((SqlAdapter.Quiet.append (by decide) (.of_inert (.quote name))).append (by decide)).append
      htable).append (by decide)).append (.of_inert (.quote column))).append (by decide)
  | _ => cases hsql

theorem quiet_foreignKeyOf {a : Attribute} (h : a.Quiet) : ∀ step ∈ Plan.foreignKeyOf a, step.Quiet := by
  intro step hstep
  obtain ⟨key, hkey, rfl⟩ := Plan.mem_foreignKeyOf.mp hstep
  exact h.onDelete key hkey

end Operation

namespace Plan

/-- A plan all of whose steps are free of placeholders. -/
def Quiet (p : Plan) : Prop := ∀ step ∈ p.operations, step.Quiet

variable {mode : MappingMode} {table : String} {a : Attribute} {p q : Plan}

theorem Quiet.statements (h : p.Quiet) : ∀ sql ∈ p.statements, SqlAdapter.Quiet sql := by
  have htable : SqlAdapter.Quiet (Identifier.quote p.table) := .of_inert (.quote p.table)
  have hdefinitions : SqlAdapter.Quiet (", ".intercalate (p.operations.filterMap Operation.definition?)) := by
    refine .intercalate (by decide) fun part hpart => ?_
    obtain ⟨step, hstep, hdefinition⟩ := List.mem_filterMap.mp hpart
    exact (h step hstep).definition hdefinition
  intro sql hsql
  rw [Plan.statements, List.mem_append] at hsql
  rcases hsql with hmain | hindex
  · split at hmain
    · rw [List.mem_singleton.mp hmain]
      exact (SqlAdapter.Quiet.append (by decide) htable).append (by decide)
    · rw [List.mem_singleton.mp hmain]
      exact (((SqlAdapter.Quiet.append (by decide) htable).append (by decide)).append hdefinitions).append (by decide)
    · obtain ⟨change, hchange, rfl⟩ := List.mem_map.mp hmain
      obtain ⟨step, hstep, hchange⟩ := List.mem_filterMap.mp hchange
      exact ((SqlAdapter.Quiet.append (by decide) htable).append (by decide)).append
        ((h step hstep).alteration hchange)
  · obtain ⟨step, -, hindex⟩ := List.mem_filterMap.mp hindex
    exact Operation.quiet_indexSql htable hindex

theorem quiet_empty (table : String) (kind : PlanKind) : (empty table kind).Quiet := fun _ h => nomatch h

theorem quiet_columnSteps {c : Column} (h : c.Quiet) (table : String) : ∀ step ∈ columnSteps table c, step.Quiet := by
  intro step hstep
  rcases mem_columnSteps.mp hstep with rfl | ⟨-, rfl⟩
  · exact ⟨h.type, h.default, h.check⟩
  · exact trivial

theorem create_quiet {t : Table} (h : create mode t = .ok p) (ht : ∀ a ∈ t.attributes, a.Quiet) : p.Quiet := by
  obtain ⟨-, -, -, columns, hcolumns, rfl⟩ := create_ok_iff.mp h
  have hattributes : ∀ a ∈ t.columns, a.Quiet := fun a ha => ht a (List.mem_of_mem_filter ha)
  intro step hstep
  simp only [whole, List.mem_append, List.mem_flatMap, mem_keySteps] at hstep
  rcases hstep with (⟨c, hc, hstep⟩ | ⟨-, rfl⟩) | ⟨a, ha, hstep⟩
  · exact quiet_columnSteps (Column.quiet_columns hcolumns hattributes c hc) _ step hstep
  · exact trivial
  · exact Operation.quiet_foreignKeyOf (hattributes a ha) step hstep

theorem addAttribute_quiet (h : addAttribute mode table a = .ok p) (ha : a.Quiet) : p.Quiet := by
  obtain ⟨-, -, c, hc, rfl⟩ := addAttribute_ok_iff.mp h
  intro step hstep
  rcases List.mem_append.mp hstep with hstep | hkey
  · exact quiet_columnSteps (Column.quiet_compiled ha hc) _ step hstep
  · exact Operation.quiet_foreignKeyOf ha step hkey

theorem removeAttribute_quiet {name : String} (h : removeAttribute table name = .ok p) : p.Quiet := by
  rw [removeAttribute, Result.bind_ok_iff] at h
  obtain ⟨_, -, h⟩ := h
  obtain ⟨_, -, h⟩ := Result.bind_ok_iff.mp h
  rw [← Result.pure_ok_iff.mp h]
  intro step hstep
  rw [List.mem_singleton.mp hstep]
  exact trivial

theorem drop_quiet (h : drop table = .ok p) : p.Quiet := by
  rw [drop, Result.bind_ok_iff] at h
  obtain ⟨_, -, h⟩ := h
  rw [← Result.pure_ok_iff.mp h]
  exact quiet_empty table .drop

end Plan

end SqlAdapter
