/-
The tables that statements address.

A name is checked and quoted part by part, and the database cuts each part of the path in a
statement on its own (`Identifier.Resolves`). The name is cut as one before that. `parts_truncate_iff`
says when this makes no difference to the parts: a name of two parts must have room for the first, the
dot and what the database keeps of the second. `check_truncate_iff` adds when the parts are still
accepted: all that is plain about a part is so about each front of it, except that a front can spell
the one word that is reserved as a whole. Every statement, of a request or of a plan, writes the name
as it is cut, so `Identifier.cut_parts_iff` holds for all of them alike.
-/
import SqlAdapter.Proofs.Schema.Plans
import SqlAdapter.Proofs.Sql.Names
import SqlAdapter.Proofs.Sql.Truncation
import SqlAdapter.Proofs.Statement.Paths

namespace SqlAdapter

namespace Identifier

open Text (InAnyCase decomposed)

variable {P : List Char → Prop} {cs part front : List Char} {name : String} {names : List String}

/-! ## Parts of a name that is cut -/

theorem parts_truncate_iff (h : Parted ('.' ∉ ·) cs) :
    parts (truncate (String.ofList cs)) = (parts (String.ofList cs)).map truncate ↔ HasRoom (parts (String.ofList cs)) := by
  cases h with
  | one hpart =>
    have hcut := not_mem_takeBytes hpart maxBytes
    rw [parts_one hpart, truncate, String.toList_ofList, parts_one hcut]
    simp [HasRoom, truncate]
  | two hschema htable =>
    rw [parts_two hschema htable]
    exact parts_truncate_two_iff hschema htable

/-- The longest fronts of names are these names, each cut on its own. -/
theorem forall₂_kept_iff {whole kept : List String} : List.Forall₂ Kept whole kept ↔ kept = whole.map truncate := by
  constructor
  · intro h
    exact (Result.forall₂_eq_map_iff.mp (h.imp fun _ _ hkept => (kept_iff.mp hkept).symm)).symm
  · rintro rfl
    exact List.forall₂_map_right_iff.mpr (List.forall₂_same.mpr fun part _ => kept_truncate part)

/-! ## What the database makes of a name -/

/-- The names that the database finds for a quoted name: those of its path, each cut on its own. -/
def Resolves (quoted : String) (names : List String) : Prop :=
  ∃ path, path? quoted = some path ∧ List.Forall₂ Kept path names

theorem resolves_quote_iff : Resolves (quote name) names ↔ names = (parts name).map truncate := by
  simp only [Resolves, path?_quote, Option.some.injEq, exists_eq_left', forall₂_kept_iff]
  rfl

/-- The database cuts nothing more of a name that is cut as one. -/
theorem map_truncate_parts (name : String) : (parts (truncate name)).map truncate = parts (truncate name) := by
  have hkept : ∀ part ∈ parts (truncate name), truncate part = part := fun part hpart =>
    truncate_eq_self_iff.mpr (Nat.le_trans (size_part_le hpart) (kept_truncate name).fits)
  rw [List.map_congr_left hkept, List.map_id']

/-- A name that is cut is found as the whole name is when the parts of both are cut alike. -/
theorem resolves_truncate_iff : (∀ names, Resolves (quote (truncate name)) names ↔ Resolves (quote name) names) ↔
    parts (truncate name) = (parts name).map truncate := by
  simp only [resolves_quote_iff, map_truncate_parts]
  constructor
  · exact fun h => (h _).mp rfl
  · exact fun h names => by rw [h]

/-! ## What is accepted of a name that is cut -/

/-- The word that no part of a name may spell. -/
def Reserved (part : String) : Prop := InAnyCase (decomposed part.toList) "information_schema".toList

/-- What is in front of a part that is accepted is accepted as well, unless it is the reserved word. -/
theorem plain_front_iff (h : Plain (decomposed part)) (hfront : front <+: part) :
    Plain (decomposed front) ↔ front ≠ [] ∧ ¬ InAnyCase (decomposed front) "information_schema".toList := by
  constructor
  · refine fun hplain => ⟨?_, hplain.schema⟩
    rintro rfl
    exact hplain.ne_nil rfl
  · rintro ⟨hne, hschema⟩
    obtain ⟨more, hmore⟩ := Text.decomposed_front hfront
    obtain ⟨c, cs, hcs⟩ := List.exists_cons_of_ne_nil (Text.decomposed_ne_nil hne)
    refine ⟨⟨c, cs, hcs, ?_⟩, ?_, ?_, hschema⟩
    · obtain ⟨first, rest, hpart, hfirst⟩ := h.start
      rw [hpart, hcs] at hmore
      rwa [(List.cons.inj hmore).1]
    · exact fun d hd => h.inner d (hmore ▸ List.mem_append_left more hd)
    · rintro ⟨word, rest, hword, hcase⟩
      exact h.catalog ⟨word, rest ++ more, by rw [← hmore, hword, List.append_assoc], hcase⟩

theorem takeBytes_ne_nil (h : cs ≠ []) : takeBytes maxBytes cs ≠ [] := by
  obtain ⟨c, rest, rfl⟩ := List.exists_cons_of_ne_nil h
  have hroom : c.utf8Size ≤ maxBytes := Nat.le_trans (Char.utf8Size_le_four c) (by decide)
  rw [takeBytes, if_pos hroom]
  exact List.cons_ne_nil _ _

theorem plain_truncate_iff {part : String} (h : Plain (decomposed part.toList)) :
    Plain (decomposed (truncate part).toList) ↔ ¬ Reserved (truncate part) := by
  have hne : part.toList ≠ [] := by
    intro hnil
    rw [hnil] at h
    exact h.ne_nil rfl
  rw [plain_front_iff h (kept_truncate part).front, Reserved, truncate, String.toList_ofList]
  exact and_iff_right (takeBytes_ne_nil hne)

/-- A name is accepted by its parts. -/
theorem check_parts_iff : check name = .ok () ↔
    (parts name).length ≤ 2 ∧ ∀ part ∈ parts name, Plain (decomposed part.toList) := by
  rw [check_ok_iff, parted_iff fun part => Plain.no_dot_of_decomposed, parts]
  have hne := (Text.splitAt_eq_iff.mp (Eq.refl (Text.splitAt '.' name.toList))).ne_nil
  rcases hsplit : Text.splitAt '.' name.toList with - | ⟨schema, - | ⟨table, - | ⟨third, rest⟩⟩⟩
  · exact absurd hsplit hne
  · simp
  · simp
  · simp

/-- Where the parts of a name are cut each on its own, the name that is left is accepted unless one of them is
the reserved word. -/
theorem check_truncate_iff (h : check name = .ok ()) (hparts : parts (truncate name) = (parts name).map truncate) :
    check (truncate name) = .ok () ↔ ∀ part ∈ parts name, ¬ Reserved (truncate part) := by
  obtain ⟨hlength, hplain⟩ := check_parts_iff.mp h
  rw [check_parts_iff, hparts, List.length_map, List.forall_mem_map]
  refine (and_iff_right hlength).trans ?_
  exact forall₂_congr fun part hpart => plain_truncate_iff (hplain part hpart)

end Identifier

/-- A subquery names each of its tables by the quoted path. -/
theorem Compiler.LinkedJoin.source_names {j : LinkedJoin} {table : String} (h : table ∈ j.tables) :
    ∃ lead after, j.source = lead ++ Identifier.quote table ++ after := by
  rw [LinkedJoin.tables] at h
  rw [LinkedJoin.source]
  cases hjunction : j.junction with
  | none =>
    rw [hjunction] at h
    obtain rfl := List.mem_singleton.mp h
    exact ⟨"", "", by simp⟩
  | some junction =>
    rw [hjunction] at h
    rcases List.mem_append.mp h with hlink | hchild
    · obtain rfl := List.mem_singleton.mp hlink
      exact ⟨"", _, by simp only [String.empty_append, String.append_assoc]; rfl⟩
    · obtain rfl := List.mem_singleton.mp hchild
      exact ⟨Identifier.quote junction.table ++ " JOIN ", _, by simp only [String.append_assoc]; rfl⟩

namespace Plan

/-- What a statement of a plan says before it names the table. -/
inductive Lead : String → Prop where
  | create : Lead "CREATE TABLE "
  | alter : Lead "ALTER TABLE "
  | drop : Lead "DROP TABLE IF EXISTS "
  | index (name : String) : Lead ("CREATE INDEX " ++ Identifier.quote name ++ " ON ")

/-- Every statement of a plan names its table by the quoted path. -/
theorem statements_name (p : Plan) : ∀ sql ∈ p.statements,
    ∃ lead after, Lead lead ∧ sql = lead ++ Identifier.quote p.table ++ after := by
  intro sql hsql
  rcases List.mem_append.mp hsql with hmain | hindex
  · cases hkind : p.kind with
    | drop =>
      rw [hkind] at hmain
      exact ⟨_, _, .drop, List.mem_singleton.mp hmain⟩
    | create =>
      rw [hkind] at hmain
      refine ⟨_, " (" ++ ", ".intercalate (p.operations.filterMap Operation.definition?) ++ ")", .create, ?_⟩
      rw [List.mem_singleton.mp hmain]
      simp only [String.append_assoc]
    | alter =>
      rw [hkind] at hmain
      obtain ⟨change, -, rfl⟩ := List.mem_map.mp hmain
      exact ⟨_, " " ++ change, .alter, by simp only [String.append_assoc]⟩
  · obtain ⟨step, -, hstep⟩ := List.mem_filterMap.mp hindex
    cases step with
    | createIndex name column =>
      cases hstep
      exact ⟨_, " (" ++ Identifier.quote column ++ ")", .index name, by simp only [String.append_assoc]⟩
    | addColumn | dropColumn | primaryKey | foreignKey => cases hstep

/-- The plans that are made for a table of a name. -/
inductive OfTable (name : String) : Plan → Prop where
  | create {mode : MappingMode} {attributes : List Attribute} {p : Plan}
      (h : create mode (.make name attributes) = .ok p) : OfTable name p
  | addAttribute {mode : MappingMode} {a : Attribute} {p : Plan} (h : addAttribute mode name a = .ok p) : OfTable name p
  | removeAttribute {column : String} {p : Plan} (h : removeAttribute name column = .ok p) : OfTable name p
  | drop {p : Plan} (h : drop name = .ok p) : OfTable name p

theorem OfTable.table {name : String} {p : Plan} (h : OfTable name p) : p.table = Identifier.truncate name := by
  cases h with
  | create h =>
    obtain ⟨-, -, -, columns, -, rfl⟩ := create_ok_iff.mp h
    exact Identifier.truncate_truncate name
  | addAttribute h =>
    obtain ⟨-, -, c, -, rfl⟩ := addAttribute_ok_iff.mp h
    rfl
  | removeAttribute h =>
    obtain ⟨_, -, h⟩ := Result.bind_ok_iff.mp h
    obtain ⟨_, -, h⟩ := Result.bind_ok_iff.mp h
    cases h
    rfl
  | drop h =>
    obtain ⟨_, -, h⟩ := Result.bind_ok_iff.mp h
    cases h
    rfl

end Plan

namespace Identifier

/-- A name that is accepted is still accepted after it is cut, with its parts each cut on its own, exactly when it
has room and none of the parts is cut to the reserved word. What the database finds for it is what it finds for the
whole name exactly when it has room. Every statement of a request or of a plan for the table has the name as it is
cut, and so have the subqueries that read it. -/
theorem cut_parts_iff {name : String} (h : check name = .ok ()) :
    (check (truncate name) = .ok () ∧ List.Forall₂ Kept (parts name) (parts (truncate name)) ↔
      HasRoom (parts name) ∧ ∀ part ∈ parts name, ¬ Reserved (truncate part)) ∧
    ((∀ names, Resolves (quote (truncate name)) names ↔ Resolves (quote name) names) ↔ HasRoom (parts name)) ∧
    (∀ schema r q, (Compiler.ofSchema schema).compile name r = .ok q →
      ∃ s after, (Compiler.ofSchema schema).statement name r = .ok s ∧
        q.sql = s.lead ++ quote (truncate name) ++ after) ∧
    (∀ schema j l, (Compiler.ofSchema schema).lateral j = .ok l → truncate name ∈ j.tables →
      ∃ lead after, l.source = lead ++ quote (truncate name) ++ after) ∧
    ∀ p, Plan.OfTable name p → ∀ sql ∈ p.statements,
      ∃ lead after, Plan.Lead lead ∧ sql = lead ++ quote (truncate name) ++ after := by
  have hroom : parts (truncate name) = (parts name).map truncate ↔ HasRoom (parts name) := by
    have hparted := (check_ok_iff.mp h).mono fun part => Plain.no_dot_of_decomposed
    have hiff := parts_truncate_iff hparted
    rwa [String.ofList_toList] at hiff
  refine ⟨?_, resolves_truncate_iff.trans hroom, ?_, ?_, ?_⟩
  · rw [forall₂_kept_iff, ← hroom, and_comm]
    exact and_congr_right fun hparts => check_truncate_iff h hparts
  · intro schema r q hq
    obtain ⟨s, hs, rfl, -⟩ := Compiler.compile_ok schema hq
    obtain ⟨after, hafter⟩ := s.sql_names
    exact ⟨s, after, hs, (Compiler.statement_columns hs).1 ▸ hafter⟩
  · intro schema j l hl hmem
    exact (Compiler.lateral_ok hl).source ▸ Compiler.LinkedJoin.source_names hmem
  · intro p hp sql hsql
    exact hp.table ▸ p.statements_name sql hsql

/-- A table whose name fits, behind a schema with which it does not. -/
def ledger : String := String.ofList ("public".toList ++ '.' :: List.replicate 60 'x')

/-- What is left of it. -/
def cutLedger : String := String.ofList ("public".toList ++ '.' :: List.replicate 56 'x')

theorem cut_parts_iff_ledger : check ledger = .ok () ∧ truncate ledger = cutLedger ∧ check cutLedger = .ok () ∧
    ¬ List.Forall₂ Kept (parts ledger) (parts cutLedger) ∧
    (¬ ∀ names, Resolves (quote cutLedger) names ↔ Resolves (quote ledger) names) ∧
    (∃ q lead after, (Compiler.ofSchema .empty).compile ledger (.select .empty) = .ok q ∧
      q.sql = lead ++ quote cutLedger ++ after) ∧
    ∀ sql ∈ (Plan.empty ledger .drop).statements, ∃ lead after, Plan.Lead lead ∧
      sql = lead ++ quote cutLedger ++ after := by
  have hschema : Plain "public".toList := by
    decide +kernel
  have htable : Plain (List.replicate 60 'x') ∧ Plain (List.replicate 56 'x') := by
    decide +kernel
  have hcheck : check ledger = .ok () := check_of_plain (.two hschema htable.1)
  have hcutCheck : check cutLedger = .ok () := check_of_plain (.two hschema htable.2)
  have hcut : truncate ledger = cutLedger := by
    decide +kernel
  have hparts : parts ledger = [String.ofList "public".toList, String.ofList (List.replicate 60 'x')] :=
    parts_two hschema.no_dot htable.1.no_dot
  have hfull : ¬ HasRoom [String.ofList "public".toList, String.ofList (List.replicate 60 'x')] := by
    decide +kernel
  have hroom : ¬ HasRoom (parts ledger) := hparts ▸ hfull
  have hstatement : ((Compiler.ofSchema .empty).statement ledger (.select .empty)).toOption.isSome = true := by
    simp only [Compiler.statement, Compiler.selectStatement, hcheck]
    rfl
  have hlen : (((Request.select .empty).clauses .empty ledger).flatMap Template.params).length < 2 ^ 64 := by
    show 2 < 2 ^ 64
    decide
  obtain ⟨haccepted, hfound, hcompiled, -, hplanned⟩ := cut_parts_iff hcheck
  rw [hcut] at haccepted hfound hcompiled hplanned
  refine ⟨hcheck, hcut, hcutCheck, fun hkept => hroom (haccepted.mp ⟨hcutCheck, hkept⟩).1, mt hfound.mp hroom, ?_, ?_⟩
  · obtain ⟨q, hq⟩ := Compiler.compile_of_isSome .empty hstatement hlen
    obtain ⟨s, after, -, hsql⟩ := hcompiled .empty (.select .empty) q hq
    exact ⟨q, s.lead, after, hq, hsql⟩
  · refine hplanned _ (.drop ?_)
    rw [Plan.drop, hcheck]
    rfl

end Identifier

end SqlAdapter
