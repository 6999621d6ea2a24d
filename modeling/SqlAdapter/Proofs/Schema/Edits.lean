/-
A schema after any insertions and removals of tables.

The name of a table is cut when the table is made, and a name is cut the same way
when a table is removed or looked up by it. A name therefore finds the table that
was inserted last under a name that is cut to the same text, unless such a name has
been removed since (`Schema.Standing`). The step is `Schema.get?_apply`: one edit
decides about the names that are cut as its own is, and about no other. Every table
is kept under its own name (`Schema.Keyed`).
-/
import SqlAdapter.Proofs.Schema.Validity
import SqlAdapter.Proofs.Sql.Boundaries
import Mathlib.Data.List.Induction

namespace SqlAdapter

open Identifier (truncate)

namespace Schema

/-! ## One edit -/

/-- An insertion of a table that is made for it, or a removal. -/
inductive Edit where
  | insert (name : String) (attributes : List Attribute)
  | remove (name : String)

namespace Edit

def name : Edit → String
  | .insert name _ | .remove name => name

/-- The table that the edit leaves under its name. -/
def table? : Edit → Option Table
  | .insert name attributes => some (.make name attributes)
  | .remove _ => none

/-- The schema after the edit. -/
def apply (s : Schema) : Edit → Schema
  | .insert name attributes => s.insert (.make name attributes)
  | .remove name => s.erase name

end Edit

variable {s : Schema} {edits : List Edit} {e : Edit} {name : String} {t : Table}

/-- An edit decides about the names that are cut as its own is. -/
theorem get?_apply (s : Schema) (e : Edit) (name : String) :
    (e.apply s).get? name = if truncate name = truncate e.name then e.table? else s.get? name := by
  cases e with
  | insert given attributes => exact s.get?_insert (.make given attributes) name
  | remove given => exact s.get?_erase given name

/-- Every table is kept under its own name, which is cut, and under which there is no other. -/
structure Keyed (s : Schema) : Prop where
  nodup : (s.tables.map (·.name)).Nodup
  cut : ∀ t ∈ s.tables, truncate t.name = t.name

theorem Keyed.insert (h : s.Keyed) (ht : truncate t.name = t.name) : (s.insert t).Keyed where
  nodup := by
    rw [Schema.insert]
    split
    · have hnames : (s.tables.map fun u => if u.name == t.name then t else u).map (·.name) = s.tables.map (·.name) := by
        rw [List.map_map]
        refine List.map_congr_left fun u _ => ?_
        by_cases hu : u.name = t.name <;> simp [hu]
      rw [hnames]
      exact h.nodup
    · next hnew =>
      have hfresh : t.name ∉ s.tables.map (·.name) := by
        intro hmem
        obtain ⟨u, hu, hname⟩ := List.mem_map.mp hmem
        exact hnew (List.any_eq_true.mpr ⟨u, hu, beq_iff_eq.mpr hname⟩)
      rw [List.map_append, List.map_singleton, ← List.concat_eq_append]
      exact h.nodup.concat hfresh
  cut u hu := by
    rcases mem_insert hu with rfl | ⟨hu, -⟩
    · exact ht
    · exact h.cut u hu

theorem Keyed.erase (h : s.Keyed) (name : String) : (s.erase name).Keyed where
  nodup := h.nodup.sublist (List.filter_sublist.map _)
  cut t ht := h.cut t (List.mem_of_mem_filter ht)

theorem Keyed.apply (h : s.Keyed) (e : Edit) : (e.apply s).Keyed := by
  cases e with
  | insert name attributes => exact h.insert (Identifier.truncate_truncate name)
  | remove name => exact h.erase name

theorem Keyed.get?_iff (h : s.Keyed) : s.get? name = some t ↔ t ∈ s.tables ∧ t.name = truncate name :=
  find?_label_iff h.nodup

/-! ## Any edits -/

/-- The schema after edits, one after another. -/
def edited (edits : List Edit) : Schema := edits.foldl Edit.apply empty

theorem edited_append (edits : List Edit) (e : Edit) : edited (edits ++ [e]) = e.apply (edited edits) := by
  rw [edited, List.foldl_append]
  rfl

/-- The table was inserted under a name that is cut as this one is, and no later edit was of such a name. -/
def Standing (edits : List Edit) (name : String) (t : Table) : Prop :=
  ∃ before given attributes after, edits = before ++ .insert given attributes :: after ∧ t = .make given attributes ∧
    truncate given = truncate name ∧ ∀ e ∈ after, truncate e.name ≠ truncate name

theorem not_standing_nil : ¬ Standing [] name t := by
  rintro ⟨before, given, attributes, after, hedits, -⟩
  cases before <;> cases hedits

/-- The last edit decides if its name is cut as this one is, and else those before it. -/
theorem standing_append_iff : Standing (edits ++ [e]) name t ↔
    if truncate name = truncate e.name then e.table? = some t else Standing edits name t := by
  constructor
  · rintro ⟨before, given, attributes, after, hedits, rfl, hname, hafter⟩
    rcases List.eq_nil_or_concat after with rfl | ⟨after, last, rfl⟩
    · obtain ⟨-, ⟨⟩⟩ := List.append_inj' hedits rfl
      simp [Edit.name, Edit.table?, hname]
    · rw [List.concat_eq_append, ← List.cons_append, ← List.append_assoc] at hedits
      obtain ⟨rfl, ⟨⟩⟩ := List.append_inj' hedits rfl
      rw [List.concat_eq_append, List.forall_mem_append] at hafter
      rw [if_neg (Ne.symm (hafter.2 e (List.mem_singleton_self e)))]
      exact ⟨before, given, attributes, after, rfl, rfl, hname, hafter.1⟩
  · split
    · next hname =>
      intro htable
      cases e with
      | insert given attributes =>
        exact ⟨edits, given, attributes, [], rfl, (Option.some.inj htable).symm, hname.symm, by simp⟩
      | remove given => cases htable
    · next hname =>
      rintro ⟨before, given, attributes, after, rfl, rfl, hgiven, hafter⟩
      refine ⟨before, given, attributes, after ++ [e], by simp, rfl, hgiven, ?_⟩
      exact List.forall_mem_append.mpr ⟨hafter, by simpa using Ne.symm hname⟩

theorem get?_edited_iff : (edited edits).get? name = some t ↔ Standing edits name t := by
  induction edits using List.reverseRecOn with
  | nil => exact iff_of_false (fun h => nomatch h) not_standing_nil
  | append_singleton edits e ih =>
    rw [edited_append, get?_apply, standing_append_iff]
    split
    · exact Iff.rfl
    · exact ih

theorem keyed_edited (edits : List Edit) : (edited edits).Keyed := by
  induction edits using List.reverseRecOn with
  | nil => exact ⟨List.nodup_nil, fun _ ht => nomatch ht⟩
  | append_singleton edits e ih =>
    rw [edited_append]
    exact ih.apply e

/-- Names are cut, by walking back over three bytes at most, to their longest front that fits, and cutting once more
changes nothing. After any insertions and removals a name finds the table that was inserted last under a name cut to the
same text and not removed since, and every table is found under its own name, and under the names that are cut to it. -/
theorem edited_by_cut_names (edits : List Edit) :
    (∀ name : String, Identifier.cutBack? name = some (truncate name) ∧
      (¬ name.utf8ByteSize ≤ Identifier.maxBytes → ∃ stop,
        Identifier.boundaryBefore name Identifier.maxBytes = some stop ∧ Identifier.maxBytes < stop + 4) ∧
      (∀ kept, Identifier.Kept name kept ↔ kept = truncate name) ∧ truncate (truncate name) = truncate name) ∧
    (∀ name t, (edited edits).get? name = some t ↔ Standing edits name t) ∧
    ∀ t ∈ (edited edits).tables, (edited edits).get? t.name = some t ∧
      ∀ name, (edited edits).get? name = some t ↔ truncate name = t.name := by
  refine ⟨fun name => ⟨Identifier.cutBack?_eq name, fun hlong => ⟨_, Identifier.boundaryBefore_truncate hlong⟩,
    fun _ => Identifier.kept_iff, Identifier.truncate_truncate name⟩, fun _ _ => get?_edited_iff, fun t ht => ?_⟩
  have hkeyed := keyed_edited edits
  refine ⟨hkeyed.get?_iff.mpr ⟨ht, (hkeyed.cut t ht).symm⟩, fun name => ?_⟩
  rw [hkeyed.get?_iff]
  exact ⟨fun h => h.2.symm, fun h => ⟨ht, h.symm⟩⟩

/-- A name of which the database keeps 62 bytes: the limit is within its last character but one. -/
def overlong (last : Char) : String := String.ofList (List.replicate 62 'x' ++ ['é', last])

/-- Two tables whose names are cut to the same text. The second has replaced the first, also under names that neither
was given, and the users are gone. -/
theorem edited_by_cut_names_overlong :
    let edits := [.insert (overlong 'a') [], .insert "users" [], .insert (overlong 'b') [.plain "id" .integer],
      .remove "users"]
    let replaced := Table.make (overlong 'b') [.plain "id" .integer]
    (∃ stop, Identifier.boundaryBefore (overlong 'a') Identifier.maxBytes = some stop ∧
      Identifier.maxBytes < stop + 4) ∧
    (edited edits).get? (overlong 'c') = some replaced ∧ replaced ∈ (edited edits).tables ∧
    (edited edits).get? replaced.name = some replaced ∧ (edited edits).get? "users" = none := by
  intro edits replaced
  obtain ⟨hcut, hfound, hown⟩ := edited_by_cut_names edits
  have hsame : ∀ c, truncate (overlong c) = String.ofList (List.replicate 62 'x') := by
    intro c
    simp only [truncate, overlong, String.toList_ofList]
    rfl
  have hstanding : Standing edits (overlong 'c') replaced := by
    refine ⟨[.insert (overlong 'a') [], .insert "users" []], overlong 'b', _, [.remove "users"], rfl, rfl, ?_, ?_⟩
    · rw [hsame, hsame]
    · rw [hsame]
      decide
  have hget := (hfound (overlong 'c') replaced).mpr hstanding
  have hmem := get?_mem hget
  refine ⟨(hcut (overlong 'a')).2.1 (by decide +kernel), hget, hmem, (hown replaced hmem).1, ?_⟩
  refine Option.eq_none_iff_forall_ne_some.mpr fun t ht => ?_
  have hremoved := (@standing_append_iff edits.dropLast (.remove "users") "users" t).mp ((hfound _ _).mp ht)
  simp [Edit.name, Edit.table?] at hremoved

end Schema

end SqlAdapter
