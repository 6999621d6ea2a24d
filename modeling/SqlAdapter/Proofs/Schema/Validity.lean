/-
What a valid schema is, and how tables are found in a changed one.

`Schema.validate_iff` says of each attribute what `Schema.validate` checks:
`Attribute.Sound`. Names are looked up as the database cuts them, which cutting
them once more does not change (`truncate_truncate`), so a table that replaces
another is found under all the names of the old one (`get?_insert`). The primary
key of a table is one of its attributes if any is declared one, else the default.
-/
import SqlAdapter.Proofs.Result
import SqlAdapter.Proofs.Sql.Truncation
import SqlAdapter.Schema.Table
import Mathlib.Data.List.Nodup

namespace SqlAdapter

/-- Where no two items have one label, an item is found by its own. -/
theorem find?_label_iff {α : Type} {label : α → String} {items : List α} (h : (items.map label).Nodup) {item : α}
    {text : String} : items.find? (label · == text) = some item ↔ item ∈ items ∧ label item = text := by
  constructor
  · intro hfind
    have hlabel := List.find?_some hfind
    exact ⟨List.mem_of_find?_eq_some hfind, eq_of_beq hlabel⟩
  · rintro ⟨hitem, rfl⟩
    cases hfind : items.find? (label · == label item) with
    | none => exact absurd (beq_self_eq_true _) (List.find?_eq_none.mp hfind item hitem)
    | some other =>
      have hlabel := List.find?_some hfind
      rw [List.inj_on_of_nodup_map h (List.mem_of_find?_eq_some hfind) hitem (eq_of_beq hlabel)]

namespace Table

theorem mem_without {t : Table} {name : String} {a : Attribute} :
    a ∈ (t.without name).attributes ↔ a ∈ t.attributes ∧ a.name ≠ name := by
  simp [without, make]

theorem has_iff {t : Table} {name : String} : t.has name = true ↔ ∃ a ∈ t.attributes, a.name = name := by
  simp [has, find?]

theorem has_without {t : Table} {name other : String} :
    (t.without name).has other = true ↔ other ≠ name ∧ t.has other = true := by
  simp only [has_iff, mem_without]
  refine ⟨fun ⟨a, ⟨ha, hne⟩, h⟩ => ⟨h ▸ hne, a, ha, h⟩, fun ⟨hne, a, ha, h⟩ => ⟨a, ⟨ha, h ▸ hne⟩, h⟩⟩

theorem primaryKey_mem {t : Table} (h : t.primaryKeyColumns ≠ []) : t.primaryKey ∈ t.primaryKeyColumns := by
  rw [primaryKey, ← List.head?_filter]
  rw [primaryKeyColumns] at h ⊢
  cases hkeys : t.attributes.filter (·.primaryKey) with
  | nil =>
    rw [hkeys] at h
    exact absurd rfl h
  | cons a as => exact .head _

theorem has_primaryKey {t : Table} (h : t.primaryKeyColumns ≠ []) : t.has t.primaryKey = true := by
  obtain ⟨a, ha, hname⟩ := List.mem_map.mp (primaryKey_mem h)
  exact has_iff.mpr ⟨a, (List.mem_filter.mp ha).1, hname⟩

theorem primaryKey_default {t : Table} (h : t.primaryKeyColumns = []) : t.primaryKey = defaultPrimaryKey := by
  have hnone : t.attributes.filter (·.primaryKey) = [] := List.map_eq_nil_iff.mp h
  rw [primaryKey, ← List.head?_filter, hnone]
  rfl

end Table

namespace Schema

theorem get?_name {s : Schema} {name : String} {t : Table} (h : s.get? name = some t) :
    t.name = Identifier.truncate name := by
  have := List.find?_some h
  simpa using this

theorem get?_mem {s : Schema} {name : String} {t : Table} (h : s.get? name = some t) : t ∈ s.tables :=
  List.mem_of_find?_eq_some h

theorem get?_erase (s : Schema) (name other : String) : (s.erase name).get? other =
    if Identifier.truncate other = Identifier.truncate name then none else s.get? other := by
  obtain ⟨tables⟩ := s
  simp only [erase, get?]
  induction tables with
  | nil => simp
  | cons u us ih =>
    rw [List.filter_cons, List.find?_cons]
    by_cases hu : u.name = Identifier.truncate name
    · rw [if_neg (by simp [hu]), ih]
      by_cases ho : Identifier.truncate other = Identifier.truncate name
      · rw [if_pos ho, if_pos ho]
      · have hne : (u.name == Identifier.truncate other) = false := by
          rw [beq_eq_false_iff_ne, hu]
          exact fun h => ho h.symm
        rw [if_neg ho, if_neg ho, hne]
    · rw [if_pos (by simp [hu]), List.find?_cons, ih]
      by_cases hother : u.name = Identifier.truncate other
      · have ho : ¬ Identifier.truncate other = Identifier.truncate name := hother ▸ hu
        have heq : (u.name == Identifier.truncate other) = true := beq_iff_eq.mpr hother
        simp only [heq, if_neg ho]
      · have hne : (u.name == Identifier.truncate other) = false := beq_eq_false_iff_ne.mpr hother
        rw [hne]

/-- Where a table replaces those of its name, it is found instead of them. -/
theorem find?_replaced (tables : List Table) (t : Table) (key : String) :
    (tables.map fun u => if u.name == t.name then t else u).find? (·.name == key) =
      if key = t.name then (if tables.any (·.name == t.name) then some t else none)
      else tables.find? (·.name == key) := by
  induction tables with
  | nil => simp
  | cons u us ih =>
    rw [List.map_cons, List.find?_cons, List.any_cons, List.find?_cons, ih]
    by_cases hu : u.name = t.name
    · by_cases hkey : key = t.name
      · simp [hu, hkey]
      · have hne : (t.name == key) = false := beq_eq_false_iff_ne.mpr fun h => hkey h.symm
        simp [hu, hkey, hne]
    · have hne : (u.name == t.name) = false := beq_eq_false_iff_ne.mpr hu
      by_cases hkey : key = t.name
      · subst hkey
        simp [hne]
      · simp [hne, hkey]

theorem get?_insert (s : Schema) (t : Table) (name : String) :
    (s.insert t).get? name = if Identifier.truncate name = t.name then some t else s.get? name := by
  rw [insert]
  split
  · next hany =>
    simp only [get?, find?_replaced, hany, if_true]
  · next hany =>
    simp only [get?, List.find?_append]
    by_cases hname : Identifier.truncate name = t.name
    · have hnone : s.tables.find? (·.name == t.name) = none := by
        refine List.find?_eq_none.mpr fun u hu hut => hany ?_
        exact List.any_eq_true.mpr ⟨u, hu, hut⟩
      simp [hname, hnone]
    · have hne : t.name ≠ Identifier.truncate name := fun h => hname h.symm
      simp [hname, hne]

theorem get?_congr {s : Schema} {name other : String} (h : Identifier.truncate name = Identifier.truncate other) :
    s.get? name = s.get? other := by
  rw [get?, get?, h]

theorem get?_erase_eq_some {s : Schema} {name other : String} {t : Table} :
    (s.erase name).get? other = some t ↔
      Identifier.truncate other ≠ Identifier.truncate name ∧ s.get? other = some t := by
  rw [get?_erase]
  by_cases h : Identifier.truncate other = Identifier.truncate name
  · simp [h]
  · simp [h]

/-- After a table has lost an attribute, the names of the table find what is left of it. -/
theorem get?_without {s : Schema} {table : String} {t : Table} (ht : s.get? table = some t) (name other : String) :
    (s.insert (t.without name)).get? other =
      if Identifier.truncate other = Identifier.truncate table then some (t.without name) else s.get? other := by
  have hname : (t.without name).name = Identifier.truncate table := by
    show Identifier.truncate t.name = _
    rw [get?_name ht, Identifier.truncate_truncate]
  rw [get?_insert, hname]

theorem mem_insert {s : Schema} {t u : Table} (h : u ∈ (s.insert t).tables) :
    u = t ∨ u ∈ s.tables ∧ u.name ≠ t.name := by
  rw [insert] at h
  split at h
  · obtain ⟨v, hv, rfl⟩ := List.mem_map.mp h
    by_cases hname : v.name = t.name
    · exact .inl (by simp [hname])
    · exact .inr (by simp [hname, hv])
  · next hany =>
    rcases List.mem_append.mp h with h | h
    · refine .inr ⟨h, fun hname => hany ?_⟩
      exact List.any_eq_true.mpr ⟨u, h, beq_iff_eq.mpr hname⟩
    · exact .inl (List.mem_singleton.mp h)

theorem mem_erase {s : Schema} {name : String} {u : Table} (h : u ∈ (s.erase name).tables) : u ∈ s.tables :=
  (List.mem_filter.mp h).1

end Schema

/-! ## Valid schemas -/

/-- What a schema asks of an attribute: it is no virtual primary key, and its association leads to a
table that the schema knows and through an attribute that this table has. -/
structure Attribute.Sound (s : Schema) (a : Attribute) : Prop where
  key : (a.primaryKey && a.isVirtual) = false
  target : ∀ association, a.association = some association → ∃ t, s.get? association.target = some t
  via : ∀ target name, a.association = some (.collection target (some name)) →
    ∀ t, s.get? target = some t → t.has name = true

namespace Schema

theorem checkAttribute_iff {s : Schema} {t : Table} {a : Attribute} :
    s.checkAttribute t a = .ok () ↔ a.Sound s := by
  rw [checkAttribute]
  cases hkey : a.primaryKey && a.isVirtual with
  | true =>
    refine ⟨fun h => ?_, fun h => ?_⟩
    · cases h
    · exact absurd h.key (by simp [hkey])
  | false =>
    simp only [Bool.false_eq_true, if_false]
    cases hassociation : a.association with
    | none => exact ⟨fun _ => ⟨hkey, by simp [hassociation], by simp [hassociation]⟩, fun _ => rfl⟩
    | some association =>
      dsimp only
      cases htarget : s.get? association.target with
      | none =>
        refine ⟨fun h => ?_, fun h => ?_⟩
        · cases h
        · obtain ⟨u, hu⟩ := h.target association hassociation
          rw [htarget] at hu
          cases hu
      | some u =>
        have hfound : ∀ other, a.association = some other → ∃ v, s.get? other.target = some v := by
          intro other hother
          rw [hassociation] at hother
          cases hother
          exact ⟨u, htarget⟩
        cases association with
        | model target =>
          exact ⟨fun _ => ⟨hkey, hfound, by simp [hassociation]⟩, fun _ => rfl⟩
        | collection target via =>
          cases via with
          | none => exact ⟨fun _ => ⟨hkey, hfound, by simp [hassociation]⟩, fun _ => rfl⟩
          | some name =>
            have htarget : s.get? target = some u := htarget
            by_cases hvia : u.has name = true
            · have hthrough : ∀ other via, a.association = some (.collection other (some via)) →
                  ∀ v, s.get? other = some v → v.has via = true := by
                intro other via hother v hv
                rw [hassociation] at hother
                cases hother
                rw [htarget] at hv
                cases hv
                exact hvia
              refine ⟨fun _ => ⟨hkey, hfound, hthrough⟩, fun _ => ?_⟩
              simp only [hvia, if_true]
            · refine ⟨fun h => ?_, fun h => ?_⟩
              · simp [hvia] at h
              · exact absurd (h.via target name hassociation u htarget) hvia

/-- An attribute of one of the tables. -/
def Declares (s : Schema) (a : Attribute) : Prop := ∃ t ∈ s.tables, a ∈ t.attributes

theorem validate_iff {s : Schema} : s.validate = .ok () ↔ ∀ a, s.Declares a → a.Sound s := by
  simp only [validate, Result.forM_ok_iff, checkAttribute_iff]
  exact ⟨fun h a ⟨t, ht, ha⟩ => h t ht a ha, fun h t ht a ha => h a ⟨t, ht, ha⟩⟩

theorem declares_of_erase {s : Schema} {table : String} {a : Attribute} (h : (s.erase table).Declares a) :
    s.Declares a := by
  obtain ⟨t, ht, ha⟩ := h
  exact ⟨t, mem_erase ht, ha⟩

theorem declares_of_without {s : Schema} {table name : String} {t : Table} {a : Attribute}
    (ht : s.get? table = some t) (h : (s.insert (t.without name)).Declares a) : s.Declares a := by
  obtain ⟨u, hu, ha⟩ := h
  rcases mem_insert hu with rfl | ⟨hu, -⟩
  · exact ⟨t, get?_mem ht, (Table.mem_without.mp ha).1⟩
  · exact ⟨u, hu, ha⟩

end Schema

/-! ## What the rest loses with a table or an attribute -/

namespace Attribute

variable {s : Schema} {a : Attribute}

/-- The association leads to the table of a name. -/
def LeadsTo (a : Attribute) (table : String) : Prop :=
  ∃ association, a.association = some association ∧
    Identifier.truncate association.target = Identifier.truncate table

/-- The association leads to the table of a name and through an attribute there. -/
def LeadsThrough (a : Attribute) (table name : String) : Prop :=
  ∃ target, a.association = some (.collection target (some name)) ∧
    Identifier.truncate target = Identifier.truncate table

theorem sound_erase_iff {table : String} : a.Sound (s.erase table) ↔ a.Sound s ∧ ¬ a.LeadsTo table := by
  constructor
  · intro h
    have hfound : ∀ association, a.association = some association →
        Identifier.truncate association.target ≠ Identifier.truncate table ∧
          ∃ t, s.get? association.target = some t := by
      intro association hassociation
      obtain ⟨t, ht⟩ := h.target association hassociation
      obtain ⟨hne, ht⟩ := Schema.get?_erase_eq_some.mp ht
      exact ⟨hne, t, ht⟩
    refine ⟨⟨h.key, fun association ha => (hfound association ha).2, ?_⟩, ?_⟩
    · intro target name ha t ht
      exact h.via target name ha t (Schema.get?_erase_eq_some.mpr ⟨(hfound _ ha).1, ht⟩)
    · rintro ⟨association, ha, heq⟩
      exact (hfound association ha).1 heq
  · rintro ⟨h, hleads⟩
    refine ⟨h.key, ?_, ?_⟩
    · intro association ha
      obtain ⟨t, ht⟩ := h.target association ha
      exact ⟨t, Schema.get?_erase_eq_some.mpr ⟨fun heq => hleads ⟨association, ha, heq⟩, ht⟩⟩
    · intro target name ha t ht
      exact h.via target name ha t (Schema.get?_erase_eq_some.mp ht).2

theorem sound_without_iff {table name : String} {t : Table} (ht : s.get? table = some t) :
    a.Sound (s.insert (t.without name)) ↔ a.Sound s ∧ ¬ a.LeadsThrough table name := by
  have hget := Schema.get?_without ht name
  constructor
  · intro h
    refine ⟨⟨h.key, ?_, ?_⟩, ?_⟩
    · intro association ha
      by_cases heq : Identifier.truncate association.target = Identifier.truncate table
      · exact ⟨t, (Schema.get?_congr heq).trans ht⟩
      · obtain ⟨u, hu⟩ := h.target association ha
        rw [hget, if_neg heq] at hu
        exact ⟨u, hu⟩
    · intro target via ha u hu
      by_cases heq : Identifier.truncate target = Identifier.truncate table
      · have htu : t = u := Option.some.inj (ht.symm.trans ((Schema.get?_congr heq).symm.trans hu))
        have hhas := h.via target via ha (t.without name) (by rw [hget, if_pos heq])
        exact htu ▸ (Table.has_without.mp hhas).2
      · exact h.via target via ha u (by rw [hget, if_neg heq, hu])
    · rintro ⟨target, ha, heq⟩
      have hhas := h.via target name ha (t.without name) (by rw [hget, if_pos heq])
      exact (Table.has_without.mp hhas).1 rfl
  · rintro ⟨h, hleads⟩
    refine ⟨h.key, ?_, ?_⟩
    · intro association ha
      by_cases heq : Identifier.truncate association.target = Identifier.truncate table
      · exact ⟨t.without name, by rw [hget, if_pos heq]⟩
      · obtain ⟨u, hu⟩ := h.target association ha
        exact ⟨u, by rw [hget, if_neg heq, hu]⟩
    · intro target via ha u hu
      by_cases heq : Identifier.truncate target = Identifier.truncate table
      · rw [hget, if_pos heq] at hu
        cases hu
        have hhas := h.via target via ha t ((Schema.get?_congr heq).trans ht)
        refine Table.has_without.mpr ⟨?_, hhas⟩
        rintro rfl
        exact hleads ⟨target, ha, heq⟩
      · rw [hget, if_neg heq] at hu
        exact h.via target via ha u hu

end Attribute

end SqlAdapter
