/-
The names of indexes.

The index on a column is named after its table and its column, with an underscore
between them and `_index` behind, and the name is cut as all names are. The database
keeps tables and indexes under one roof, so these names have to differ from each
other and from those of the tables. They do as long as no underscore within a name
can be taken for the one between two names and nothing is cut
(`Indexed.name_eq_iff`); a table whose name fills the room that the database gives to
names leaves none for anything else (`Indexed.name_own_iff`).
-/
import SqlAdapter.Proofs.Schema.Catalog
import SqlAdapter.Proofs.Sql.Names
import Mathlib.Data.List.Nodup

namespace SqlAdapter

/-! ## Indexed columns -/

/-- Two names around a separator, and two others, make one text when they are the same or when one of the separators
stands within a name. -/
theorem separated_eq_iff {α : Type} {c : α} {xs ys xs' ys' : List α} : xs ++ c :: ys = xs' ++ c :: ys' ↔
    (xs = xs' ∧ ys = ys') ∨ (∃ middle, xs' = xs ++ c :: middle ∧ ys = middle ++ c :: ys') ∨
      ∃ middle, xs = xs' ++ c :: middle ∧ ys' = middle ++ c :: ys := by
  constructor
  · intro h
    rcases List.append_eq_append_iff.mp h with ⟨between, hxs, hys⟩ | ⟨between, hxs, hys⟩
    · cases between with
      | nil => exact .inl ⟨by simpa using hxs.symm, by simpa using hys⟩
      | cons d middle =>
        obtain ⟨rfl, hrest⟩ := List.cons.inj hys
        exact .inr (.inl ⟨middle, hxs, hrest⟩)
    · cases between with
      | nil => exact .inl ⟨by simpa using hxs, by simpa using hys.symm⟩
      | cons d middle =>
        obtain ⟨rfl, hrest⟩ := List.cons.inj hys
        exact .inr (.inr ⟨middle, hxs, hrest⟩)
  · rintro (⟨rfl, rfl⟩ | ⟨middle, rfl, rfl⟩ | ⟨middle, rfl, rfl⟩)
    · rfl
    · simp
    · simp

/-- A column with an index: the names of its table and of itself. -/
@[ext]
structure Indexed where
  table : String
  column : String
  deriving DecidableEq

namespace Indexed

variable {i j : Indexed}

/-- The name of the index before it is cut. -/
def full (i : Indexed) : String := i.table ++ "_" ++ i.column ++ "_index"

/-- The name of the index. -/
def name (i : Indexed) : String := Plan.indexName i.table i.column

/-- The database keeps the whole name. -/
def Fits (i : Indexed) : Prop := i.full.utf8ByteSize ≤ Identifier.maxBytes

/-- The table of the one is named after the table of the other and the start of its column. -/
def Continues (i j : Indexed) : Prop :=
  ∃ middle, j.table = i.table ++ "_" ++ middle ∧ i.column = middle ++ "_" ++ j.column

/-- Two columns get one index name: an underscore within a name is taken for the one between two names, or what tells
the names apart is cut. -/
def Meets (i j : Indexed) : Prop :=
  i.Continues j ∨ j.Continues i ∨
    ¬ (i.Fits ∧ j.Fits) ∧ Identifier.truncate i.full = Identifier.truncate j.full

/-- The index gets the name of a table: whole, or as far as it is kept. -/
def Takes (i : Indexed) (table : String) : Prop :=
  i.full = table ∨ ¬ i.Fits ∧ Identifier.truncate i.full = table

theorem name_of_fits (h : i.Fits) : i.name = i.full := Identifier.truncate_eq_self_iff.mpr h

theorem continues_iff : i.Continues j ↔ ∃ middle, j.table.toList = i.table.toList ++ '_' :: middle ∧
    i.column.toList = middle ++ '_' :: j.column.toList := by
  constructor
  · rintro ⟨middle, htable, hcolumn⟩
    exact ⟨middle.toList, by simp [htable], by simp [hcolumn]⟩
  · rintro ⟨middle, htable, hcolumn⟩
    exact ⟨String.ofList middle, String.toList_inj.mp (by simp [htable]), String.toList_inj.mp (by simp [hcolumn])⟩

theorem full_eq_iff : i.full = j.full ↔ i = j ∨ i.Continues j ∨ j.Continues i := by
  have hjoined (i : Indexed) :
      i.full.toList = (i.table.toList ++ '_' :: i.column.toList) ++ "_index".toList := by
    simp [full]
  have hlists : i.full = j.full ↔
      i.table.toList ++ '_' :: i.column.toList = j.table.toList ++ '_' :: j.column.toList := by
    rw [← String.toList_inj, hjoined, hjoined, List.append_left_inj]
  have hsame : i = j ↔ i.table.toList = j.table.toList ∧ i.column.toList = j.column.toList := by
    rw [String.toList_inj, String.toList_inj]
    exact Indexed.ext_iff
  rw [hlists, separated_eq_iff, hsame, continues_iff, continues_iff]

/-- When two columns get one index name. -/
theorem name_eq_iff : i.name = j.name ↔ i = j ∨ i.Meets j := by
  constructor
  · intro h
    by_cases hfits : i.Fits ∧ j.Fits
    · rw [name_of_fits hfits.1, name_of_fits hfits.2, full_eq_iff] at h
      rcases h with h | h | h
      · exact .inl h
      · exact .inr (.inl h)
      · exact .inr (.inr (.inl h))
    · exact .inr (.inr (.inr ⟨hfits, h⟩))
  · have hfull (h : i.full = j.full) : i.name = j.name := congrArg Identifier.truncate h
    rintro (rfl | h | h | ⟨-, h⟩)
    · rfl
    · exact hfull (full_eq_iff.mpr (.inr (.inl h)))
    · exact hfull (full_eq_iff.mpr (.inr (.inr h)))
    · exact h

example : (Indexed.mk "order" "item_id").Meets ⟨"order_item", "id"⟩ := .inl ⟨"item", rfl, rfl⟩

/-- When an index gets the name of a table. -/
theorem name_eq_table_iff {table : String} (h : Identifier.truncate table = table) :
    i.name = table ↔ i.Takes table := by
  constructor
  · intro htaken
    by_cases hfits : i.Fits
    · exact .inl (name_of_fits hfits ▸ htaken)
    · exact .inr ⟨hfits, htaken⟩
  · rintro (rfl | ⟨-, htaken⟩)
    · exact h
    · exact htaken

/-- An index gets the name of its own table when that fills all the room. -/
theorem name_own_iff (h : Identifier.truncate i.table = i.table) :
    i.name = i.table ↔ i.table.utf8ByteSize = Identifier.maxBytes := by
  have hroom := Identifier.truncate_eq_self_iff.mp h
  have hkept : i.name.toList = i.table.toList ++
      Identifier.takeBytes (Identifier.maxBytes - i.table.utf8ByteSize)
        ('_' :: (i.column.toList ++ "_index".toList)) := by
    have hfront := Identifier.takeBytes_append i.table.toList ('_' :: (i.column.toList ++ "_index".toList))
      Identifier.maxBytes (by rwa [String.ofList_toList])
    rw [String.ofList_toList] at hfront
    rw [← hfront]
    simp [name, Plan.indexName, Identifier.truncate]
  rw [← String.toList_inj, hkept, List.append_right_eq_self, Identifier.takeBytes]
  have hseparator : '_'.utf8Size = 1 := rfl
  split
  · simp
    omega
  · simp
    omega

end Indexed

/-! ## The indexes of a schema -/

/-- The columns of a table that are to have indexes. -/
def Table.indexed (t : Table) : List Indexed :=
  (t.columns.filter (·.index)).map fun a => ⟨Identifier.truncate t.name, a.name⟩

/-- The columns of all tables that are to have indexes. -/
def Schema.indexed (s : Schema) : List Indexed := s.tables.flatMap Table.indexed

namespace Plan

variable {mode : MappingMode} {t : Table} {p : Plan}

/-- The names of the indexes that the plan leaves on a new table. -/
def indexNames (p : Plan) : List String := (p.onto .empty).indexes.map (·.1)

theorem map_indexes {table : String} {attributes : List Attribute} {columns : List Column}
    (h : List.Forall₂ (fun a c => Column.compiled mode a = .ok c) attributes columns) :
    (columns.flatMap (Column.indexes table)).map (·.1) =
      ((attributes.filter (·.index)).map fun a => Indexed.mk table a.name).map Indexed.name := by
  induction h with
  | nil => rfl
  | @cons a c attributes columns hc _ ih =>
    obtain ⟨hname, hindex⟩ := Column.compiled_plain hc
    rw [List.flatMap_cons, List.map_append, ih]
    by_cases ha : a.index <;> simp [Column.indexes, hname, hindex, ha, Indexed.name]

theorem create_indexNames (h : create mode t = .ok p) : p.indexNames = t.indexed.map Indexed.name := by
  obtain ⟨columns, hcolumns, hentry⟩ := create_describes h
  rw [indexNames, hentry]
  exact map_indexes hcolumns

end Plan

namespace Indexed

/-- Names of tables and of indexes are all different just where no two indexed columns meet in one index name and no
index takes the name of a table. -/
theorem nodup_names_iff {tables : List String} {indexed : List Indexed} (htables : tables.Nodup)
    (hcut : ∀ table ∈ tables, Identifier.truncate table = table) (hindexed : indexed.Nodup) :
    (tables ++ indexed.map name).Nodup ↔
      (∀ i ∈ indexed, ∀ j ∈ indexed, i ≠ j → ¬ i.Meets j) ∧ ∀ i ∈ indexed, ∀ table ∈ tables, ¬ i.Takes table := by
  rw [List.nodup_append, List.nodup_map_iff_inj_on hindexed]
  constructor
  · rintro ⟨-, hindexes, hacross⟩
    refine ⟨fun i hi j hj hne hmeets => hne ?_, fun i hi table htable htakes => ?_⟩
    · exact hindexes i hi j hj (name_eq_iff.mpr (.inr hmeets))
    · have hname : i.name = table := (name_eq_table_iff (hcut table htable)).mpr htakes
      exact hacross table htable i.name (List.mem_map_of_mem hi) hname.symm
  · rintro ⟨hmeets, htakes⟩
    refine ⟨htables, fun i hi j hj hname => ?_, fun table htable index hindex hsame => ?_⟩
    · by_contra hne
      rcases name_eq_iff.mp hname with h | h
      · exact hne h
      · exact hmeets i hi j hj hne h
    · obtain ⟨i, hi, rfl⟩ := List.mem_map.mp hindex
      exact htakes i hi table htable ((name_eq_table_iff (hcut table htable)).mp hsame.symm)

end Indexed

namespace Schema

variable {s : Schema} {mode : MappingMode} {plans : List Plan}

/-- No two indexed columns have the same table and the same name. -/
theorem indexed_nodup (htables : (s.tables.map fun t => Identifier.truncate t.name).Nodup)
    (hattributes : ∀ t ∈ s.tables, (t.attributes.map (·.name)).Nodup) : s.indexed.Nodup := by
  refine List.nodup_flatMap.mpr ⟨fun t ht => ?_, ?_⟩
  · have hsublist : (t.columns.filter (·.index)).Sublist t.attributes :=
      List.filter_sublist.trans List.filter_sublist
    have hnames : (t.indexed.map (·.column)).Nodup := by
      unfold Table.indexed
      rw [List.map_map]
      exact (hattributes t ht).sublist (hsublist.map _)
    exact .of_map _ hnames
  · have hnames := List.pairwise_map.mp htables
    refine hnames.imp fun {t u} hne i hi hj => hne ?_
    obtain ⟨a, -, rfl⟩ := List.mem_map.mp hi
    obtain ⟨b, -, hb⟩ := List.mem_map.mp hj
    exact (congrArg Indexed.table hb).symm

/-- What the plans for all tables of a schema call tables and indexes. -/
theorem names_eq {tables : List Table} (h : List.Forall₂ (fun t p => Plan.create mode t = .ok p) tables plans) :
    plans.map (·.table) = tables.map (fun t => Identifier.truncate t.name) ∧
      plans.flatMap Plan.indexNames = (tables.flatMap Table.indexed).map Indexed.name := by
  induction h with
  | nil => exact ⟨rfl, rfl⟩
  | cons hp _ ih =>
    refine ⟨?_, ?_⟩
    · rw [List.map_cons, List.map_cons, ih.1, Plan.create_table hp]
    · rw [List.flatMap_cons, List.flatMap_cons, List.map_append, ih.2, Plan.create_indexNames hp]

theorem names_cut (s : Schema) : ∀ table ∈ s.tables.map (fun t => Identifier.truncate t.name),
    Identifier.truncate table = table := by
  intro table htable
  obtain ⟨t, -, rfl⟩ := List.mem_map.mp htable
  exact Identifier.truncate_truncate t.name

/-- The plans for the tables of a schema give every table and every index a name of its own just where no two indexed
columns meet in one index name and no index takes the name of a table. -/
theorem names_apart_iff (hplans : List.Forall₂ (fun t p => Plan.create mode t = .ok p) s.tables plans)
    (htables : (s.tables.map fun t => Identifier.truncate t.name).Nodup)
    (hattributes : ∀ t ∈ s.tables, (t.attributes.map (·.name)).Nodup) :
    (plans.map (·.table) ++ plans.flatMap Plan.indexNames).Nodup ↔
      (∀ i ∈ s.indexed, ∀ j ∈ s.indexed, i ≠ j → ¬ i.Meets j) ∧
        ∀ i ∈ s.indexed, ∀ t ∈ s.tables, ¬ i.Takes (Identifier.truncate t.name) := by
  obtain ⟨hnames, hindexes⟩ := names_eq hplans
  rw [hnames, hindexes]
  refine (Indexed.nodup_names_iff htables s.names_cut (indexed_nodup htables hattributes)).trans ?_
  simp only [List.forall_mem_map, indexed]

/-- A name that fills all the room. -/
def filling : String := "xxxxxxxxxxxxxxxxxxxxxxxxxxxxxxxxxxxxxxxxxxxxxxxxxxxxxxxxxxxxxxx"

/-- A table whose name is longer than the database keeps. -/
def subscribers : Table := .make (filling ++ "xxxxxxx") [{ Attribute.plain "email" .text with index := true }]

/-- The index of such a table takes the table's name. -/
theorem names_apart_iff_subscribers : ∃ p, Plan.create .strict subscribers = .ok p ∧
    p.indexNames = [p.table] ∧ ¬ ([p].map (·.table) ++ [p].flatMap Plan.indexNames).Nodup := by
  let email := { Attribute.plain "email" .text with index := true }
  let column := { Column.plain "email" .text with index := true }
  let p : Plan := ⟨filling, .create, [.addColumn column, .createIndex filling "email"], []⟩
  have hcut : Identifier.truncate (filling ++ "xxxxxxx") = filling := by
    decide +kernel
  have hmade : subscribers = ⟨filling, [email]⟩ := congrArg (Table.mk · [email]) hcut
  have hcheck : Identifier.check filling = .ok () := by
    have hfilling : filling = String.ofList (List.replicate 63 'x') := by
      decide +kernel
    rw [hfilling]
    exact Identifier.check_of_plain (.one (by decide +kernel))
  have hp : Plan.create .strict subscribers = .ok p := by
    simp only [hmade, Plan.create, hcheck]
    decide +kernel
  have hplans : List.Forall₂ (fun t p => Plan.create .strict t = .ok p) (Schema.mk [subscribers]).tables [p] :=
    .cons hp .nil
  have htakes : (Indexed.mk filling "email").Takes (Identifier.truncate subscribers.name) := by
    rw [hmade]
    unfold Indexed.Takes Indexed.Fits
    decide +kernel
  have hindexed : Indexed.mk filling "email" ∈ (Schema.mk [subscribers]).indexed := by
    rw [hmade]
    decide +kernel
  refine ⟨p, hp, rfl, fun hnodup => ?_⟩
  have hapart := (names_apart_iff hplans (List.nodup_singleton _) (by simp [subscribers, Table.make])).mp hnodup
  exact hapart.2 _ hindexed subscribers (List.mem_singleton_self _) htakes

/-- Names are apart where the tables have no underscore in theirs and no index name is too long. -/
theorem names_apart_of_fits (hplans : List.Forall₂ (fun t p => Plan.create mode t = .ok p) s.tables plans)
    (htables : (s.tables.map fun t => Identifier.truncate t.name).Nodup)
    (hattributes : ∀ t ∈ s.tables, (t.attributes.map (·.name)).Nodup)
    (hplain : ∀ t ∈ s.tables, '_' ∉ (Identifier.truncate t.name).toList)
    (hfits : ∀ i ∈ s.indexed, i.Fits) :
    (plans.map (·.table) ++ plans.flatMap Plan.indexNames).Nodup := by
  have hunderscore : ∀ i ∈ s.indexed, '_' ∉ i.table.toList := by
    intro i hi
    obtain ⟨t, ht, hi⟩ := List.mem_flatMap.mp hi
    obtain ⟨a, -, rfl⟩ := List.mem_map.mp hi
    exact hplain t ht
  have hcontinues : ∀ i j : Indexed, '_' ∉ j.table.toList → ¬ i.Continues j := by
    rintro i j hj ⟨middle, htable, -⟩
    exact hj (by simp [htable])
  obtain ⟨hnames, hindexes⟩ := names_eq hplans
  rw [hnames, hindexes]
  refine (Indexed.nodup_names_iff htables s.names_cut (indexed_nodup htables hattributes)).mpr ⟨?_, ?_⟩
  · rintro i hi j hj - (h | h | ⟨h, -⟩)
    · exact hcontinues i j (hunderscore j hj) h
    · exact hcontinues j i (hunderscore i hi) h
    · exact h ⟨hfits i hi, hfits j hj⟩
  · rintro i hi table htable (rfl | ⟨h, -⟩)
    · obtain ⟨t, ht, hfull⟩ := List.mem_map.mp htable
      exact hplain t ht (by simp [hfull, Indexed.full])
    · exact h (hfits i hi)

end Schema

end SqlAdapter
