/-
Which rows are left when repeated keys are dropped.

`distinctBy` keeps every item without a key and one item of each key. Rows are
told apart by one column, the first that is declared primary key, while a table
may declare several. `Table.distinctRows_keeps_iff` says what this costs: no row
is lost exactly when rows that agree in the first key column agree in all of
them. The rest carries this to the rows of a statement and of an association,
and finds lost rows for every table with a second key column.
-/
import SqlAdapter.Proofs.Schema.Validity
import SqlAdapter.Record
import Mathlib.Data.List.Nodup
import Mathlib.Data.List.Pairwise

namespace SqlAdapter

/-! ## The first of each key -/

section DistinctBy

variable {α β : Type} {key : α → Option String} {seen : List String} {item : α} {items rows : List α} {k : String}

theorem distinctBy_keyless (h : key item = none) :
    distinctBy key seen (item :: items) = item :: distinctBy key seen items := by
  rw [distinctBy, h]

theorem distinctBy_repeated (h : key item = some k) (hk : k ∈ seen) :
    distinctBy key seen (item :: items) = distinctBy key seen items := by
  rw [distinctBy, h]
  simp [hk]

theorem distinctBy_new (h : key item = some k) (hk : k ∉ seen) :
    distinctBy key seen (item :: items) = item :: distinctBy key (k :: seen) items := by
  rw [distinctBy, h]
  simp [hk]

theorem mem_of_mem_distinctBy {x : α} (h : x ∈ distinctBy key seen items) :
    x ∈ items ∧ ∀ k, key x = some k → k ∉ seen := by
  induction items generalizing seen with
  | nil => cases h
  | cons item items ih =>
    cases hkey : key item with
    | none =>
      rw [distinctBy_keyless hkey] at h
      rcases List.mem_cons.mp h with rfl | h
      · exact ⟨.head _, by simp [hkey]⟩
      · obtain ⟨hx, hfresh⟩ := ih h
        exact ⟨.tail _ hx, hfresh⟩
    | some l =>
      by_cases hl : l ∈ seen
      · rw [distinctBy_repeated hkey hl] at h
        obtain ⟨hx, hfresh⟩ := ih h
        exact ⟨.tail _ hx, hfresh⟩
      · rw [distinctBy_new hkey hl] at h
        rcases List.mem_cons.mp h with rfl | h
        · refine ⟨.head _, fun k hk => ?_⟩
          rw [hkey] at hk
          cases hk
          exact hl
        · obtain ⟨hx, hfresh⟩ := ih h
          exact ⟨.tail _ hx, fun k hk hmem => hfresh k hk (.tail _ hmem)⟩

theorem distinctBy_pairwise (seen : List String) (items : List α) :
    (distinctBy key seen items).Pairwise fun x y => key x = key y → key x = none := by
  induction items generalizing seen with
  | nil => exact .nil
  | cons item items ih =>
    cases hkey : key item with
    | none =>
      rw [distinctBy_keyless hkey]
      exact .cons (fun _ _ _ => hkey) (ih seen)
    | some l =>
      by_cases hl : l ∈ seen
      · rw [distinctBy_repeated hkey hl]
        exact ih seen
      · rw [distinctBy_new hkey hl]
        refine .cons (fun y hy heq => ?_) (ih (l :: seen))
        exact absurd (.head _) ((mem_of_mem_distinctBy hy).2 l (heq ▸ hkey))

/-- No two items that stay have one key. -/
theorem eq_of_mem_distinctBy {x y : α} (hx : x ∈ distinctBy key seen items) (hy : y ∈ distinctBy key seen items)
    (hkey : key x ≠ none) (heq : key x = key y) : x = y := by
  have hsymm : Std.Symm fun x y : α => key x = key y → key x = none :=
    ⟨fun a b h heq => heq.trans (h heq.symm)⟩
  by_contra hne
  exact hkey ((distinctBy_pairwise seen items).forall hx hy hne heq)

/-- Every item is there, or another of its key is. -/
theorem exists_mem_distinctBy {x : α} (hx : x ∈ items) (hfresh : ∀ k, key x = some k → k ∉ seen) :
    ∃ y ∈ distinctBy key seen items, key y = key x ∧ (key x = none → y = x) := by
  induction items generalizing seen with
  | nil => cases hx
  | cons item items ih =>
    cases hkey : key item with
    | none =>
      rw [distinctBy_keyless hkey]
      rcases List.mem_cons.mp hx with rfl | hx
      · exact ⟨x, .head _, rfl, fun _ => rfl⟩
      · obtain ⟨y, hy, hxy⟩ := ih hx hfresh
        exact ⟨y, .tail _ hy, hxy⟩
    | some l =>
      by_cases hl : l ∈ seen
      · rw [distinctBy_repeated hkey hl]
        rcases List.mem_cons.mp hx with rfl | hx
        · exact absurd hl (hfresh l hkey)
        · exact ih hx hfresh
      · rw [distinctBy_new hkey hl]
        by_cases hxl : key x = some l
        · exact ⟨item, .head _, by rw [hkey, hxl], by simp [hxl]⟩
        · rcases List.mem_cons.mp hx with rfl | hx
          · exact absurd hkey hxl
          · obtain ⟨y, hy, hxy⟩ := ih hx fun k hk hmem => by
              rcases List.mem_cons.mp hmem with rfl | hmem
              · exact hxl hk
              · exact hfresh k hk hmem
            exact ⟨y, .tail _ hy, hxy⟩

theorem distinctBy_map (f : β → α) (ys : List β) :
    (distinctBy (fun y => key (f y)) seen ys).map f = distinctBy key seen (ys.map f) := by
  induction ys generalizing seen with
  | nil => rfl
  | cons y ys ih =>
    rw [List.map_cons, distinctBy, distinctBy]
    cases key (f y) with
    | none => rw [List.map_cons, ih]
    | some k =>
      dsimp only
      split
      · exact ih
      · rw [List.map_cons, ih]

theorem distinctBy_sublist (seen : List String) (items : List α) : (distinctBy key seen items).Sublist items := by
  induction items generalizing seen with
  | nil => exact .slnil
  | cons item items ih =>
    cases hkey : key item with
    | none =>
      rw [distinctBy_keyless hkey]
      exact (ih seen).cons_cons item
    | some k =>
      by_cases hk : k ∈ seen
      · rw [distinctBy_repeated hkey hk]
        exact (ih seen).cons item
      · rw [distinctBy_new hkey hk]
        exact (ih (k :: seen)).cons_cons item

/-- Of items that repeat rows with keys of their own, every row is left once. -/
theorem distinctBy_perm (hmem : ∀ x, x ∈ items ↔ x ∈ rows) (hkeys : (rows.map key).Nodup)
    (hnone : ∀ x ∈ rows, key x ≠ none) : (distinctBy key [] items).Perm rows := by
  have hinjective : ∀ x ∈ rows, ∀ y ∈ rows, key x = key y → x = y :=
    fun x hx y hy => List.inj_on_of_nodup_map hkeys hx hy
  have honce : (distinctBy key [] items).Nodup := by
    refine (distinctBy_pairwise [] items).imp_of_mem fun {x y} hx _ hxy heq => ?_
    exact hnone x ((hmem x).mp (mem_of_mem_distinctBy hx).1) (hxy (congrArg key heq))
  refine (List.perm_ext_iff_of_nodup honce (.of_map key hkeys)).mpr fun x => ⟨fun hx => ?_, fun hx => ?_⟩
  · exact (hmem x).mp (mem_of_mem_distinctBy hx).1
  · have hfresh : ∀ k, key x = some k → k ∉ [] := fun _ _ => List.not_mem_nil
    obtain ⟨y, hy, heq, -⟩ := exists_mem_distinctBy ((hmem x).mpr hx) hfresh
    have hrow := (hmem y).mp (mem_of_mem_distinctBy hy).1
    rwa [← hinjective y hrow x hx heq]

end DistinctBy

/-! ## Keys of rows -/

namespace Table

/-- The text by which a row is told apart in one column. -/
def keyIn (column : String) (row : Row) : Option String := (row.get? column).bind Value.identityKey?

/-- The rows have the same values in all columns that the table declares primary key. -/
def SameKey (t : Table) (row other : Row) : Prop :=
  ∀ column ∈ t.primaryKeyColumns, row.get? column = other.get? column

/-- Of any two rows that differ in a key column both are there, each as a row of its key. -/
def Keeps (t : Table) (rows kept : List Row) : Prop :=
  ∀ row ∈ rows, ∀ other ∈ rows, ¬ t.SameKey row other →
    (∃ r ∈ kept, t.SameKey r row) ∧ ∃ r ∈ kept, t.SameKey r other

/-- Rows that cannot be told apart in the first key column have the same key. -/
def FirstDecides (t : Table) (rows : List Row) : Prop :=
  ∀ row ∈ rows, ∀ other ∈ rows, keyIn t.primaryKey row ≠ none →
    keyIn t.primaryKey row = keyIn t.primaryKey other → t.SameKey row other

/-- Different values in a key column are told apart there. -/
def ToldApart (t : Table) (rows : List Row) : Prop :=
  ∀ row ∈ rows, ∀ other ∈ rows, ∀ column ∈ t.primaryKeyColumns,
    keyIn column row = keyIn column other → row.get? column = other.get? column

variable {t : Table} {row other third : Row}

theorem SameKey.refl (t : Table) (row : Row) : t.SameKey row row := fun _ _ => rfl

theorem SameKey.symm (h : t.SameKey row other) : t.SameKey other row :=
  fun column hcolumn => (h column hcolumn).symm

theorem SameKey.trans (h : t.SameKey row other) (h' : t.SameKey other third) : t.SameKey row third :=
  fun column hcolumn => (h column hcolumn).trans (h' column hcolumn)

theorem SameKey.keyIn_eq (hkeys : t.primaryKeyColumns ≠ []) (h : t.SameKey row other) :
    keyIn t.primaryKey row = keyIn t.primaryKey other := by
  rw [keyIn, keyIn, h _ (primaryKey_mem hkeys)]

/-- Dropping repeated keys loses no row exactly when the first key column decides. -/
theorem distinctRows_keeps_iff (hkeys : t.primaryKeyColumns ≠ []) (rows : List Row) :
    t.Keeps rows (distinctRows (some t) rows) ↔ t.FirstDecides rows := by
  constructor
  · intro h row hrow other hother hkey heq
    by_contra hne
    obtain ⟨⟨r, hr, hrow'⟩, ⟨r', hr', hother'⟩⟩ := h row hrow other hother hne
    have hrkey := hrow'.keyIn_eq hkeys
    have hrr' : r = r' :=
      eq_of_mem_distinctBy hr hr' (fun hnone => hkey (hrkey.symm.trans hnone))
        ((hrkey.trans heq).trans (hother'.keyIn_eq hkeys).symm)
    subst hrr'
    exact hne (hrow'.symm.trans hother')
  · intro h
    have hthere : ∀ row ∈ rows, ∃ r ∈ distinctRows (some t) rows, t.SameKey r row := by
      intro row hrow
      have hfresh : ∀ k, identityOf (some t) row = some k → k ∉ [] := fun _ _ => List.not_mem_nil
      obtain ⟨r, hr, heq, hsame⟩ := exists_mem_distinctBy hrow hfresh
      refine ⟨r, hr, ?_⟩
      by_cases hkey : keyIn t.primaryKey row = none
      · rw [hsame hkey]
        exact .refl t row
      · exact (h row hrow r (mem_of_mem_distinctBy hr).1 hkey heq.symm).symm
    intro row hrow other hother _
    exact ⟨hthere row hrow, hthere other hother⟩

/-! ## Rows that only a second column tells apart -/

/-- A value as the attribute of its column casts it, if there is one. -/
def castIn (table : Option Table) (column : String) (value : Value) : Value :=
  ((table.bind (·.find? column)).map (·.type.cast value)).getD value

theorem castRow_eq (table : Option Table) (row : Row) :
    castRow table row = List.map (fun cell => (cell.1, castIn table cell.1 cell.2)) row := by
  rw [castRow]
  refine List.map_congr_left fun cell _ => ?_
  simp only [castIn]
  cases table.bind (·.find? cell.1) <;> rfl

theorem castRow_get? (table : Option Table) (row : Row) (column : String) :
    (castRow table row).get? column = (row.get? column).map (castIn table column) := by
  rw [castRow_eq]
  induction row with
  | nil => rfl
  | cons cell row ih =>
    obtain ⟨name, value⟩ := cell
    by_cases hname : name = column
    · subst hname
      simp [Row.get?]
    · have hne : (name == column) = false := beq_eq_false_iff_ne.mpr hname
      simpa [Row.get?, hne] using ih

theorem cast_bool_identity (type : AttributeType) (b : Bool) :
    (type.cast (.bool b)).identityKey? = some (Json.bool b).text := by
  cases type <;> rfl

theorem castIn_bool_identity (table : Option Table) (column : String) (b : Bool) :
    (castIn table column (.bool b)).identityKey? = some (Json.bool b).text := by
  rw [castIn]
  cases table.bind (·.find? column) with
  | none => rfl
  | some a => exact cast_bool_identity a.type b

/-- A row with a truth value in each of two columns. -/
def cells (first second : String) (b : Bool) : Row := [(first, .bool true), (second, .bool b)]

theorem cells_get? (first second column : String) (b : Bool) : (cells first second b).get? column =
    if column = first then some (.bool true) else if column = second then some (.bool b) else none := by
  by_cases hfirst : column = first
  · simp [cells, Row.get?, hfirst]
  · have hne : (first == column) = false := beq_eq_false_iff_ne.mpr fun h => hfirst h.symm
    by_cases hsecond : column = second
    · subst hsecond
      simp [cells, Row.get?, hne, hfirst]
    · have hne' : (second == column) = false := beq_eq_false_iff_ne.mpr fun h => hsecond h.symm
      simp [cells, Row.get?, hne, hne', hfirst, hsecond]

theorem castRow_cells_get? (table : Option Table) (first second column : String) (b : Bool) :
    (castRow table (cells first second b)).get? column =
      if column = first then some (castIn table column (.bool true))
      else if column = second then some (castIn table column (.bool b)) else none := by
  rw [castRow_get?, cells_get?]
  split
  · rfl
  · split <;> rfl

theorem keyIn_cells (table : Option Table) (first second column : String) (b : Bool) :
    keyIn column (castRow table (cells first second b)) =
      if column = first then some (Json.bool true).text
      else if column = second then some (Json.bool b).text else none := by
  rw [keyIn, castRow_cells_get?]
  split
  · exact castIn_bool_identity table column true
  · split
    · exact castIn_bool_identity table column b
    · rfl

theorem boolText_injective {b c : Bool} (h : some (Json.bool b).text = some (Json.bool c).text) : b = c := by
  revert b c
  decide

/-- In the column where truth values differ, so do the texts that tell them apart. -/
theorem cells_toldApart (t : Table) (first second : String) :
    t.ToldApart ([cells first second true, cells first second false].map (castRow (some t))) := by
  intro row hrow other hother column _ heq
  obtain ⟨_, hb, rfl⟩ := List.mem_map.mp hrow
  obtain ⟨_, hc, rfl⟩ := List.mem_map.mp hother
  have hcells : ∀ r ∈ [cells first second true, cells first second false], ∃ b, r = cells first second b := by
    simp
  obtain ⟨b, rfl⟩ := hcells _ hb
  obtain ⟨c, rfl⟩ := hcells _ hc
  rw [keyIn_cells, keyIn_cells] at heq
  rw [castRow_cells_get?, castRow_cells_get?]
  by_cases hfirst : column = first
  · rw [if_pos hfirst, if_pos hfirst]
  · rw [if_neg hfirst, if_neg hfirst] at heq ⊢
    by_cases hsecond : column = second
    · rw [if_pos hsecond, if_pos hsecond] at heq
      rw [boolText_injective heq]
    · rw [if_neg hsecond, if_neg hsecond]

theorem cells_not_firstDecides {t : Table} {second : String} (hmem : second ∈ t.primaryKeyColumns)
    (hne : second ≠ t.primaryKey) :
    ¬ t.FirstDecides ([cells t.primaryKey second true, cells t.primaryKey second false].map (castRow (some t))) := by
  intro h
  have hfirst : ∀ b, keyIn t.primaryKey (castRow (some t) (cells t.primaryKey second b)) =
      some (Json.bool true).text := by
    intro b
    rw [keyIn_cells, if_pos rfl]
  have hsame := h _ (.head _) _ (.tail _ (.head _)) (by rw [hfirst]; simp) ((hfirst true).trans (hfirst false).symm)
  have hkeys : keyIn second (castRow (some t) (cells t.primaryKey second true)) =
      keyIn second (castRow (some t) (cells t.primaryKey second false)) := by
    rw [keyIn, keyIn, hsame second hmem]
  rw [keyIn_cells, keyIn_cells, if_neg hne, if_neg hne, if_pos rfl, if_pos rfl] at hkeys
  cases boolText_injective hkeys

/-- With a single key column, rows whose keys are told apart are decided by it. -/
theorem firstDecides_of_toldApart {t : Table} {rows : List Row}
    (h : ∀ column ∈ t.primaryKeyColumns, column = t.primaryKey) (hapart : t.ToldApart rows) :
    t.FirstDecides rows := by
  intro row hrow other hother _ heq column hcolumn
  refine hapart row hrow other hother column hcolumn ?_
  rw [h column hcolumn, heq]

end Table

/-! ## What is kept of a statement's rows -/

namespace Schema

variable {s : Schema} {table : String} {t : Table} {rows : List Row} {joins : List (Join Criteria)}
  {casts : List Record}

theorem records_ok (ht : s.get? table = some t) (h : rows.mapM (s.record table joins) = .ok casts) :
    ∃ records, s.records table rows joins = .ok records ∧
      records.map Record.fields = Table.distinctRows (some t) (casts.map Record.fields) := by
  refine ⟨distinctBy (fun r => Table.identityOf (s.get? table) r.fields) [] casts, ?_, ?_⟩
  · rw [records, h]
    rfl
  · rw [ht]
    exact distinctBy_map Record.fields casts

theorem records_keeps_iff (ht : s.get? table = some t) (hkeys : t.primaryKeyColumns ≠ [])
    (hcasts : rows.mapM (s.record table joins) = .ok casts) :
    ∃ records, s.records table rows joins = .ok records ∧
      (t.Keeps (casts.map Record.fields) (records.map Record.fields) ↔
        t.FirstDecides (casts.map Record.fields)) := by
  obtain ⟨records, hrecords, hfields⟩ := records_ok ht hcasts
  refine ⟨records, hrecords, ?_⟩
  rw [hfields]
  exact Table.distinctRows_keeps_iff hkeys _

theorem associationRows_keeps_iff {column : Value} {items : List Row} (hkeys : t.primaryKeyColumns ≠ [])
    (hitems : (Table.associationItems column >>= Table.itemRows) = .ok items) :
    ∃ kept, Table.associationRows (some t) column = .ok kept ∧
      (t.Keeps (items.map (Table.castRow (some t))) kept ↔
        t.FirstDecides (items.map (Table.castRow (some t)))) := by
  obtain ⟨list, hlist, hitems⟩ := Result.bind_ok_iff.mp hitems
  refine ⟨Table.distinctRows (some t) (items.map (Table.castRow (some t))), ?_, ?_⟩
  · rw [Table.associationRows]
    exact Result.bind_ok_iff.mpr ⟨list, hlist, Result.bind_ok_iff.mpr ⟨items, hitems, rfl⟩⟩
  · exact Table.distinctRows_keeps_iff hkeys _

/-- A second key column has rows that are lost for it. -/
theorem exists_not_keeps {column : String} (ht : s.get? table = some t) (hcolumn : column ∈ t.primaryKeyColumns)
    (hne : column ≠ t.primaryKey) :
    ∃ rows casts records, rows.mapM (s.record table []) = .ok casts ∧ s.records table rows [] = .ok records ∧
      t.ToldApart (casts.map Record.fields) ∧
        ¬ t.Keeps (casts.map Record.fields) (records.map Record.fields) := by
  have hkeys : t.primaryKeyColumns ≠ [] := List.ne_nil_of_mem hcolumn
  let rows := [Table.cells t.primaryKey column true, Table.cells t.primaryKey column false]
  let casts := rows.map fun row => (⟨Table.castRow (some t) row, []⟩ : Record)
  have hcasts : rows.mapM (s.record table []) = .ok casts := by
    have hmap : rows.mapM (s.record table []) =
        .ok (rows.map fun row => ⟨Table.castRow (s.get? table) row, []⟩) := rfl
    rw [hmap, ht]
  obtain ⟨records, hrecords, hkeeps⟩ := records_keeps_iff ht hkeys hcasts
  refine ⟨rows, casts, records, hcasts, hrecords, Table.cells_toldApart t t.primaryKey column, ?_⟩
  rw [hkeeps]
  exact Table.cells_not_firstDecides hcolumn hne

/-- Of the rows of a statement none is lost exactly when the first key column decides, and of the items
of an association likewise by the key of their table. Rows whose keys are told apart are safe in every
case exactly when the table has no second key column. -/
theorem records_keep_distinct_iff (ht : s.get? table = some t) (hkeys : t.primaryKeyColumns ≠ []) :
    (∀ rows joins casts, rows.mapM (s.record table joins) = .ok casts →
      ∃ records, s.records table rows joins = .ok records ∧
        (t.Keeps (casts.map Record.fields) (records.map Record.fields) ↔
          t.FirstDecides (casts.map Record.fields))) ∧
    (∀ column items, (Table.associationItems column >>= Table.itemRows) = .ok items →
      ∃ kept, Table.associationRows (some t) column = .ok kept ∧
        (t.Keeps (items.map (Table.castRow (some t))) kept ↔
          t.FirstDecides (items.map (Table.castRow (some t))))) ∧
    ((∀ rows joins casts records, rows.mapM (s.record table joins) = .ok casts →
        s.records table rows joins = .ok records → t.ToldApart (casts.map Record.fields) →
          t.Keeps (casts.map Record.fields) (records.map Record.fields)) ↔
      ∀ column ∈ t.primaryKeyColumns, column = t.primaryKey) := by
  refine ⟨fun _ _ _ => records_keeps_iff ht hkeys, fun _ _ => associationRows_keeps_iff hkeys, ?_⟩
  constructor
  · intro hsafe column hcolumn
    by_contra hne
    obtain ⟨rows, casts, records, hcasts, hrecords, hapart, hlost⟩ := exists_not_keeps ht hcolumn hne
    exact hlost (hsafe rows [] casts records hcasts hrecords hapart)
  · intro hsingle rows joins casts records hcasts hrecords hapart
    obtain ⟨records', hrecords', hkeeps⟩ := records_keeps_iff ht hkeys hcasts
    rw [hrecords] at hrecords'
    cases hrecords'
    exact hkeeps.mpr (Table.firstDecides_of_toldApart hsingle hapart)

/-- Who is in which group. -/
def memberships : Table := .make "memberships"
  [(Attribute.plain "user_id" .integer).asPrimaryKey, (Attribute.plain "group_id" .integer).asPrimaryKey]

/-- Of one user in two groups, one membership is lost. -/
theorem records_keep_distinct_iff_memberships : ∃ records,
    (ofTables [memberships]).records "memberships"
      [[("user_id", .int 1), ("group_id", .int 1)], [("user_id", .int 1), ("group_id", .int 2)]] [] = .ok records ∧
    ¬ memberships.Keeps
      [[("user_id", .int 1), ("group_id", .int 1)], [("user_id", .int 1), ("group_id", .int 2)]]
      (records.map Record.fields) := by
  have ht : (ofTables [memberships]).get? "memberships" = some memberships := rfl
  have hkeys : memberships.primaryKeyColumns ≠ [] := by decide
  obtain ⟨records, hrecords, hkeeps⟩ := (records_keep_distinct_iff ht hkeys).1
    [[("user_id", .int 1), ("group_id", .int 1)], [("user_id", .int 1), ("group_id", .int 2)]] []
    [⟨[("user_id", .int 1), ("group_id", .int 1)], []⟩, ⟨[("user_id", .int 1), ("group_id", .int 2)], []⟩] rfl
  refine ⟨records, hrecords, fun h => ?_⟩
  have hsame := hkeeps.mp h _ (.head _) _ (.tail _ (.head _)) (by decide) rfl
  have hgroup := hsame "group_id" (.tail _ (.head _))
  cases hgroup

end Schema

end SqlAdapter
