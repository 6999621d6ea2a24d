/-
What becomes of the columns of an answer.

The cells of an answer become a row by name, and a record takes the columns of
the associations out of the row, by name again. A column is lost on this way
only to another of its name: the row has all cells exactly when no two columns
have one name (`Row.ofCells_reads_iff`), and the fields of a record are the
columns with the name of no association (`Schema.record_fields`). There is an
association for each name of a selected join. It has the rows of its column, or
none if another join comes to the column first or to the name later
(`Schema.record_associated`). The invariant behind it is that the associations so
far are those of the joins so far (`Schema.associated_set`).
-/
import SqlAdapter.Connection.Extraction
import SqlAdapter.Proofs.Result
import SqlAdapter.Record

namespace SqlAdapter

/-! ## Rows by name -/

/-- The entry of a row is a cell of an answer, read as its column says. -/
def WireColumn.Reads (entry : String × Value) (place : WireColumn × Value) : Prop :=
  entry.1 = place.1.name ∧ place.1.extract place.2 = .ok entry.2

namespace Row

/-- The names of the columns of a row. -/
def names (row : Row) : List String := List.map (·.1) row

theorem insert_new {row : Row} {column : String} (h : column ∉ row.names) (value : Value) :
    row.insert column value = row ++ [(column, value)] := by
  have hnone : List.any row (·.1 == column) = false := by
    rw [List.any_eq_false]
    exact fun entry hentry heq => h (List.mem_map.mpr ⟨entry, hentry, by simpa using heq⟩)
  rw [insert, hnone]
  rfl

theorem insert_old {row : Row} {column : String} (h : column ∈ row.names) (value : Value) :
    row.insert column value = List.map (fun (c, v) => if c == column then (c, value) else (c, v)) row := by
  obtain ⟨entry, hentry, rfl⟩ := List.mem_map.mp h
  have hsome : List.any row (·.1 == entry.1) = true := List.any_eq_true.mpr ⟨entry, hentry, by simp⟩
  rw [insert, hsome]
  rfl

theorem names_insert (row : Row) (column : String) (value : Value) :
    names (row.insert column value) = if column ∈ row.names then row.names else row.names ++ [column] := by
  split
  · next hmem =>
    rw [insert_old hmem, names, List.map_map]
    refine List.map_congr_left fun entry _ => ?_
    simp only [Function.comp_apply]
    split <;> rfl
  · next hmem =>
    rw [insert_new hmem]
    exact List.map_append

theorem mem_names_insert {row : Row} {column name : String} {value : Value}
    (h : name ∈ names (row.insert column value)) : name ∈ row.names ∨ name = column := by
  rw [names_insert] at h
  split at h
  · exact .inl h
  · simpa using h

/-- Setting a column leaves the others as they are. -/
theorem filter_insert {p : String → Bool} {column : String} (h : p column = false) (row : Row) (value : Value) :
    (row.insert column value).filter (fun entry => p entry.1) = List.filter (fun entry => p entry.1) row := by
  by_cases hmem : column ∈ row.names
  · have hnames : ((fun entry : String × Value => p entry.1) ∘
        fun (c, v) => if c == column then (c, value) else (c, v)) = fun entry => p entry.1 := by
      funext entry
      simp only [Function.comp_apply]
      split <;> rfl
    rw [insert_old hmem, List.filter_map, hnames]
    refine (List.map_congr_left fun entry hentry => ?_).trans (List.map_id _)
    have hother : entry.1 ≠ column := by
      rintro rfl
      rw [(List.mem_filter.mp hentry).2] at h
      cases h
    simp [hother]
  · rw [insert_new hmem, List.filter_append]
    simp [h]

/-- Columns of other names do not matter to a column. -/
theorem get?_filter {p : String → Bool} {column : String} (h : p column = true) (row : Row) :
    Row.get? (List.filter (fun entry => p entry.1) row) column = row.get? column := by
  have hsame : (fun entry : String × Value => decide (p entry.1 = true ∧ (entry.1 == column) = true)) =
      fun entry => entry.1 == column := by
    funext entry
    by_cases hentry : entry.1 = column
    · simp [hentry, h]
    · simp [hentry]
  rw [get?, get?, List.find?_filter, hsame]

theorem get?_erase {row : Row} {column other : String} (h : other ≠ column) :
    (row.erase column).get? other = row.get? other :=
  get?_filter (p := (· != column)) (bne_iff_ne.mpr h) row

theorem get?_erase_self (row : Row) (column : String) : (row.erase column).get? column = none := by
  rw [get?, erase, List.find?_filter]
  simp

theorem ofCells_nil (cells : List Value) (row : Row) : ofCells [] cells row = .ok row := by
  rw [ofCells]
  intro c columns cell cells hc
  cases hc

/-- The columns of certain names stand behind those of the row, if they are new and distinct. -/
theorem ofCells_filter {p : String → Bool} {columns : List WireColumn} {cells : List Value} {row filled : Row}
    (hlen : cells.length = columns.length) (h : ofCells columns cells row = .ok filled)
    (hdistinct : ((columns.map (·.name)).filter p).Nodup)
    (hnew : ∀ name ∈ (columns.map (·.name)).filter p, name ∉ row.names) :
    ∃ added, List.filter (fun entry => p entry.1) filled = List.filter (fun entry => p entry.1) row ++ added ∧
      List.Forall₂ WireColumn.Reads added ((columns.zip cells).filter fun place => p place.1.name) := by
  induction columns generalizing cells row with
  | nil =>
    cases (ofCells_nil cells row).symm.trans h
    exact ⟨[], (List.append_nil _).symm, .nil⟩
  | cons c columns ih =>
    obtain _ | ⟨cell, cells⟩ := cells
    · cases hlen
    rw [ofCells, Result.bind_ok_iff] at h
    obtain ⟨value, hvalue, h⟩ := h
    rw [List.map_cons, List.filter_cons] at hdistinct hnew
    rw [List.zip_cons_cons, List.filter_cons]
    cases hp : p c.name with
    | false =>
      simp only [hp, Bool.false_eq_true, if_false] at hdistinct hnew ⊢
      rw [← filter_insert hp row value]
      refine ih (Nat.succ.inj hlen) h hdistinct fun name hname hmem => ?_
      rcases mem_names_insert hmem with hmem | rfl
      · exact hnew name hname hmem
      · rw [(List.mem_filter.mp hname).2] at hp
        cases hp
    | true =>
      simp only [hp, if_true, List.nodup_cons, List.forall_mem_cons] at hdistinct hnew ⊢
      obtain ⟨added, hfilled, hadded⟩ := ih (Nat.succ.inj hlen) h hdistinct.2 fun name hname hmem => by
        rcases mem_names_insert hmem with hmem | rfl
        · exact hnew.2 name hname hmem
        · exact hdistinct.1 hname
      refine ⟨(c.name, value) :: added, ?_, .cons ⟨rfl, hvalue⟩ hadded⟩
      rw [hfilled, insert_new hnew.1, List.filter_append, List.append_assoc]
      simp [hp]

/-- A row never has a name twice. -/
theorem ofCells_nodup {columns : List WireColumn} {cells : List Value} {row filled : Row} (hrow : row.names.Nodup)
    (h : ofCells columns cells row = .ok filled) : filled.names.Nodup := by
  induction columns generalizing cells row with
  | nil =>
    cases (ofCells_nil cells row).symm.trans h
    exact hrow
  | cons c columns ih =>
    obtain _ | ⟨cell, cells⟩ := cells
    · cases h
      exact hrow
    · rw [ofCells, Result.bind_ok_iff] at h
      obtain ⟨value, -, h⟩ := h
      refine ih ?_ h
      rw [names_insert]
      split
      · exact hrow
      · next hnew =>
        refine List.nodup_append.mpr ⟨hrow, by simp, fun a ha b hb heq => ?_⟩
        rw [heq, List.mem_singleton.mp hb] at ha
        exact hnew ha

theorem names_reads {row : Row} {places : List (WireColumn × Value)}
    (h : List.Forall₂ WireColumn.Reads row places) : row.names = places.map fun place => place.1.name :=
  Result.forall₂_map_iff.mp (h.imp fun _ _ hread => hread.1)

theorem zip_names {columns : List WireColumn} {cells : List Value} (hlen : cells.length = columns.length) :
    (columns.zip cells).map (fun place => place.1.name) = columns.map (·.name) := by
  have hcolumns : ((columns.zip cells).map Prod.fst).map (·.name) = columns.map (·.name) :=
    congrArg (List.map (·.name)) (List.map_fst_zip (Nat.le_of_eq hlen.symm))
  rw [List.map_map] at hcolumns
  exact hcolumns

variable {columns : List WireColumn} {cells : List Value} {row : Row}

/-- The row of an answer has all its cells exactly when no two columns have one name. -/
theorem ofCells_reads_iff (hlen : cells.length = columns.length) (h : ofCells columns cells [] = .ok row) :
    List.Forall₂ WireColumn.Reads row (columns.zip cells) ↔ (columns.map (·.name)).Nodup := by
  refine ⟨fun hreads => ?_, fun hdistinct => ?_⟩
  · have hnone : (names []).Nodup := List.nodup_nil
    rw [← zip_names hlen, ← names_reads hreads]
    exact ofCells_nodup hnone h
  · have hall : (columns.map (·.name)).filter (fun _ => true) = columns.map (·.name) := List.filter_true _
    obtain ⟨added, hrow, hadded⟩ := ofCells_filter hlen h (hall.symm ▸ hdistinct) (by simp [names])
    simp only [List.filter_true, List.nil_append] at hrow hadded
    rw [hrow]
    exact hadded

/-- The names of a row are those of the columns, as far as these are distinct. -/
theorem ofCells_names_filter {p : String → Bool} (hlen : cells.length = columns.length)
    (h : ofCells columns cells [] = .ok row) (hdistinct : ((columns.map (·.name)).filter p).Nodup) :
    row.names.filter p = (columns.map (·.name)).filter p := by
  obtain ⟨added, hrow, hadded⟩ := ofCells_filter hlen h hdistinct (by simp [names])
  have hentries : names (List.filter (fun entry => p entry.1) row) = names added := congrArg names hrow
  rw [names_reads hadded] at hentries
  rw [← zip_names hlen, names, List.filter_map, List.filter_map]
  exact hentries

end Row

/-! ## Associations by name -/

/-- The column of an association in an answer. -/
def Join.column (j : Join Criteria) : String := Identifier.truncate j.name

namespace Schema

/-- The rows of an association are those of its column. -/
def Taken (s : Schema) (row : Row) (association : String × List Row) (j : Join Criteria) : Prop :=
  association.1 = j.name ∧
    Table.associationRows (s.get? j.child) ((row.get? j.column).getD .null) = .ok association.2

/-- Joins with their places, of several with one name only the first. -/
def named (joins : List (Join Criteria)) : List (Join Criteria × Nat) :=
  joins.zipIdx.filter fun (j, place) => ∀ earlier ∈ joins.take place, earlier.name ≠ j.name

/-- The join at a place does not have its column for itself: a join before it has taken the column, or one behind it
comes back to the name. -/
def Shared (joins : List (Join Criteria)) (e : Join Criteria × Nat) : Prop :=
  (∃ earlier ∈ joins.take e.2, earlier.column = e.1.column) ∨ ∃ later ∈ joins.drop (e.2 + 1), later.name = e.1.name

/-- The association of the join at a place has the rows of its column, and none where that is shared. -/
structure Associated (s : Schema) (row : Row) (joins : List (Join Criteria)) (association : String × List Row)
    (e : Join Criteria × Nat) : Prop where
  name : association.1 = e.1.name
  own : ¬ Shared joins e →
    Table.associationRows (s.get? e.1.child) ((row.get? e.1.column).getD .null) = .ok association.2
  shared : Shared joins e → association.2 = []

variable {s : Schema} {row : Row} {j : Join Criteria} {joins : List (Join Criteria)} {e : Join Criteria × Nat}
  {associations : List (String × List Row)} {r : Record}

theorem mem_named {e : Join Criteria × Nat} : e ∈ named joins ↔
    joins[e.2]? = some e.1 ∧ ∀ earlier ∈ joins.take e.2, earlier.name ≠ e.1.name := by
  rw [named, List.mem_filter, decide_eq_true_eq]
  exact and_congr_left fun _ => List.mk_mem_zipIdx_iff_getElem?

theorem named_lt {e : Join Criteria × Nat} (h : e ∈ named joins) : e.2 < joins.length :=
  (List.getElem?_eq_some_iff.mp (mem_named.mp h).1).1

theorem named_mem {e : Join Criteria × Nat} (h : e ∈ named joins) : e.1 ∈ joins :=
  List.mem_of_getElem? (mem_named.mp h).1

/-- Every name is that of a join which has it first. -/
theorem exists_named {place : Nat} (h : joins[place]? = some j) :
    ∃ e ∈ named joins, e.1.name = j.name ∧ e.2 ≤ place := by
  induction place using Nat.strongRecOn generalizing j with
  | _ place ih =>
    by_cases hfirst : ∀ earlier ∈ joins.take place, earlier.name ≠ j.name
    · exact ⟨(j, place), mem_named.mpr ⟨h, hfirst⟩, rfl, Nat.le_refl _⟩
    · push Not at hfirst
      obtain ⟨earlier, hearlier, hname⟩ := hfirst
      obtain ⟨before, hbefore⟩ := List.mem_iff_getElem?.mp hearlier
      rw [List.getElem?_take] at hbefore
      split at hbefore
      · next hlt =>
        obtain ⟨e, he, hsame, hle⟩ := ih before hlt hbefore
        exact ⟨e, he, hsame.trans hname, Nat.le_trans hle (Nat.le_of_lt hlt)⟩
      · cases hbefore

/-- Joins with columns of their own share none. -/
theorem not_shared (hdistinct : (joins.map Join.column).Nodup) (he : joins[e.2]? = some e.1) : ¬ Shared joins e := by
  obtain ⟨hlt, hget⟩ := List.getElem?_eq_some_iff.mp he
  have hsplit : joins = joins.take e.2 ++ e.1 :: joins.drop (e.2 + 1) := by
    rw [← hget, List.getElem_cons_drop, List.take_append_drop]
  rw [hsplit, List.map_append, List.map_cons] at hdistinct
  obtain ⟨-, hbehind, hapart⟩ := List.nodup_append.mp hdistinct
  rintro (⟨earlier, hearlier, hcolumn⟩ | ⟨later, hlater, hname⟩)
  · exact hapart _ (List.mem_map_of_mem hearlier) _ List.mem_cons_self hcolumn
  · exact (List.nodup_cons.mp hbehind).1 (List.mem_map.mpr ⟨later, hlater, congrArg Identifier.truncate hname⟩)

/-- Where two joins have one column, some name has no column for itself. -/
theorem exists_shared (hrepeated : ¬ (joins.map Join.column).Nodup) : ∃ e ∈ named joins, Shared joins e := by
  contrapose! hrepeated
  rw [List.nodup_iff_pairwise_ne, List.pairwise_map, List.pairwise_iff_getElem]
  intro first second hfirst hsecond hlt hcolumn
  obtain ⟨e, he, hname, hle⟩ := exists_named (List.getElem?_eq_getElem hsecond)
  refine hrepeated e he ?_
  rcases Nat.lt_or_eq_of_le hle with hbefore | hsame
  · exact .inr ⟨_, List.mem_drop_iff_getElem.mpr ⟨second - (e.2 + 1), by omega, by congr 1; omega⟩, hname.symm⟩
  · have hat := (mem_named.mp he).1
    rw [hsame, List.getElem?_eq_getElem hsecond] at hat
    exact .inl ⟨_, List.mem_take_iff_getElem.mpr ⟨first, by omega, rfl⟩, hcolumn.trans (congrArg _ (Option.some.inj hat))⟩

theorem named_concat (joins : List (Join Criteria)) (j : Join Criteria) :
    named (joins ++ [j]) = named joins ++ if ∃ k ∈ joins, k.name = j.name then [] else [(j, joins.length)] := by
  have hbefore : joins.zipIdx.filter (fun (k, place) => ∀ earlier ∈ (joins ++ [j]).take place, earlier.name ≠ k.name) =
      named joins := by
    refine List.filter_congr fun ⟨k, place⟩ hk => ?_
    have hlt := (List.getElem?_eq_some_iff.mp (List.mk_mem_zipIdx_iff_getElem?.mp hk)).1
    simp only [List.take_append_of_le_length (Nat.le_of_lt hlt)]
  rw [named, List.zipIdx_append, List.filter_append, hbefore, Nat.zero_add, List.zipIdx_singleton, List.filter_cons,
    List.filter_nil]
  by_cases hname : ∃ k ∈ joins, k.name = j.name
  · rw [if_pos hname]
    simpa using hname
  · rw [if_neg hname]
    simpa using hname

theorem shared_concat {e : Join Criteria × Nat} {j : Join Criteria} (h : e.2 < joins.length) :
    Shared (joins ++ [j]) e ↔ Shared joins e ∨ j.name = e.1.name := by
  rw [Shared, Shared, List.take_append_of_le_length (Nat.le_of_lt h), List.drop_append_of_le_length h, or_assoc]
  simp [or_and_right, exists_or]

theorem shared_last {j : Join Criteria} :
    Shared (joins ++ [j]) (j, joins.length) ↔ j.column ∈ joins.map Join.column := by
  simp [Shared]

/-- The row of which the columns of joins were taken. -/
def Left (joins : List (Join Criteria)) (row left : Row) : Prop :=
  ∀ column, left.get? column = if column ∈ joins.map Join.column then none else row.get? column

theorem Left.erase {left : Row} (h : Left joins row left) (j : Join Criteria) :
    Left (joins ++ [j]) row (left.erase j.column) := by
  intro column
  by_cases hcolumn : column = j.column
  · rw [hcolumn, Row.get?_erase_self, if_pos (by simp)]
  · rw [Row.get?_erase hcolumn, h column]
    simp [hcolumn]

/-- A join of another name changes nothing for an association before it. -/
theorem Associated.concat {association : String × List Row} {e : Join Criteria × Nat} {j : Join Criteria}
    (h : s.Associated row joins association e) (hlt : e.2 < joins.length) (hother : j.name ≠ e.1.name) :
    s.Associated row (joins ++ [j]) association e := by
  have hshared : Shared (joins ++ [j]) e ↔ Shared joins e := (shared_concat hlt).trans (or_iff_left hother)
  exact ⟨h.name, fun hown => h.own (mt hshared.mpr hown), fun hboth => h.shared (hshared.mp hboth)⟩

/-- Setting the rows of one more join keeps associations those of the joins so far. -/
theorem associated_set {left : Row} {j : Join Criteria} {rows : List Row} (hleft : Left joins row left)
    (h : List.Forall₂ (s.Associated row joins) associations (named joins))
    (hrows : Table.associationRows (s.get? j.child) ((left.get? j.column).getD .null) = .ok rows) :
    List.Forall₂ (s.Associated row (joins ++ [j])) (setAssociation associations j.name rows) (named (joins ++ [j])) := by
  have hnames : associations.map (·.1) = (named joins).map (·.1.name) :=
    Result.forall₂_map_iff.mp (h.imp fun _ _ ha => ha.name)
  have hpresent : associations.any (·.1 == j.name) = true ↔ ∃ k ∈ joins, k.name = j.name := by
    have hmem : associations.any (·.1 == j.name) = true ↔ j.name ∈ associations.map (·.1) := by
      simp only [List.any_eq_true, beq_iff_eq, List.mem_map]
    rw [hmem, hnames, List.mem_map]
    refine ⟨fun ⟨e, he, hname⟩ => ⟨e.1, named_mem he, hname⟩, fun ⟨k, hk, hname⟩ => ?_⟩
    obtain ⟨place, hplace⟩ := List.mem_iff_getElem?.mp hk
    obtain ⟨e, he, hsame, -⟩ := exists_named hplace
    exact ⟨e, he, hsame.trans hname⟩
  have hold := ((List.forall₂_and_left _ _).mpr ⟨fun _ he => he, h.flip⟩).flip
  have hnone : j.column ∈ joins.map Join.column → rows = [] := by
    intro htaken
    rw [hleft, if_pos htaken] at hrows
    exact (Except.ok.inj hrows).symm
  rw [named_concat, setAssociation]
  by_cases hname : ∃ k ∈ joins, k.name = j.name
  · rw [if_pos hname, if_pos (hpresent.mpr hname), List.append_nil]
    obtain ⟨k, hk, hsame⟩ := hname
    -- Another join of the name has the same column, so nothing is left to read there.
    obtain rfl := hnone (List.mem_map.mpr ⟨k, hk, congrArg Identifier.truncate hsame⟩)
    refine List.forall₂_map_left_iff.mpr (hold.imp fun ⟨name, _⟩ e ⟨he, ha⟩ => ?_)
    by_cases hset : name = j.name
    · have hshared : Shared (joins ++ [j]) e := (shared_concat (named_lt he)).mpr (.inr (hset.symm.trans ha.name))
      simp only [hset, beq_self_eq_true, if_true]
      exact ⟨hset.symm.trans ha.name, fun hown => absurd hshared hown, fun _ => rfl⟩
    · simp only [beq_iff_eq, hset, if_false]
      exact ha.concat (named_lt he) fun heq => hset (ha.name.trans heq.symm)
  · rw [if_neg hname, if_neg (mt hpresent.mp hname)]
    have hlast : s.Associated row (joins ++ [j]) (j.name, rows) (j, joins.length) := by
      refine ⟨rfl, fun hown => ?_, fun hshared => hnone (shared_last.mp hshared)⟩
      rw [hleft, if_neg (mt shared_last.mpr hown)] at hrows
      exact hrows
    refine List.rel_append (hold.imp fun a e ⟨he, ha⟩ => ?_) (.cons hlast .nil)
    exact ha.concat (named_lt he) fun heq => hname ⟨e.1, named_mem he, heq.symm⟩

/-- A join sets its association from its column and takes the column out of the row. -/
theorem takeAssociations_cons (h : s.takeAssociations row associations (j :: joins) = .ok r) :
    ∃ rows, Table.associationRows (s.get? j.child) ((row.get? j.column).getD .null) = .ok rows ∧
      s.takeAssociations (row.erase j.column) (setAssociation associations j.name rows) joins = .ok r :=
  Result.bind_ok_iff.mp h

theorem takeAssociations_fields (h : s.takeAssociations row associations joins = .ok r) :
    r.fields = List.filter (fun entry => entry.1 ∉ joins.map Join.column) row := by
  induction joins generalizing row associations with
  | nil =>
    cases h
    simp
  | cons j joins ih =>
    obtain ⟨rows, -, h⟩ := takeAssociations_cons h
    rw [ih h, Row.erase, List.filter_filter]
    refine List.filter_congr fun entry _ => ?_
    rw [List.map_cons]
    by_cases hentry : entry.1 = j.column <;> simp [hentry]

theorem takeAssociations_associated {left : Row} {before : List (Join Criteria)} {r : Record}
    (hleft : Left before row left) (hbefore : List.Forall₂ (s.Associated row before) associations (named before))
    (h : s.takeAssociations left associations joins = .ok r) :
    List.Forall₂ (s.Associated row (before ++ joins)) r.associations (named (before ++ joins)) := by
  induction joins generalizing before left associations with
  | nil =>
    cases h
    rw [List.append_nil]
    exact hbefore
  | cons j joins ih =>
    obtain ⟨rows, hrows, h⟩ := takeAssociations_cons h
    rw [List.append_cons]
    exact ih (hleft.erase j) (associated_set hleft hbefore hrows) h

theorem Associated.unique {a b : String × List Row} {e : Join Criteria × Nat} (ha : s.Associated row joins a e)
    (hb : s.Associated row joins b e) : a = b := by
  refine Prod.ext (ha.name.trans hb.name.symm) ?_
  by_cases hshared : Shared joins e
  · exact (ha.shared hshared).trans (hb.shared hshared).symm
  · exact Except.ok.inj ((ha.own hshared).symm.trans (hb.own hshared))

/-! ## Records -/

variable {table : String}

theorem record_ok (h : s.record table joins row = .ok r) :
    ∃ taken, s.takeAssociations row [] (joins.filter (·.select)) = .ok taken ∧
      r = { taken with fields := Table.castRow (s.get? table) taken.fields } := by
  rw [record, Result.bind_ok_iff] at h
  obtain ⟨taken, htaken, h⟩ := h
  exact ⟨taken, htaken, (Result.pure_ok_iff.mp h).symm⟩

/-- The fields of a record are the columns of its row that have the name of no association. -/
theorem record_fields (h : s.record table joins row = .ok r) :
    r.fields = Table.castRow (s.get? table)
      (List.filter (fun entry => entry.1 ∉ (joins.filter (·.select)).map Join.column) row) := by
  obtain ⟨taken, htaken, rfl⟩ := record_ok h
  exact congrArg (Table.castRow (s.get? table)) (takeAssociations_fields htaken)

/-- The associations of a record are those of its selected joins, by name. -/
theorem record_associated (h : s.record table joins row = .ok r) :
    List.Forall₂ (s.Associated row (joins.filter (·.select))) r.associations (named (joins.filter (·.select))) := by
  obtain ⟨taken, htaken, rfl⟩ := record_ok h
  have hwhole : Left [] row row := fun _ => rfl
  have hall := takeAssociations_associated hwhole .nil htaken
  exact hall

/-- Selected joins with columns of their own are the associations of a record, each with its rows. -/
theorem record_associations (hdistinct : ((joins.filter (·.select)).map Join.column).Nodup)
    (h : s.record table joins row = .ok r) :
    List.Forall₂ (s.Taken row) r.associations (joins.filter (·.select)) := by
  have hall := record_associated h
  generalize joins.filter (·.select) = selected at hdistinct hall ⊢
  have hnamed : named selected = selected.zipIdx := by
    refine List.filter_eq_self.mpr fun e he => decide_eq_true fun earlier hearlier hname => ?_
    exact not_shared hdistinct (List.mk_mem_zipIdx_iff_getElem?.mp he)
      (.inl ⟨earlier, hearlier, congrArg Identifier.truncate hname⟩)
  have hplaced := ((List.forall₂_and_left _ _).mpr ⟨fun _ he => he, hall.flip⟩).flip
  rw [hnamed] at hplaced
  rw [← List.zipIdx_map_fst 0 selected, List.forall₂_map_right_iff]
  exact hplaced.imp fun a e ⟨he, ha⟩ =>
    ⟨ha.name, ha.own (not_shared hdistinct (List.mk_mem_zipIdx_iff_getElem?.mp he))⟩

/-- Where two selected joins have one column, a record has an association without rows, whatever is in its row. -/
theorem record_shared (hshared : ¬ ((joins.filter (·.select)).map Join.column).Nodup)
    (h : s.record table joins row = .ok r) : ∃ j ∈ joins.filter (·.select), (j.name, []) ∈ r.associations := by
  obtain ⟨e, he, hboth⟩ := exists_shared hshared
  have hall := (List.forall₂_and_left _ _).mpr ⟨fun _ ha => ha, record_associated h⟩
  obtain ⟨a, hmem, ha⟩ := Result.forall_of_forall₂ hall (fun a e h => ⟨a, h⟩ : ∀ a e, _ → ∃ a, a ∈ r.associations ∧
    s.Associated row (joins.filter (·.select)) a e) e he
  have hentry : a = (e.1.name, []) := Prod.ext ha.name (ha.shared hboth)
  exact ⟨e.1, named_mem he, hentry ▸ hmem⟩

end Schema

theorem Table.castRow_names (table : Option Table) (row : Row) : Row.names (castRow table row) = row.names := by
  rw [castRow, Row.names, Row.names, List.map_map]
  refine List.map_congr_left fun entry _ => ?_
  simp only [Function.comp_apply]
  split <;> rfl

end SqlAdapter
