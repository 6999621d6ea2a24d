/-
Which records come out of the rows of a statement, and when none do.

The caster goes over the rows once, with the keys it has seen so far in hand.
What it keeps can be said without them: `firsts` are the items with a key that
no item before them has, and `distinctBy_eq_firsts` is the invariant of the loop,
that the keys in hand are those of the items behind it. Every row is cast on its
own, before its key is looked at, so a row that would be dropped can still fail.
The only thing that fails is a column of a selected association that has no list
of objects in it (`Table.Listed`), and each column is looked at once, by the
first join that has its name (`Schema.takeAssociations_fails_iff`).
-/
import SqlAdapter.Proofs.Record.Documents

namespace SqlAdapter

/-! ## The first of each key -/

section Firsts

variable {α : Type} {key : α → Option String} {seen : List String} {before items : List α}

/-- The item at a place has no key, or one that no item before it has. -/
def IsFirst (key : α → Option String) (items : List α) (item : α) (place : Nat) : Prop :=
  key item = none ∨ ∀ earlier ∈ items.take place, key earlier ≠ key item

instance (key : α → Option String) (items : List α) (item : α) (place : Nat) :
    Decidable (IsFirst key items item place) := inferInstanceAs (Decidable (_ ∨ _))

/-- The items without those whose key an item before them has. -/
def firsts (key : α → Option String) (items : List α) : List α :=
  (items.zipIdx.filter fun (item, place) => IsFirst key items item place).map (·.1)

theorem isFirst_behind {item : α} {k : String} (hkey : key item = some k) :
    IsFirst key (before ++ item :: items) item before.length ↔ ¬ ∃ earlier ∈ before, key earlier = some k := by
  rw [IsFirst, List.take_left, hkey]
  simp

/-- With the keys of the items behind it in hand, the loop keeps what is first among all of them. -/
theorem distinctBy_behind (hseen : ∀ k, k ∈ seen ↔ ∃ x ∈ before, key x = some k) :
    distinctBy key seen items = ((items.zipIdx before.length).filter fun (item, place) =>
      IsFirst key (before ++ items) item place).map (·.1) := by
  induction items generalizing before seen with
  | nil => rfl
  | cons item items ih =>
    have hsplit : before ++ item :: items = (before ++ [item]) ++ items := by simp
    have hlength : before.length + 1 = (before ++ [item]).length := by simp
    have hlast : ∀ k, (∃ x ∈ before ++ [item], key x = some k) ↔ k ∈ seen ∨ key item = some k := by
      simp [hseen, or_and_right, exists_or]
    rw [List.zipIdx_cons, List.filter_cons]
    cases hkey : key item with
    | none =>
      have hkept : IsFirst key (before ++ item :: items) item before.length := .inl hkey
      have hstill : ∀ k, k ∈ seen ↔ ∃ x ∈ before ++ [item], key x = some k := by
        intro k
        rw [hlast, hkey, or_iff_left nofun]
      rw [distinctBy_keyless hkey, ih hstill, if_pos (decide_eq_true hkept), ← hlength, ← hsplit, List.map_cons]
    | some k =>
      by_cases hk : k ∈ seen
      · have hdropped : ¬ IsFirst key (before ++ item :: items) item before.length := fun h =>
          (isFirst_behind hkey).mp h ((hseen k).mp hk)
        have hstill : ∀ l, l ∈ seen ↔ ∃ x ∈ before ++ [item], key x = some l := by
          intro l
          rw [hlast, hkey, Option.some.injEq]
          exact ⟨.inl, fun h => h.elim id fun hl => hl ▸ hk⟩
        rw [distinctBy_repeated hkey hk, ih hstill, if_neg (by simpa using hdropped), ← hlength, ← hsplit]
      · have hkept : IsFirst key (before ++ item :: items) item before.length :=
          (isFirst_behind hkey).mpr fun h => hk ((hseen k).mpr h)
        have hmore : ∀ l, l ∈ k :: seen ↔ ∃ x ∈ before ++ [item], key x = some l := by
          intro l
          rw [hlast, hkey, Option.some.injEq, List.mem_cons, or_comm, eq_comm]
        rw [distinctBy_new hkey hk, ih hmore, if_pos (decide_eq_true hkept), ← hlength, ← hsplit, List.map_cons]

theorem distinctBy_eq_firsts (key : α → Option String) (items : List α) :
    distinctBy key [] items = firsts key items := by
  have hnone : ∀ k, k ∈ [] ↔ ∃ x ∈ ([] : List α), key x = some k := by simp
  exact distinctBy_behind hnone

theorem distinctBy_all_keyless (h : ∀ item ∈ items, key item = none) : distinctBy key seen items = items := by
  induction items with
  | nil => rfl
  | cons item items ih =>
    obtain ⟨hitem, hitems⟩ := List.forall_mem_cons.mp h
    rw [distinctBy_keyless hitem, ih hitems]

/-- Without keys, all items stay. -/
theorem firsts_keyless (h : ∀ item ∈ items, key item = none) : firsts key items = items := by
  rw [← distinctBy_eq_firsts, distinctBy_all_keyless h]

theorem firsts_singleton (key : α → Option String) (item : α) : firsts key [item] = [item] := by
  simp [firsts, IsFirst]

/-- Of two items with one key, the first is left. -/
theorem firsts_pair {first second : α} (hkey : key first ≠ none) (h : key second = key first) :
    firsts key [first, second] = [first] := by
  simp [firsts, IsFirst, h, hkey]

theorem firsts_map {β : Type} (f : β → α) (ys : List β) :
    (firsts (fun y => key (f y)) ys).map f = firsts key (ys.map f) := by
  rw [← distinctBy_eq_firsts, ← distinctBy_eq_firsts, distinctBy_map]

end Firsts

/-! ## Columns of associations -/

namespace Table

/-- A value holds a document, as JSON or as its text. -/
inductive Holds : Value → Json → Prop where
  | json (document : Json) : Holds (.json document) document
  | text {text : String} {document : Json} (h : Json.read? text = some document) : Holds (.string text) document

/-- The column of an association lists items; NULL and a null document list none. -/
inductive Lists : Value → List Json → Prop where
  | null : Lists .null []
  | nothing {column : Value} (h : Holds column .null) : Lists column []
  | items {column : Value} {items : List Json} (h : Holds column (.array items)) : Lists column items

/-- The column of an association lists objects, with nulls among them. -/
structure Listed (column : Value) (items : List Json) : Prop where
  lists : Lists column items
  objects : ∀ item ∈ items, item = .null ∨ ∃ fields, item = .object fields

theorem associationItems_ok_iff {column : Value} {items : List Json} :
    associationItems column = .ok items ↔ Lists column items := by
  constructor
  · intro h
    unfold associationItems at h
    split at h
    · cases h
      exact .null
    · cases h
      exact .nothing (.json _)
    · cases h
      exact .items (.json _)
    · split at h
      · cases h
      · next hread =>
        cases h
        exact .items (.text hread)
      · next hread =>
        cases h
        exact .nothing (.text hread)
      · cases h
    · cases h
  · rintro (_ | ⟨_ | hread⟩ | ⟨_ | hread⟩)
    · rfl
    · rfl
    · simp only [associationItems, hread]
    · rfl
    · simp only [associationItems, hread]

theorem itemRows_ok_iff {items : List Json} {rows : List Row} : itemRows items = .ok rows ↔
    (∀ item ∈ items, item = .null ∨ ∃ fields, item = .object fields) ∧
      rows = (items.filterMap Json.fields?).map elementRow := by
  induction items generalizing rows with
  | nil => simp [itemRows, eq_comm]
  | cons item items ih =>
    cases item with
    | null =>
      rw [itemRows, ih, List.forall_mem_cons, List.filterMap_cons_none rfl]
      simp
    | object fields =>
      have hcons : (Json.object fields :: items).filterMap Json.fields? = fields :: items.filterMap Json.fields? := rfl
      rw [itemRows, List.forall_mem_cons, hcons, List.map_cons]
      simp only [Result.bind_ok_iff, ih, Result.pure_ok_iff]
      constructor
      · rintro ⟨_, ⟨hobjects, rfl⟩, rfl⟩
        exact ⟨⟨.inr ⟨fields, rfl⟩, hobjects⟩, rfl⟩
      · rintro ⟨⟨-, hobjects⟩, rfl⟩
        exact ⟨_, ⟨hobjects, rfl⟩, rfl⟩
    | bool | number | string | array => simp [itemRows]

/-- The rows of an association are those of its objects, each cast on its own, without those that repeat a key. -/
theorem associationRows_ok_iff {child : Option Table} {column : Value} {kept : List Row} :
    associationRows child column = .ok kept ↔ ∃ items, Listed column items ∧
      kept = firsts (identityOf child) ((items.filterMap Json.fields?).map fun fields =>
        castRow child (elementRow fields)) := by
  simp only [associationRows, Result.bind_ok_iff, associationItems_ok_iff, itemRows_ok_iff, Result.pure_ok_iff,
    distinctRows, distinctBy_eq_firsts]
  constructor
  · rintro ⟨items, hlists, _, ⟨hobjects, rfl⟩, rfl⟩
    rw [List.map_map]
    exact ⟨items, ⟨hlists, hobjects⟩, rfl⟩
  · rintro ⟨items, ⟨hlists, hobjects⟩, rfl⟩
    refine ⟨items, hlists, _, ⟨hobjects, rfl⟩, ?_⟩
    rw [List.map_map]
    rfl

theorem associationRows_fails_iff {child : Option Table} {column : Value} :
    Result.Fails (associationRows child column) ↔ ¬ ∃ items, Listed column items := by
  rw [Result.fails_iff, ← not_exists, not_iff_not]
  simp only [associationRows_ok_iff]
  exact ⟨fun ⟨_, items, hlisted, _⟩ => ⟨items, hlisted⟩, fun ⟨items, hlisted⟩ => ⟨_, items, hlisted, rfl⟩⟩

/-- A row is without an identity when its key is absent or NULL. -/
theorem identityOf_none_iff {table : Option Table} {row : Row} :
    identityOf table row = none ↔ ∀ value, row.get? (keyOf table) = some value → value = .null := by
  rw [identityOf]
  cases row.get? (keyOf table) with
  | none => simp
  | some value => cases value <;> simp [Value.identityKey?, Value.isNull]

end Table

/-! ## Records -/

namespace Schema

variable {s : Schema} {table : String} {row : Row} {rows : List Row} {joins : List (Join Criteria)}
  {associations : List (String × List Row)}

/-- The column of a join is in the row, and no list of objects. -/
def Unlisted (row : Row) (j : Join Criteria) : Prop :=
  ∃ column, row.get? j.column = some column ∧ ¬ ∃ items, Table.Listed column items

theorem associationRows_unlisted {j : Join Criteria} :
    Result.Fails (Table.associationRows (s.get? j.child) ((row.get? j.column).getD .null)) ↔ Unlisted row j := by
  rw [Table.associationRows_fails_iff, Unlisted]
  cases row.get? j.column with
  | none => simpa using ⟨[], Table.Lists.null, by simp⟩
  | some column => simp

/-- Columns are taken out one after another, so a join whose column is gone already has nothing to fail with; but then
its column was read before. -/
theorem takeAssociations_fails_iff : Result.Fails (s.takeAssociations row associations joins) ↔
    ∃ j ∈ joins, Unlisted row j := by
  induction joins generalizing row associations with
  | nil => exact iff_of_false (Result.not_fails_ok _) fun ⟨_, hj, _⟩ => nomatch hj
  | cons j joins ih =>
    have hothers : ¬ Unlisted row j → ∀ k, Unlisted (row.erase j.column) k ↔ Unlisted row k := by
      intro hj k
      by_cases hk : k.column = j.column
      · rw [Unlisted, Unlisted, hk, Row.get?_erase_self]
        exact iff_of_false (by simp) hj
      · rw [Unlisted, Unlisted, Row.get?_erase hk]
    have hcons : s.takeAssociations row associations (j :: joins) =
        (Table.associationRows (s.get? j.child) ((row.get? j.column).getD .null) >>= fun rows =>
          s.takeAssociations (row.erase j.column) (setAssociation associations j.name rows) joins) := rfl
    rw [hcons, Result.fails_bind_iff, associationRows_unlisted, List.exists_mem_cons_iff]
    by_cases hj : Unlisted row j
    · exact iff_of_true (.inl hj) (.inl hj)
    · obtain ⟨rows, hrows⟩ | hfails := Result.ok_or_fails
        (Table.associationRows (s.get? j.child) ((row.get? j.column).getD .null))
      · rw [or_iff_right hj, or_iff_right hj]
        simp only [ih, hothers hj]
        exact ⟨fun ⟨_, _, h⟩ => h, fun h => ⟨rows, hrows, h⟩⟩
      · exact absurd (associationRows_unlisted.mp hfails) hj

theorem record_fails_iff : Result.Fails (s.record table joins row) ↔ ∃ j ∈ joins, j.select = true ∧ Unlisted row j := by
  have hrecord : s.record table joins row = (s.takeAssociations row [] (joins.filter (·.select)) >>= fun r =>
      pure { r with fields := Table.castRow (s.get? table) r.fields }) := rfl
  rw [hrecord, Result.fails_bind_pure_iff, takeAssociations_fails_iff]
  simp only [List.mem_filter, and_assoc]

/-- The text by which a record of the table is told apart. -/
def identityIn (s : Schema) (table : String) (r : Record) : Option String := Table.identityOf (s.get? table) r.fields

theorem records_eq (s : Schema) (table : String) (rows : List Row) (joins : List (Join Criteria)) :
    s.records table rows joins = (rows.mapM (s.record table joins) >>= fun casts =>
      pure (firsts (s.identityIn table) casts)) := by
  simp only [records, distinctBy_eq_firsts]
  rfl

theorem records_ok_iff {records : List Record} : s.records table rows joins = .ok records ↔ ∃ casts,
    List.Forall₂ (fun row r => s.record table joins row = .ok r) rows casts ∧
      records = firsts (s.identityIn table) casts := by
  rw [records_eq, Result.bind_ok_iff]
  refine exists_congr fun casts => and_congr ⟨Result.mapM_ok, Result.mapM_of_forall₂⟩ ?_
  rw [Result.pure_ok_iff, eq_comm]

/-- There are records unless a row has no list of objects in the column of a selected association. -/
theorem records_fails_iff : Result.Fails (s.records table rows joins) ↔
    ∃ row ∈ rows, ∃ j ∈ joins, j.select = true ∧ Unlisted row j := by
  rw [records_eq, Result.fails_bind_pure_iff, Result.fails_mapM_iff]
  simp only [record_fails_iff]

/-- The record of a row on its own. Every selected join has a list of objects in its column or nothing; the fields are
the columns that no selected join has, cast by the table, and the associations are those of the selected joins. -/
structure Casts (s : Schema) (table : String) (joins : List (Join Criteria)) (row : Row) (r : Record) : Prop where
  listed : ∀ j ∈ joins, j.select = true → ¬ Unlisted row j
  fields : r.fields = Table.castRow (s.get? table)
    (List.filter (fun entry => entry.1 ∉ (joins.filter (·.select)).map Join.column) row)
  associations : List.Forall₂ (s.Associated row (joins.filter (·.select))) r.associations
    (named (joins.filter (·.select)))

theorem casts_of_record {r : Record} (h : s.record table joins row = .ok r) : s.Casts table joins row r := by
  refine ⟨fun j hj hselect hunlisted => ?_, record_fields h, record_associated h⟩
  exact Result.not_fails_ok r (h ▸ record_fails_iff.mpr ⟨j, hj, hselect, hunlisted⟩)

theorem Casts.unique {r r' : Record} (h : s.Casts table joins row r) (h' : s.Casts table joins row r') : r = r' := by
  have hone : Relator.LeftUnique (s.Associated row (joins.filter (·.select))) := fun _ _ _ => Associated.unique
  have hfields : r.fields = r'.fields := h.fields.trans h'.fields.symm
  have hassociations : r.associations = r'.associations :=
    List.left_unique_forall₂' hone h.associations h'.associations
  obtain ⟨fields, associations⟩ := r
  obtain ⟨fields', associations'⟩ := r'
  obtain rfl : fields = fields' := hfields
  obtain rfl : associations = associations' := hassociations
  rfl

/-- A record is the one that a row is cast to exactly when it is the record of the row: rows in whose columns there are
lists have a record, and only one is described. -/
theorem casts_iff {r : Record} : s.Casts table joins row r ↔ s.record table joins row = .ok r := by
  refine ⟨fun h => ?_, casts_of_record⟩
  have hmade : ¬ Result.Fails (s.record table joins row) := by
    rw [record_fails_iff]
    exact fun ⟨j, hj, hselect, hunlisted⟩ => h.listed j hj hselect hunlisted
  obtain ⟨made, hrecord⟩ := (Result.ok_or_fails _).resolve_right hmade
  rw [hrecord, (casts_of_record hrecord).unique h]

/-- The records of a statement are those of its rows, each cast on its own, without those whose identity an earlier one
has, and so are the rows of an association. Only absent keys and NULL are no identity. There are no records exactly when
some row, dropped or not, has no list of objects in the column of a selected association. -/
theorem records_firsts (s : Schema) (table : String) (joins : List (Join Criteria)) :
    (∀ rows records, s.records table rows joins = .ok records ↔ ∃ casts,
      List.Forall₂ (s.Casts table joins) rows casts ∧ records = firsts (s.identityIn table) casts) ∧
    (∀ rows, Result.Fails (s.records table rows joins) ↔
      ∃ row ∈ rows, ∃ j ∈ joins, j.select = true ∧ Unlisted row j) ∧
    (∀ child column kept, Table.associationRows child column = .ok kept ↔ ∃ items, Table.Listed column items ∧
      kept = firsts (Table.identityOf child) ((items.filterMap Json.fields?).map fun fields =>
        Table.castRow child (Table.elementRow fields))) ∧
    (∀ child column, Result.Fails (Table.associationRows child column) ↔ ¬ ∃ items, Table.Listed column items) ∧
    ∀ child row, Table.identityOf child row = none ↔
      ∀ value, row.get? (Table.keyOf child) = some value → value = .null := by
  refine ⟨fun rows records => ?_, fun rows => records_fails_iff, fun _ _ _ => Table.associationRows_ok_iff,
    fun _ _ => Table.associationRows_fails_iff, fun _ _ => Table.identityOf_none_iff⟩
  have hcasts : s.Casts table joins = fun row r => s.record table joins row = .ok r := by
    funext row r
    exact propext casts_iff
  rw [hcasts]
  exact records_ok_iff

/-- The posts of users. -/
def usersPosts : Join Criteria := .plain "users" "id" "posts" "user_id" "posts"

/-- The record of a user without any posts. -/
def postless (fields : Row) : Record := ⟨fields, [("posts", [])]⟩

/-- The record of a user with one post. -/
def posted : Record := ⟨[("id", .int 1)], [("posts", [[("title", .string "a")]])]⟩

/-- The second row repeats the first one's key and is left out, while of the last two one has NULL for a key and one has
none. Had the second row anything but a list in its column, there would be no records at all. -/
theorem records_firsts_repeated :
    Schema.empty.records "users"
      [[("id", .int 1), ("posts", .json (.array [.null, .object [("title", .string "a")]]))], [("id", .int 1)],
        [("id", .null)], [("name", .string "b")]] [usersPosts] =
      .ok [posted, postless [("id", .null)], postless [("name", .string "b")]] ∧
    Result.Fails (Schema.empty.records "users"
      [[("id", .int 1)], [("id", .int 1), ("posts", .int 3)]] [usersPosts]) := by
  obtain ⟨hrecords, hfails, -⟩ := records_firsts .empty "users" [usersPosts]
  refine ⟨(hrecords _ _).mpr ⟨[posted, postless [("id", .int 1)], postless [("id", .null)],
    postless [("name", .string "b")]], ?_, ?_⟩, ?_⟩
  · exact .cons (casts_iff.mpr rfl) (.cons (casts_iff.mpr rfl) (.cons (casts_iff.mpr rfl)
      (.cons (casts_iff.mpr rfl) .nil)))
  · have hkey : (Schema.empty.identityIn "users" posted).isSome = true := rfl
    have hsame : Schema.empty.identityIn "users" (postless [("id", .int 1)]) =
        Schema.empty.identityIn "users" posted := rfl
    have hnull : Schema.empty.identityIn "users" (postless [("id", .null)]) = none := rfl
    have habsent : Schema.empty.identityIn "users" (postless [("name", .string "b")]) = none := rfl
    obtain ⟨k, hk⟩ := Option.isSome_iff_exists.mp hkey
    simp [firsts, IsFirst, hsame, hnull, habsent, hk]
  · have hname : usersPosts.column = "posts" := by
      decide +kernel
    have hcolumn : Row.get? [("id", .int 1), ("posts", .int 3)] usersPosts.column = some (.int 3) := by
      rw [hname]
      rfl
    refine (hfails _).mpr ⟨_, .tail _ (.head _), _, .head _, rfl, _, hcolumn, ?_⟩
    rintro ⟨items, hlists, -⟩
    cases hlists with
    | nothing h | items h => cases h

end Schema

end SqlAdapter
