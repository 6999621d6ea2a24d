/-
The notations of an order, from the document to the statement.

An order is an object of fields and directions, a text of items, or an array of
orders. `Writes` says which keys a document writes down, and the reader takes the
document for just these (`Writes.ofJson_eq`). In a select the keys stand where the
first column would, and nothing else of the statement depends on them
(`selectStatement_ordered`); so all notations of one order are one statement
(`notations_agree`).
-/
import SqlAdapter.Proofs.Criteria.SortText
import SqlAdapter.Proofs.Json.ReadBack
import SqlAdapter.Proofs.Statement.Chosen

namespace SqlAdapter

namespace SortKey

open Text (InAnyCase Separated Spaced isBlank)

/-! ## Notations -/

/-- A direction in a document: one or minus one, or its word in any letter case. -/
inductive Directs : Json → SortDirection → Prop where
  | one : Directs (.ofInt 1) .ascending
  | minusOne : Directs (.ofInt (-1)) .descending
  | word {word : String} {direction : SortDirection} (h : InAnyCase word.toList direction.word.toList) :
    Directs (.string word) direction

/-- A document, of so many levels at most, that writes down some keys: an object, a text, or an array of such documents
one after another. -/
inductive Writes : (depth : Nat) → List SortKey → Json → Prop where
  | object {depth : Nat} {keys : List SortKey} {fields : List (String × Json)}
    (h : List.Forall₂ (fun key field => field.1 = key.field ∧ Directs field.2 key.direction) keys fields) :
    Writes (depth + 1) keys (.object fields)
  | text {depth : Nat} {keys : List SortKey} {text : String} {items : List (List (List Char))}
    (hitems : Items text items) (h : List.Forall₂ Item items keys) : Writes depth keys (.string text)
  | none {depth : Nat} : Writes (depth + 1) [] (.array [])
  | array {depth : Nat} {first rest : List SortKey} {item : Json} {items : List Json} (hfirst : Writes depth first item)
    (h : Writes (depth + 1) rest (.array items)) : Writes (depth + 1) (first ++ rest) (.array (item :: items))

/-- A field that is one word of a text, without a comma. -/
def OneWord (field : String) : Prop := field ≠ "" ∧ ∀ c ∈ field.toList, isBlank c = false ∧ c ≠ ','

/-- Keys that every notation can tell apart. -/
structure Sortable (keys : List SortKey) : Prop where
  distinct : (keys.map (·.field)).Nodup
  words : ∀ key ∈ keys, OneWord key.field

/-- The keys as an object, with numbers for their directions. -/
def numbered (keys : List SortKey) : Json :=
  .object (keys.map fun key => (key.field, .ofInt (if key.direction = .descending then -1 else 1)))

/-- The keys as an object, with words for their directions. -/
def worded (keys : List SortKey) : Json := .object (keys.map fun key => (key.field, .string key.direction.word))

/-- A key as an item of a text. -/
def piece (key : SortKey) : List Char := key.field.toList ++ ' ' :: key.direction.word.toList

/-- The keys as a text. -/
def listed (keys : List SortKey) : Json := .string (String.ofList ([','].intercalate (keys.map piece)))

/-- The notations without arrays in arrays, each in its simplest form. -/
def notations (keys : List SortKey) : List Json :=
  [numbered keys, worded keys, listed keys, .array (keys.map fun key => numbered [key]),
    .array (keys.map fun key => listed [key])]

theorem writes_object (depth : Nat) (keys : List SortKey) {f : SortKey → Json}
    (h : ∀ key, Directs (f key) key.direction) :
    Writes (depth + 1) keys (.object (keys.map fun key => (key.field, f key))) := by
  refine .object (List.forall₂_map_right_iff.mpr ?_)
  exact List.forall₂_same.mpr fun key _ => ⟨rfl, h key⟩

theorem writes_numbered (depth : Nat) (keys : List SortKey) : Writes (depth + 1) keys (numbered keys) := by
  refine writes_object depth keys fun key => ?_
  cases key.direction
  · exact .one
  · exact .minusOne

theorem writes_worded (depth : Nat) (keys : List SortKey) : Writes (depth + 1) keys (worded keys) :=
  writes_object depth keys fun _ => .word (.refl _)

/-- The text of a key is made of its field and its direction. -/
theorem spaced_piece {key : SortKey} (h : OneWord key.field) :
    Spaced (piece key) [key.field.toList, key.direction.word.toList] := by
  have hsolid : (key.direction.word.toList.all (!isBlank ·)) = true := by cases key.direction <;> decide
  have hword : Spaced ([' '] ++ key.direction.word.toList ++ []) [key.direction.word.toList] := by
    refine .word (List.forall_mem_singleton.mpr rfl) (by cases key.direction <;> decide) ?_ nofun (.blank nofun)
    simpa using hsolid
  have hpiece : piece key = [] ++ key.field.toList ++ ([' '] ++ key.direction.word.toList ++ []) := by
    rw [List.append_nil]
    rfl
  rw [hpiece]
  refine .word nofun ?_ (fun c hc => (h.2 c hc).1) (by simp; decide) hword
  simpa using h.1

theorem items_pieces {keys : List SortKey} (h : ∀ key ∈ keys, OneWord key.field) :
    Items (String.ofList ([','].intercalate (keys.map piece)))
      (keys.map fun key => [key.field.toList, key.direction.word.toList]) := by
  by_cases hkeys : keys = []
  · subst hkeys
    exact ⟨[[]], [[]], ⟨by decide, by decide, rfl⟩, .cons (.blank nofun) .nil, rfl⟩
  · refine ⟨keys.map piece, keys.map fun key => [key.field.toList, key.direction.word.toList],
      ⟨by simpa using hkeys, ?_, String.toList_ofList.symm⟩, ?_, ?_⟩
    · refine List.forall_mem_map.mpr fun key hkey hcomma => ?_
      rcases List.mem_append.mp hcomma with hfield | hword
      · exact ((h key hkey).2 _ hfield).2 rfl
      · revert hword
        cases key.direction <;> decide
    · refine List.forall₂_map_left_iff.mpr (List.forall₂_map_right_iff.mpr (List.forall₂_same.mpr fun key hkey => ?_))
      exact spaced_piece (h key hkey)
    · symm
      refine List.filter_eq_self.mpr (List.forall_mem_map.mpr fun key _ => ?_)
      simp

theorem writes_listed (depth : Nat) {keys : List SortKey} (h : ∀ key ∈ keys, OneWord key.field) :
    Writes depth keys (listed keys) := by
  refine .text (items_pieces h) (List.forall₂_map_left_iff.mpr (List.forall₂_same.mpr fun key _ => ?_))
  have hitem := Item.directed key.field.toList (InAnyCase.refl key.direction.word.toList)
  rwa [String.ofList_toList] at hitem

/-- Notations of one key each, in an array. -/
theorem writes_each {depth : Nat} {keys : List SortKey} {f : SortKey → Json}
    (h : ∀ key ∈ keys, Writes depth [key] (f key)) : Writes (depth + 1) keys (.array (keys.map f)) := by
  induction keys with
  | nil => exact .none
  | cons key keys ih =>
    obtain ⟨hkey, hkeys⟩ := List.forall_mem_cons.mp h
    exact .array hkey (ih hkeys)

theorem Sortable.writes {keys : List SortKey} (h : Sortable keys) : ∀ doc ∈ notations keys, Writes 2 keys doc := by
  have hone : ∀ key ∈ keys, Writes 1 [key] (listed [key]) := fun key hkey =>
    writes_listed 1 (List.forall_mem_singleton.mpr (h.words key hkey))
  simp only [notations, List.forall_mem_cons]
  exact ⟨writes_numbered 1 keys, writes_worded 1 keys, writes_listed 2 h.words,
    writes_each fun key _ => writes_numbered 0 [key], writes_each hone, nofun⟩

/-! ## Reading -/

theorem directionOf_eq {found : Json} {direction : SortDirection} (field : String) (h : Directs found direction) :
    directionOf field found = .ok direction := by
  cases h with
  | one => rfl
  | minusOne => rfl
  | @word word _ h =>
    have hsame : ∀ direction : SortDirection, sameIgnoringCase word direction.word = true ↔
        InAnyCase word.toList direction.word.toList := fun direction =>
      sameIgnoringCase_iff fun c hc => Text.isCapital_of_isPlain (word_plain direction c hc)
    cases direction with
    | ascending => exact if_pos ((hsame .ascending).mpr h)
    | descending =>
      have hother : ¬ sameIgnoringCase word SortDirection.ascending.word = true := fun hasc =>
        absurd (((hsame .ascending).mp hasc).length_eq.symm.trans h.length_eq) (by decide)
      exact (if_neg hother).trans (if_pos ((hsame .descending).mpr h))

/-- The reader takes a notation of an order for the keys that it writes down. -/
theorem Writes.ofJson_eq {depth : Nat} {keys : List SortKey} {doc : Json} (h : Writes depth keys doc) :
    ofJson doc = .ok keys := by
  induction h with
  | object h =>
    rw [ofJson]
    refine Result.mapM_of_forall₂ (h.flip.imp fun field key hfield => ?_)
    obtain ⟨name, found⟩ := field
    obtain ⟨rfl, hdirection⟩ := hfield
    dsimp only
    rw [directionOf_eq key.field hdirection]
    rfl
  | text hitems h =>
    rw [items_iff.mp hitems] at h
    exact ofText_ok_iff.mpr (h.imp fun words key hkey => (item_iff.mp hkey).1)
  | none => rfl
  | array _ _ ihfirst ih =>
    rw [ofJson] at ih ⊢
    rw [ofItems, ihfirst, ih]
    rfl

theorem Directs.exact {found : Json} {direction : SortDirection} (h : Directs found direction) (depth : Nat) :
    Json.Exact depth found := by
  cases h with
  | one => exact .integer (by decide)
  | minusOne => exact .integer (by decide)
  | word => exact .string _

/-- A notation of an order, written as text, is read as it was. -/
theorem Writes.exact {depth : Nat} {keys : List SortKey} {doc : Json} (h : Writes depth keys doc)
    (hkeys : (keys.map (·.field)).Nodup) : Json.Exact depth doc := by
  induction h with
  | @object depth keys fields h =>
    have hnames : fields.map (·.1) = keys.map (·.field) :=
      Result.forall₂_map_iff.mp (h.flip.imp fun _ _ hfield => hfield.1)
    refine .object (hnames ▸ hkeys) (Result.forall_of_forall₂ h fun _ _ hfield => hfield.2.exact _)
  | text => exact .string _
  | none => exact .array nofun
  | array _ _ ihfirst ih =>
    rw [List.map_append] at hkeys
    obtain ⟨hfirst, hrest, -⟩ := List.nodup_append.mp hkeys
    cases ih hrest with
    | array hitems => exact .array (List.forall_mem_cons.mpr ⟨ihfirst hfirst, hitems⟩)

end SortKey

/-! ## Ordering -/

namespace Criteria

/-- The criteria without their keys. -/
def unsorted (c : Criteria) : Criteria := { c with sort := [] }

/-- A select for the criteria: what stands before the order, with its values, then the order, and the page. -/
def selectQuery (c : Criteria) (before : String) (values : List Value) (order : String) : Query :=
  ⟨before ++ order ++ " " ++ (pageClause c.limit c.skip).sqlFrom (1 + values.length),
    values ++ (pageClause c.limit c.skip).params⟩

end Criteria

/-- The select with its rows in an order. -/
def Statement.ordered (order : List OrderKey) : Statement → Statement
  | .select table filter _ page => .select table filter order page
  | .joined s => .joined { s with order := order }
  | s => s

namespace SortKey

/-- The field of a key is a name, and one of the table's where the schema knows the table. -/
def Valid (schema : Schema) (table : String) (key : SortKey) : Prop :=
  Identifier.check key.field = .ok () ∧ ∀ t, schema.get? table = some t → t.has key.field = true

end SortKey

namespace Compiler

variable {c : Compiler} {schema : Schema} {table : String} {criteria : Criteria} {order : List OrderKey} {s : Statement}

/-- The keys of a select have a part in its order only. -/
theorem selectStatement_ordered
    (horder : c.order (Identifier.truncate table) (Identifier.truncate table) criteria.sort = .ok order) :
    c.selectStatement table criteria = (c.selectStatement table criteria.unsorted).map (Statement.ordered order) := by
  have hnone : c.order (Identifier.truncate table) (Identifier.truncate table) [] = .ok [] := rfl
  have hmap : ∀ {α β γ : Type} (x : Result α) (f : α → Result β) (g : β → γ),
      (x >>= f).map g = x >>= fun a => (f a).map g := by
    intro α β γ x f g
    cases x <;> rfl
  rw [selectStatement, selectStatement, Criteria.unsorted]
  dsimp only
  -- With joins or without, the order is one step of several: known, it drops out on both sides.
  split
  · rw [horder, hnone]
    simp only [hmap]
    rfl
  · rw [joinedSelect, joinedSelect]
    dsimp only
    rw [horder, hnone]
    simp only [hmap, bind_assoc]
    rfl

theorem ordered_of_unsorted (hs : c.selectStatement table criteria.unsorted = .ok s) : s.ordered [] = s := by
  have hsame : c.selectStatement table criteria.unsorted =
      (c.selectStatement table criteria.unsorted).map (Statement.ordered []) := selectStatement_ordered rfl
  rw [hs] at hsame
  exact (Except.ok.inj hsame).symm

/-- What a select writes around its order. -/
theorem exists_around (hs : c.selectStatement table criteria = .ok s) : ∃ before values, ∀ order,
    (s.ordered order).written = criteria.selectQuery before values (OrderKey.clause order) := by
  have hmade : c.Made table (.select criteria) s := statement_ok hs
  cases hmade with
  | @select _ filter _ page _ _ _ hpage =>
    refine ⟨"SELECT * FROM " ++ Identifier.quote (Identifier.truncate table) ++
      whereText (filter.map (Template.sqlFrom 1)) ++ " ", filterParams filter, fun order => ?_⟩
    rw [Statement.ordered, Statement.written_select, page_ok hpage]
    simp only [Criteria.selectQuery, String.append_assoc]
  | @joined _ s _ hjoined =>
    obtain ⟨front, hfront⟩ : ∃ front : Template, ∀ order, ((Statement.joined s).ordered order).template =
        front ++ .text (" GROUP BY " ++ s.key.sql ++ " " ++ OrderKey.clause order ++ " ") :: s.page.template :=
      ⟨.text ("SELECT " ++ ", ".intercalate (s.rootSql :: s.associations.map AssociationColumn.sql) ++ " FROM " ++
        Identifier.quote s.root) :: s.laterals.flatMap (fun l => .text " " :: l.template) ++
          Template.optional " WHERE " s.filter, fun _ => rfl⟩
    refine ⟨front.sqlFrom 1 ++ (" GROUP BY " ++ s.key.sql ++ " "), front.params, fun order => ?_⟩
    rw [Statement.written, hfront, page_ok hjoined.page, Template.sqlFrom_append, Template.params_append]
    simp only [Criteria.selectQuery, Template.sqlFrom, Template.params, String.append_assoc]

/-- Keys whose fields the table has make an order of their columns. -/
theorem order_ok {keys : List SortKey} (qualifier : String) (h : ∀ key ∈ keys, key.Valid schema table) :
    (ofSchema schema).order table qualifier keys = .ok (keys.map (SortKey.orderKey qualifier)) := by
  refine Result.mapM_of_forall₂ (List.forall₂_map_right_iff.mpr (List.forall₂_same.mpr fun key hkey => ?_))
  obtain ⟨hname, hhas⟩ := h key hkey
  rw [hname]
  cases hget : schema.get? table with
  | none =>
    have hunknown : (ofSchema schema).schema.get? table = none := hget
    rw [hunknown]
    rfl
  | some t =>
    have hknown : (ofSchema schema).schema.get? table = some t := hget
    rw [hknown]
    exact if_pos (hhas t hget)

/-- A select is compiled when there is a statement for it with values that a machine can count. -/
theorem compile_select_iff : (∃ q, (ofSchema schema).compile table (.select criteria) = .ok q) ↔
    ∃ s, (ofSchema schema).selectStatement table criteria = .ok s ∧
      (((Request.select criteria).clauses schema table).flatMap Template.params).length < 2 ^ 64 := by
  constructor
  · rintro ⟨q, hq⟩
    obtain ⟨s, hs, -, hlen⟩ := compile_ok schema hq
    exact ⟨s, hs, (statement_writes hs).params ▸ hlen⟩
  · rintro ⟨s, hs, hlen⟩
    exact ⟨_, compile_of_statement schema hs hlen⟩

/-- A select with keys is compiled just when it is without them, and differs in its order only. -/
theorem compile_ordered (hvalid : ∀ key ∈ criteria.sort, key.Valid schema (Identifier.truncate table)) :
    ((∃ q, (ofSchema schema).compile table (.select criteria) = .ok q) ↔
      ∃ q, (ofSchema schema).compile table (.select criteria.unsorted) = .ok q) ∧
    ∀ q, (ofSchema schema).compile table (.select criteria.unsorted) = .ok q → ∃ before values,
      q = criteria.selectQuery before values "ORDER BY 1" ∧ (ofSchema schema).compile table (.select criteria) =
        .ok (criteria.selectQuery before values (SortKey.orderText (Identifier.truncate table) criteria.sort)) := by
  have hstatement := selectStatement_ordered (order_ok (Identifier.truncate table) hvalid)
  have hclauses : (Request.select criteria).clauses schema table =
      (Request.select criteria.unsorted).clauses schema table := rfl
  constructor
  · rw [compile_select_iff, compile_select_iff, hstatement, hclauses]
    refine ⟨fun ⟨_, hs, hlen⟩ => ?_, fun ⟨s, hs, hlen⟩ => ⟨_, Result.map_ok_iff.mpr ⟨s, hs, rfl⟩, hlen⟩⟩
    obtain ⟨s, hs, -⟩ := Result.map_ok_iff.mp hs
    exact ⟨s, hs, hlen⟩
  · intro q hq
    obtain ⟨s, hs, rfl, -⟩ := compile_ok schema hq
    obtain ⟨before, values, haround⟩ := exists_around hs
    obtain ⟨-, -, hlen⟩ := compile_select_iff.mp ⟨_, hq⟩
    have hordered : (ofSchema schema).statement table (.select criteria) = .ok (s.ordered _) :=
      hstatement.trans (congrArg (Except.map _) hs)
    refine ⟨before, values, ?_, ?_⟩
    · rw [← ordered_of_unsorted hs]
      exact haround []
    · rw [compile_of_statement schema hordered (hclauses ▸ hlen), ← SortKey.clause_eq]
      exact congrArg Except.ok (haround _)

/-- The notations of an order agree, from the document to the statement. Every list of keys with distinct fields that are
words without a comma has all of them. However a document writes down keys, as text it is read as it was, and the keys are
those of the criteria with it under their key. And where their fields are the table's, a select with them is one without
them, with the fields behind their table in the place of the first column. -/
theorem notations_agree {keys : List SortKey} (hkeys : SortKey.Sortable keys) :
    (∀ doc ∈ SortKey.notations keys, SortKey.Writes 2 keys doc) ∧
    (∀ depth doc, SortKey.Writes depth keys doc →
      (depth ≤ Json.Reader.maxDepth → Json.read? doc.text = some doc) ∧ SortKey.ofJson doc = .ok keys ∧
      ∀ fields, Json.find? fields "sort" = some doc → Criteria.sortOf fields = .ok keys ∧
        ∀ criteria, Criteria.ofJson (.object fields) = .ok criteria → criteria.sort = keys) ∧
    ∀ schema table, (∀ key ∈ keys, key.Valid schema (Identifier.truncate table)) →
      ∀ criteria : Criteria, criteria.sort = keys →
        ((∃ q, (ofSchema schema).compile table (.select criteria) = .ok q) ↔
          ∃ q, (ofSchema schema).compile table (.select criteria.unsorted) = .ok q) ∧
        ∀ q, (ofSchema schema).compile table (.select criteria.unsorted) = .ok q → ∃ before values,
          q = criteria.selectQuery before values "ORDER BY 1" ∧ (ofSchema schema).compile table (.select criteria) =
            .ok (criteria.selectQuery before values (SortKey.orderText (Identifier.truncate table) keys)) := by
  refine ⟨hkeys.writes, fun depth doc hwrites => ⟨fun hdepth => ?_, hwrites.ofJson_eq, fun fields hfind => ?_⟩, ?_⟩
  · exact Json.Exact.read?_text ((hwrites.exact hkeys.distinct).mono hdepth)
  · have hsort : Criteria.sortOf fields = .ok keys := by
      rw [Criteria.sortOf, hfind]
      exact hwrites.ofJson_eq
    refine ⟨hsort, fun criteria hcriteria => ?_⟩
    simp only [Criteria.ofJson, Result.bind_ok_iff] at hcriteria
    obtain ⟨_, -, sort, hread, _, -, _, -, _, -, hcriteria⟩ := hcriteria
    rw [← Result.pure_ok_iff.mp hcriteria]
    exact Except.ok.inj (hread.symm.trans hsort)
  · rintro schema table hvalid criteria rfl
    exact compile_ordered hvalid

/-- Three keys in a nested document, one of them an object in an array of its own and two a text with a blank item. -/
theorem notations_agree_nested : ∃ keys doc, SortKey.Sortable keys ∧ SortKey.Writes 3 keys doc ∧
    doc.text = "[[\x7b\"name\":\"ASC\"\x7d],\" age  dEsC , ,id\"]" ∧ Json.read? doc.text = some doc ∧
    SortKey.ofJson doc = .ok keys ∧ Criteria.sortOf [("sort", doc)] = .ok keys ∧
    (∀ key ∈ keys, key.Valid .empty (Identifier.truncate "users")) ∧
    ∃ before values, (ofSchema .empty).compile "users" (.select { Criteria.empty with sort := keys }) = .ok
      (Criteria.empty.selectQuery before values
        "ORDER BY \"users\".\"name\", \"users\".\"age\" DESC, \"users\".\"id\"") := by
  let keys : List SortKey := [⟨"name", .ascending⟩, ⟨"age", .descending⟩, ⟨"id", .ascending⟩]
  let doc : Json := .array [.array [.object [("name", .string "ASC")]], .string " age  dEsC , ,id"]
  have hwords : (keys.all fun key => key.field != "" && key.field.toList.all fun c => !Text.isBlank c && c != ',') =
      true := by decide +kernel
  have hsortable : SortKey.Sortable keys := ⟨by decide, by simpa [SortKey.OneWord] using hwords⟩
  have hitems : SortKey.Items " age  dEsC , ,id" [["age".toList, "dEsC".toList], ["id".toList]] :=
    SortKey.items_iff.mpr (by decide +kernel)
  have hkeys : List.Forall₂ SortKey.Item [["age".toList, "dEsC".toList], ["id".toList]]
      [⟨"age", .descending⟩, ⟨"id", .ascending⟩] := by
    have hdesc : Text.InAnyCase "dEsC".toList SortDirection.descending.word.toList :=
      .cons (.inl rfl) (.cons (.inr rfl) (.cons (.inl rfl) (.cons (.inr rfl) .nil)))
    exact .cons (.directed "age".toList hdesc) (.cons (.field "id".toList) .nil)
  have hasc : Text.InAnyCase "ASC".toList SortDirection.ascending.word.toList :=
    .cons (.inr rfl) (.cons (.inr rfl) (.cons (.inr rfl) .nil))
  have hwrites : SortKey.Writes 3 keys doc :=
    .array (.array (.object (.cons ⟨rfl, .word hasc⟩ .nil)) .none) (.array (.text hitems hkeys) .none)
  have hvalid : ∀ key ∈ keys, key.Valid .empty (Identifier.truncate "users") := by
    have hnames : ∀ key ∈ keys, Identifier.check key.field = .ok () := by decide +kernel
    exact fun key hkey => ⟨hnames key hkey, nofun⟩
  obtain ⟨-, hread, hselect⟩ := notations_agree hsortable
  obtain ⟨htext, hkeys, hsort⟩ := hread 3 doc hwrites
  have hstatement : ((ofSchema .empty).statement "users" (.select .empty)).toOption.isSome = true := by decide +kernel
  obtain ⟨q, hq⟩ := compile_of_isSome .empty hstatement (by decide)
  obtain ⟨-, hordered⟩ := hselect .empty "users" hvalid { Criteria.empty with sort := keys } rfl
  obtain ⟨before, values, -, hcompile⟩ := hordered q hq
  have horder : SortKey.orderText (Identifier.truncate "users") keys =
      "ORDER BY \"users\".\"name\", \"users\".\"age\" DESC, \"users\".\"id\"" := by decide +kernel
  rw [horder] at hcompile
  exact ⟨keys, doc, hsortable, hwrites, by decide +kernel, htext (by decide), hkeys, (hsort _ rfl).1, hvalid, before,
    values, hcompile⟩

end Compiler

end SqlAdapter
