/-
Values that are written, from the caller to the parameter.

The values of a new row and those of an update become the first parameters of
their statement, one for each, in order and as their columns hold them
(`Compiler.binds`). Which values they are never decides whether the statement is
accepted. For an array without an element type the parameter is bracketed text,
and casting the text returns the array (`Compiler.sequence_returns`).
-/
import SqlAdapter.Proofs.Schema.Validity
import SqlAdapter.Proofs.Statement.Alike
import SqlAdapter.Proofs.Value.Bracketed

namespace SqlAdapter

open Result (Agree)

/-- Another value in one place of a row. -/
theorem Row.alike_set {column : String} {value : Value} (other : Value) :
    ∀ {values : Row} {i : Nat}, values[i]? = some (column, value) → Row.Alike values (values.set i (column, other))
  | [], _, h => nomatch h
  | cell :: values, 0, h => by
    cases Option.some.inj h
    exact .cons rfl (List.forall₂_same.mpr fun _ _ => rfl)
  | _ :: _, _ + 1, h => .cons rfl (alike_set other h)

theorem Schema.writtenAll_getElem? (schema : Schema) (table : String) {column : String} {value : Value}
    {values : List (String × Value)} {i : Nat} (h : values[i]? = some (column, value)) :
    ((schema.writtenAll table values).map (·.2))[i]? = some (schema.written table column value) := by
  rw [writtenAll, List.map_map, List.getElem?_map, h]
  rfl

namespace Compiler

variable {c : Compiler} {table column : String} {values : List (String × Value)} {q : Query}

/-! ## Parameters -/

/-- The parameters of a new row are its values. -/
theorem insert_params (h : c.insert table values = .ok q) :
    q.params = (c.schema.writtenAll (Identifier.truncate table) values).map (·.2) := by
  obtain ⟨s, hs, hq⟩ := Result.bind_ok_iff.mp h
  have hmade : c.Made table (.insert values) s := statement_ok hs
  obtain ⟨rfl, -⟩ := Query.make_ok_iff.mp hq
  cases hmade with
  | @insert _ written hwritten =>
    have hencoded : written = c.schema.writtenAll (Identifier.truncate table) values := encodeAll_ok hwritten
    have hall := Template.params_append (Statement.insertion written) [.text " RETURNING *"]
    rw [Statement.params_insertion] at hall
    rw [← hencoded]
    exact hall.trans (List.append_nil _)

/-- The parameters of an update begin with its values. -/
theorem update_params {criteria : Criteria} (h : c.update table criteria values = .ok q) :
    (c.schema.writtenAll (Identifier.truncate table) values).map (·.2) <+: q.params := by
  obtain ⟨s, hs, hq⟩ := Result.bind_ok_iff.mp h
  have hmade : c.Made table (.update criteria values) s := statement_ok hs
  obtain ⟨rfl, -⟩ := Query.make_ok_iff.mp hq
  cases hmade with
  | @update _ _ written filter hwritten _ =>
    have hencoded : written = c.schema.writtenAll (Identifier.truncate table) values := encodeAll_ok hwritten
    have hall := Template.params_append (Statement.assignments written)
      (Template.optional " WHERE " filter ++ [.text " RETURNING *"])
    rw [Statement.params_assignments, ← List.append_assoc] at hall
    rw [← hencoded]
    exact ⟨_, hall.symm⟩

/-! ## Acceptance -/

/-- Which values a new row has does not decide whether it is accepted. -/
theorem insert_alike (c : Compiler) (table : String) {vs ws : Row} (h : Row.Alike vs ws) :
    Agree (· = ·) Query.SameText (c.insert table vs) (c.insert table ws) := by
  have hstatement : Agree (· = ·) (fun s s' => Template.Alike s.template s'.template)
      (c.insertStatement table vs) (c.insertStatement table ws) := by
    refine .bind_same _ fun _ => (encodeAll_alike _ _ h).bind fun vs ws h => .pure ?_
    exact ((insertion_alike h).text _).append (.refl _)
  exact hstatement.bind fun _ _ => Template.query_alike

/-- Which values an update has does not decide whether it is accepted. -/
theorem update_alike (c : Compiler) (table : String) (criteria : Criteria) {vs ws : Row} (h : Row.Alike vs ws) :
    Agree (· = ·) Query.SameText (c.update table criteria vs) (c.update table criteria ws) := by
  have hempty : ws.isEmpty = vs.isEmpty := by
    cases h <;> rfl
  have hstatement : Agree (· = ·) (fun s s' => Template.Alike s.template s'.template)
      (c.updateStatement table criteria vs) (c.updateStatement table criteria ws) := by
    rw [updateStatement, updateStatement, hempty]
    split
    · exact .error rfl
    · refine .bind_same _ fun _ => (encodeAll_alike _ _ h).bind fun vs ws h => .bind_same _ fun filter => .pure ?_
      exact (((assignments_alike h).text _).append (.refl _)).append (.refl _)
  exact hstatement.bind fun _ _ => Template.query_alike

theorem encodeAll_alone {table : String} {value v : Value} (h : c.encode table column value = .ok v) :
    c.encodeAll table [(column, value)] = .ok [(column, v)] := by
  simp only [encodeAll, List.mapM_cons, List.mapM_nil, h]
  rfl

/-- A value for one column makes a new row. -/
theorem insert_alone {value v : Value} (htable : Identifier.check table = .ok ())
    (hencode : c.encode (Identifier.truncate table) column value = .ok v) :
    ∃ q, c.insert table [(column, value)] = .ok q := by
  have hstatement : c.insertStatement table [(column, value)] =
      .ok (.insert (Identifier.truncate table) [(column, v)]) :=
    Result.bind_ok_iff.mpr ⟨(), htable, Result.bind_ok_iff.mpr ⟨_, encodeAll_alone hencode, rfl⟩⟩
  have hclean : ∀ t ∈ [rowClause [(column, v)]], Template.Clean t :=
    List.forall_mem_singleton.mpr (Request.rowClause_clean _)
  have hwrites : Template.Writes (Statement.insert (Identifier.truncate table) [(column, v)]).template
      [rowClause [(column, v)]] := Statement.insert_writes (insertion_writes _)
  have hquery := Template.query_writes hclean hwrites (by simp [params_rowClause])
  exact ⟨_, Result.bind_ok_iff.mpr ⟨_, hstatement, hquery⟩⟩

/-- A value for one column updates all rows. -/
theorem update_alone {value v : Value} {criteria : Criteria} (htable : Identifier.check table = .ok ())
    (hencode : c.encode (Identifier.truncate table) column value = .ok v) (hall : criteria.predicate = none) :
    ∃ q, c.update table criteria [(column, value)] = .ok q := by
  have hfilter : c.filter (Identifier.truncate table) criteria.predicate = .ok none := by
    rw [hall]
    rfl
  have hstatement : c.updateStatement table criteria [(column, value)] =
      .ok (.update (Identifier.truncate table) [(column, v)] none) :=
    Result.bind_ok_iff.mpr ⟨(), htable, Result.bind_ok_iff.mpr ⟨_, encodeAll_alone hencode,
      Result.bind_ok_iff.mpr ⟨_, hfilter, rfl⟩⟩⟩
  have hclean : ∀ t ∈ [cellClause (column, v)], Template.Clean t :=
    List.forall_mem_singleton.mpr (Request.cellClause_clean _)
  have hwrites : Template.Writes (Statement.update (Identifier.truncate table) [(column, v)] none).template
      [cellClause (column, v)] := Statement.update_writes (assignments_writes [(column, v)]) .nil
  have hquery := Template.query_writes hclean hwrites (by simp [cellClause, Template.params])
  exact ⟨_, Result.bind_ok_iff.mpr ⟨_, hstatement, hquery⟩⟩

/-! ## Bound values -/

/-- Wherever a value stands among those written, as a value for a column, another is bound in its place; and the
statement is refused only if it is with NULL there, and else has the same text. -/
def BindsIn (write : Row → Result Query) (column : String) (value bound : Value) : Prop :=
  ∀ (values : Row) (i : Nat), values[i]? = some (column, value) →
    (∀ q, write values = .ok q → q.params[i]? = some bound) ∧
    Agree (· = ·) Query.SameText (write values) (write (values.set i (column, .null)))

/-- A value for a column of a table is bound as another, in new rows and in updates. -/
structure Binds (c : Compiler) (table column : String) (value bound : Value) : Prop where
  inserted : BindsIn (c.insert table) column value bound
  updated : ∀ criteria, BindsIn (c.update table criteria) column value bound

theorem binds (c : Compiler) (table column : String) (value : Value) :
    c.Binds table column value (c.schema.written (Identifier.truncate table) column value) := by
  refine ⟨fun values i hi => ⟨fun q hq => ?_, insert_alike c table (Row.alike_set .null hi)⟩,
    fun criteria values i hi => ⟨fun q hq => ?_, update_alike c table criteria (Row.alike_set .null hi)⟩⟩
  · rw [insert_params hq]
    exact Schema.writtenAll_getElem? _ _ hi
  · obtain ⟨more, hparams⟩ := update_params hq
    have hplace := Schema.writtenAll_getElem? c.schema (Identifier.truncate table) hi
    obtain ⟨hlt, -⟩ := List.getElem?_eq_some_iff.mp hplace
    rw [← hparams, List.getElem?_append_left hlt]
    exact hplace

variable {t : Table} {a : Attribute}

theorem written_of_find {schema : Schema} (ht : schema.get? table = some t) (ha : t.find? column = some a)
    (value : Value) : schema.written (Identifier.truncate table) column value = a.encode value := by
  rw [Schema.written, Schema.get?_congr (Identifier.truncate_truncate table), ht, Option.bind_some, ha]

theorem encode_of_find (ht : c.schema.get? table = some t) (ha : t.find? column = some a)
    (hown : a.isVirtual = false) (hcolumn : Identifier.check column = .ok ()) (value : Value) :
    c.encode (Identifier.truncate table) column value = .ok (a.encode value) := by
  refine Result.bind_ok_iff.mpr ⟨(), hcolumn, ?_⟩
  simp only [Schema.get?_congr (Identifier.truncate_truncate table), ht, ha, hown]
  rfl

/-- A sequence written to an array without an element type is bound as text that begins with a bracket, and
cast as such an array the text is the sequence. -/
theorem sequence_returns (c : Compiler) {items : List Value} (ht : c.schema.get? table = some t)
    (ha : t.find? column = some a) (htype : a.type = .untypedArray) (h : Value.Bracketed 127 (.array items)) :
    ∃ text, text.toList.head? = some '[' ∧ AttributeType.untypedArray.cast (.string text) = .array items ∧
      c.Binds table column (.array items) (.string text) ∧
      (a.isVirtual = false → Identifier.check table = .ok () → Identifier.check column = .ok () →
        (∃ q, c.insert table [(column, .array items)] = .ok q) ∧
        ∀ criteria, criteria.predicate = none → ∃ q, c.update table criteria [(column, .array items)] = .ok q) := by
  have htext : a.encode (.array items) = .string (Value.array items).toJson.text := by
    simp only [Attribute.encode, htype]
  have hbinds := c.binds table column (.array items)
  rw [written_of_find ht ha, htext] at hbinds
  refine ⟨_, Value.head?_arrayText items, h.cast_text, hbinds, fun hown htable hcolumn => ?_⟩
  have hencode := encode_of_find ht ha hown hcolumn (.array items)
  exact ⟨insert_alone htable hencode, fun criteria hall => update_alone htable hencode hall⟩

/-- Posts with tags of any kind. -/
def tagged : Table :=
  .make "posts" [(Attribute.plain "id" .integer).asPrimaryKey, .plain "tags" .untypedArray]

/-- Tags with quotes, backslashes and control characters, and further sequences among them. -/
def nestedTags : List Value :=
  [.string "say \"no\" to C:\\\n\x01", .null, .array [.bool true, .array [], .bigInt (-9223372036854775808)]]

theorem nestedTags_bracketed : Value.Bracketed 127 (.array nestedTags) := by
  refine .array fun item hitem => ?_
  simp only [nestedTags, List.mem_cons, List.not_mem_nil, or_false] at hitem
  obtain rfl | rfl | rfl := hitem
  · exact .string _
  · exact .null
  · refine .array fun item hitem => ?_
    simp only [List.mem_cons, List.not_mem_nil, or_false] at hitem
    obtain rfl | rfl | rfl := hitem
    · exact .bool true
    · exact .array fun _ h => nomatch h
    · exact .bigInt _

theorem sequence_returns_nestedTags : ∃ text q, text.toList.head? = some '[' ∧
    (ofSchema (.ofTables [tagged])).insert "posts" [("id", .int 1), ("tags", .array nestedTags)] = .ok q ∧
    q.params[1]? = some (.string text) ∧ AttributeType.untypedArray.cast (.string text) = .array nestedTags := by
  have htable : (ofSchema (.ofTables [tagged])).schema.get? "posts" = some tagged := rfl
  have hcolumn : tagged.find? "tags" = some (.plain "tags" .untypedArray) := rfl
  obtain ⟨text, hhead, hcast, hbinds, -⟩ := sequence_returns _ htable hcolumn rfl nestedTags_bracketed
  have hplace : [("id", Value.int 1), ("tags", .array nestedTags)][1]? = some ("tags", .array nestedTags) := rfl
  obtain ⟨hparams, -⟩ := hbinds.inserted _ _ hplace
  have hinsert : ((ofSchema (.ofTables [tagged])).insert "posts"
      [("id", .int 1), ("tags", .array nestedTags)]).toOption.isSome = true := by
    decide +kernel
  cases hq : (ofSchema (.ofTables [tagged])).insert "posts" [("id", .int 1), ("tags", .array nestedTags)] with
  | error e =>
    rw [hq] at hinsert
    cases hinsert
  | ok q => exact ⟨text, q, hhead, rfl, hparams q hq, hcast⟩

end Compiler

end SqlAdapter
