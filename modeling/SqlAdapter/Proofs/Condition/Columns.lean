/-
The columns that filters ask about.

`Template.columns` are those of a filter as SQL reads it, `Predicate.fields` the
fields of the predicate that it was written for: they are the same
(`Compiler.filter_columns`), and the table has each of them, if the schema knows
it (`Compiler.filter_has`). A comparison with an empty list is settled without a
look at the column.
-/
import SqlAdapter.Proofs.Condition.Bound

namespace SqlAdapter

/-! ## Columns of what is read -/

def Atom.columns : Atom → List ColumnRef
  | .isNull column | .isNotNull column | .among column _ | .notAmong column _ => [column]
  | .compare column _ (.value _) => [column]
  | .compare column _ (.column other) => [column, other]

def Expr.columns : Expr → List ColumnRef
  | .constant _ => []
  | .atom a => a.columns
  | .and left right | .or left right => left.columns ++ right.columns
  | .not inner => inner.columns

/-- The columns of a filter; none where it cannot be read. -/
def Template.columns (t : Template) : List ColumnRef :=
  ((readCondition t.marked t.params).map Expr.columns).getD []

/-! ## Fields of a predicate -/

/-- Does the answer to a comparison depend on the column? -/
def Operator.asks (op : Operator) (value : Value) : Bool :=
  match op with
  | .among | .notAmong => !(Condition.listItems value).isEmpty
  | _ => true

namespace Predicate

mutual

/-- The fields that a predicate asks about. -/
def fields : Predicate → List String
  | .compare field op value => if op.asks value then [field] else []
  | .all parts | .any parts => fieldsOf parts
  | .not inner => fields inner

def fieldsOf : List Predicate → List String
  | [] => []
  | part :: parts => fields part ++ fieldsOf parts

end

end Predicate

namespace Condition

theorem columns_combined {combine : Expr → Expr → Expr} (holds : Bool)
    (hcombine : ∀ left right, (combine left right).columns = left.columns ++ right.columns) (es : List Expr) :
    (combined combine holds es).columns = es.flatMap Expr.columns := by
  have hfold : ∀ (es : List Expr) (e : Expr),
      (es.foldl combine e).columns = e.columns ++ es.flatMap Expr.columns := by
    intro es
    induction es with
    | nil => exact fun e => (List.append_nil _).symm
    | cons f es ih =>
      intro e
      rw [List.foldl_cons, ih, hcombine, List.append_assoc, List.flatMap_cons]
  cases es with
  | nil => rfl
  | cons e es => exact hfold es e

theorem columns_boundOperator (column : ColumnRef) (op : Operator) (value : Value) :
    (ofOperator column op (op.bound value)).expr.columns = if op.asks value then [column] else [] := by
  cases op with
  | isNull => rfl
  | isNotNull => rfl
  | compare comparison =>
    simp only [ofOperator, Operator.asks, if_true]
    split
    · rfl
    · split <;> rfl
  | among =>
    have hitems : listItems (Operator.bound .among value) = (listItems value).map Value.unbracketed := rfl
    have hasks : Operator.asks .among value = !(listItems value).isEmpty := rfl
    rw [hasks]
    simp only [ofOperator, hitems]
    cases listItems value <;> rfl
  | notAmong =>
    have hitems : listItems (Operator.bound .notAmong value) = (listItems value).map Value.unbracketed := rfl
    have hasks : Operator.asks .notAmong value = !(listItems value).isEmpty := rfl
    rw [hasks]
    simp only [ofOperator, hitems]
    cases listItems value <;> rfl

mutual

/-- What is read of a predicate asks about its fields. -/
theorem columns_bound (table : String) : ∀ p : Predicate,
    (p.bound.condition table).expr.columns = p.fields.map (ColumnRef.mk table)
  | .compare field op value => by
    rw [Predicate.bound, Predicate.condition, columns_boundOperator, Predicate.fields]
    split <;> rfl
  | .all parts => by
    rw [Predicate.bound, Predicate.condition, expr, columns_combined true fun _ _ => rfl, columns_boundParts table parts,
      Predicate.fields]
  | .any parts => by
    rw [Predicate.bound, Predicate.condition, expr, columns_combined false fun _ _ => rfl,
      columns_boundParts table parts, Predicate.fields]
  | .not inner => by
    rw [Predicate.bound, Predicate.condition, expr, Expr.columns, columns_bound table inner, Predicate.fields]

theorem columns_boundParts (table : String) : ∀ ps : List Predicate,
    (exprs (Predicate.conditions table (Predicate.boundParts ps))).flatMap Expr.columns =
      (Predicate.fieldsOf ps).map (ColumnRef.mk table)
  | [] => rfl
  | p :: ps => by
    rw [Predicate.boundParts, Predicate.conditions, exprs, List.flatMap_cons, columns_bound table p,
      columns_boundParts table ps, Predicate.fieldsOf, List.map_append]

end

/-! ## The check of fields -/

theorem columnOf_has {schema : Schema} {table field : String} {column : ColumnRef}
    (h : columnOf schema table field = .ok column) {t : Table} (ht : schema.get? table = some t) :
    t.has field = true := by
  rw [columnOf, Result.bind_ok_iff] at h
  obtain ⟨_, -, h⟩ := h
  simp only [ht] at h
  split at h
  · next hhas => exact hhas
  · cases h

variable {schema : Schema} {table : String} {t : Table}

mutual

/-- The table has the fields of a predicate that is accepted. -/
theorem ofPredicate_has (ht : schema.get? table = some t) : ∀ {p : Predicate} {c : Condition},
    ofPredicate schema table p = .ok c → ∀ field ∈ p.fields, t.has field = true
  | .compare field op value, c, h, other, hother => by
    rw [ofPredicate, Result.bind_ok_iff] at h
    obtain ⟨column, hcolumn, -⟩ := h
    rw [Predicate.fields] at hother
    split at hother
    · rw [List.mem_singleton.mp hother]
      exact columnOf_has hcolumn ht
    · cases hother
  | .all parts, c, h, field, hfield => by
    rw [ofPredicate, Result.bind_ok_iff] at h
    obtain ⟨cs, hcs, -⟩ := h
    exact ofParts_has ht hcs field hfield
  | .any parts, c, h, field, hfield => by
    rw [ofPredicate, Result.bind_ok_iff] at h
    obtain ⟨cs, hcs, -⟩ := h
    exact ofParts_has ht hcs field hfield
  | .not inner, c, h, field, hfield => by
    rw [ofPredicate, Result.bind_ok_iff] at h
    obtain ⟨d, hd, -⟩ := h
    exact ofPredicate_has ht hd field hfield

theorem ofParts_has (ht : schema.get? table = some t) : ∀ {ps : List Predicate} {cs : List Condition},
    ofParts schema table ps = .ok cs → ∀ field ∈ Predicate.fieldsOf ps, t.has field = true
  | [], _, _, _, hfield => (nomatch hfield)
  | p :: ps, cs, h, field, hfield => by
    rw [ofParts, Result.bind_ok_iff] at h
    obtain ⟨first, hfirst, h⟩ := h
    rw [Result.bind_ok_iff] at h
    obtain ⟨rest, hrest, -⟩ := h
    rcases List.mem_append.mp hfield with hfield | hfield
    · exact ofPredicate_has ht hfirst field hfield
    · exact ofParts_has ht hrest field hfield

end

end Condition

/-! ## Filters -/

namespace Compiler

variable {schema : Schema} {table : String} {predicate : Option Predicate} {filter : Option Template}

/-- A filter asks about the fields of its predicate. -/
theorem filter_columns (h : (ofSchema schema).filter table predicate = .ok filter) :
    filter.toList.flatMap Template.columns =
      predicate.toList.flatMap fun p => p.fields.map (ColumnRef.mk table) := by
  have hsame := filter_ok h
  rw [filterClauses_eq] at hsame
  cases predicate with
  | none =>
    cases h
    rfl
  | some p =>
    cases filter with
    | none => cases hsame
    | some t =>
      obtain _ | ⟨hsame, -⟩ := hsame
      have hread := Condition.fragment_read table p.bound
      have hmarked : t.marked = (p.bound.condition table).text true := by
        rw [hsame.marked, Condition.clause_marked]
      have hparams : t.params = (p.bound.condition table).values := by
        rw [hsame.params, Condition.clause_params]
      have hcolumns : t.columns = (p.bound.condition table).expr.columns := by
        rw [Template.columns, hmarked, hparams]
        exact congrArg (fun read => (read.map Expr.columns).getD []) hread
      simp only [Option.toList_some, List.flatMap_singleton, hcolumns, Condition.columns_bound]

/-- The table has the fields of a predicate for which a filter is written. -/
theorem filter_has (h : (ofSchema schema).filter table predicate = .ok filter) {t : Table}
    (ht : schema.get? table = some t) : ∀ p ∈ predicate, ∀ field ∈ p.fields, t.has field = true := by
  intro p hp
  cases hp
  rw [Compiler.filter, Result.bind_ok_iff] at h
  obtain ⟨f, hf, -⟩ := h
  have hwritten : FilterWriter.standard schema table p = .ok f := hf
  rw [FilterWriter.standard, Result.bind_ok_iff] at hwritten
  obtain ⟨c, hc, -⟩ := hwritten
  exact Condition.ofPredicate_has ht hc

end Compiler

end SqlAdapter
