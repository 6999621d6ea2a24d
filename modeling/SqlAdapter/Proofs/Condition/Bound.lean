/-
Conditions in statements that are ready to be sent.

There a value is a number, the place of the value among the parameters.
`readNumbered` is how SQL reads such a condition: the numbers become marks
again, with the parameters that they stand for. A template that is clean reads
the same with numbers, from wherever they start, as with marks
(`readNumbered_sqlFrom`).

Values change a little on their way to the parameters: strings that hold JSON
arrays become arrays. `Predicate.bound` is the predicate that has its values in
this form; its clause is the one that a filter is written as (`filterClauses_eq`).
-/
import SqlAdapter.Proofs.Condition.Reading

namespace SqlAdapter

/-! ## Numbers and marks -/

namespace Placeholder

/-- The text with a mark for each number. -/
def marksFrom (q : Quoting) (inNumber : Bool) : List Char → List Char
  | [] => []
  | c :: cs =>
    if inNumber ∧ isDigit c then marksFrom q true cs
    else if q = .plain ∧ c = '$' then '?' :: marksFrom q true cs
    else c :: marksFrom (q.after c) false cs

/-- The text with a mark for each of its numbered placeholders. -/
def marks (sql : String) : String := String.ofList (marksFrom .plain false sql.toList)

/-- The parameter of a number; numbers start at one. -/
def parameter? (params : List Value) : Nat → Option Value
  | 0 => none
  | n + 1 => params[n]?

/-- Text without placeholders stays as it is. -/
theorem marksFrom_passes {q q' : Quoting} {cs : List Char} (rest : List Char) (h : passes q cs = some q') :
    marksFrom q false (cs ++ rest) = cs ++ marksFrom q' false rest := by
  induction cs generalizing q with
  | nil => cases h; rfl
  | cons c cs ih =>
    rw [passes] at h
    split at h
    · cases h
    · next hc =>
      have hdollar : ¬ (q = .plain ∧ c = '$') := fun hmark => hc ⟨hmark.1, .inr hmark.2⟩
      rw [List.cons_append, marksFrom, if_neg (by simp), if_neg hdollar, ih h, List.cons_append]

theorem marksFrom_digits (q : Quoting) {digits : List Char} (rest : List Char)
    (h : ∀ c ∈ digits, isDigit c = true) : marksFrom q true (digits ++ rest) = marksFrom q true rest := by
  induction digits with
  | nil => rfl
  | cons c cs ih =>
    have hc : isDigit c = true := h c (List.mem_cons_self ..)
    rw [List.cons_append, marksFrom, if_pos ⟨rfl, hc⟩]
    exact ih fun d hd => h d (List.mem_cons_of_mem c hd)

theorem marksFrom_ends {rest : List Char} (h : endsNumber rest = true) (q : Quoting) :
    marksFrom q true rest = marksFrom q false rest := by
  cases rest with
  | nil => rfl
  | cons c cs =>
    have hc : isDigit c = false := by simpa [endsNumber] using h
    simp only [marksFrom, hc, Bool.false_eq_true, and_false, if_false]

/-- A placeholder becomes one mark, whatever its number. -/
theorem marksFrom_numbered (n : Nat) {rest : List Char} (h : endsNumber rest = true) :
    marksFrom .plain false (numbered n ++ rest) = '?' :: marksFrom .plain false rest := by
  have hopen : marksFrom .plain false (numbered n ++ rest) =
      '?' :: marksFrom .plain true (decimalChars n ++ rest) := rfl
  rw [hopen, marksFrom_digits _ _ (decimalChars_isDigit n), marksFrom_ends h]

theorem parameters_range' (before params after : List Value) :
    (List.range' (before.length + 1) params.length).mapM (parameter? (before ++ params ++ after)) = some params := by
  induction params generalizing before with
  | nil => rfl
  | cons v params ih =>
    have hfirst : parameter? (before ++ v :: params ++ after) (before.length + 1) = some v := by
      simp [parameter?]
    have hrest := ih (before ++ [v])
    rw [List.length_append, List.append_assoc before [v] params] at hrest
    rw [List.length_cons, List.range'_succ, List.mapM_cons, hfirst]
    exact congrArg (fun found => found.bind fun vs => some (v :: vs)) hrest

end Placeholder

/-- The condition that a text states with numbers for its values. -/
def readNumbered (sql : String) (params : List Value) : Option Expr :=
  ((Placeholder.indices sql).mapM (Placeholder.parameter? params)).bind fun values =>
    readCondition (Placeholder.marks sql) values

namespace Template

open Placeholder

/-- A clean template has its marks where it has its numbers. -/
theorem marksFrom_sqlFrom {t : Template} (ht : Clean t) (next : Nat) {rest : List Char}
    (hrest : endsNumber rest = true) :
    marksFrom .plain false ((t.sqlFrom next).toList ++ rest) = t.marked.toList ++ marksFrom .plain false rest := by
  induction t generalizing next with
  | nil => rfl
  | cons piece t ih =>
    have htail : Clean t := fun s h => ht s (List.mem_cons_of_mem piece h)
    cases piece with
    | text sql =>
      rw [sqlFrom, marked, String.toList_append, String.toList_append, List.append_assoc, List.append_assoc,
        marksFrom_passes _ (ht sql (List.mem_cons_self ..)).passes, ih htail next]
    | value v =>
      have hmark : ("?" ++ Template.marked t).toList = '?' :: (Template.marked t).toList := by
        rw [String.toList_append]
        rfl
      rw [sqlFrom, marked, hmark, String.toList_append, String.toList_ofList, List.append_assoc,
        marksFrom_numbered _ (endsNumber_sqlFrom htail (next + 1) hrest), ih htail (next + 1), List.cons_append]

/-- With the numbers of its values among the parameters a clean template is read as with marks. -/
theorem readNumbered_sqlFrom {t : Template} (ht : Clean t) (before after : List Value)
    (hlen : before.length + t.params.length < 2 ^ 64) :
    readNumbered (t.sqlFrom (before.length + 1)) (before ++ t.params ++ after) =
      readCondition t.marked t.params := by
  have hend : endsNumber [] = true := rfl
  have hindices := indicesFrom_sqlFrom ht (before.length + 1) hend
  have hmarks := marksFrom_sqlFrom ht (before.length + 1) hend
  have hsmall : before.length + 1 + t.params.length ≤ 2 ^ 64 := by omega
  have hnone : indicesFrom .plain none [] = [] := rfl
  have hnothing : marksFrom .plain false [] = [] := rfl
  rw [filter_range' hsmall, hnone, List.append_nil, List.append_nil] at hindices
  rw [hnothing, List.append_nil, List.append_nil] at hmarks
  rw [readNumbered, indices, hindices, parameters_range', Option.bind_some, marks, hmarks, String.ofList_toList]

end Template

/-! ## Predicates with their values as they are bound -/

/-- The operand of a comparison as its values are bound; a list is bound item by item. -/
def Operator.bound (op : Operator) (value : Value) : Value :=
  match op with
  | .among | .notAmong => .array ((Condition.listItems value).map Value.unbracketed)
  | _ => value.unbracketed

namespace Predicate

mutual

/-- The predicate with its values as they are bound. -/
def bound : Predicate → Predicate
  | .compare field op value => .compare field op (op.bound value)
  | .all parts => .all (boundParts parts)
  | .any parts => .any (boundParts parts)
  | .not inner => .not (bound inner)

def boundParts : List Predicate → List Predicate
  | [] => []
  | part :: parts => bound part :: boundParts parts

end

end Predicate

theorem Value.isNull_unbracketed (v : Value) : v.unbracketed.isNull = v.isNull := by
  cases v with
  | string text =>
    simp only [Value.unbracketed]
    split
    · split
      · rw [Value.ofJson]
        rfl
      · rfl
    · rfl
  | _ => rfl

namespace Template

theorem map_append (f : Value → Value) (t u : Template) : (t ++ u).map f = t.map f ++ u.map f := by
  induction t with
  | nil => rfl
  | cons piece t ih =>
    cases piece with
    | text sql => exact congrArg (Piece.text sql :: ·) ih
    | value v => exact congrArg (Piece.value (f v) :: ·) ih

theorem map_intercalate (f : Value → Value) (word : String) : ∀ ts : List Template,
    (intercalate word ts).map f = intercalate word (ts.map (Template.map f))
  | [] => rfl
  | [t] => rfl
  | t :: u :: ts => by
    have hrest := map_intercalate f word (u :: ts)
    have hall := map_append f t (.text word :: intercalate word (u :: ts))
    rw [Template.map, hrest] at hall
    exact hall

theorem map_joined (f : Value → Value) (word empty : String) (outermost : Bool) (ts : List Template) :
    (joined word empty outermost ts).map f = joined word empty outermost (ts.map (Template.map f)) := by
  match ts with
  | [] => rfl
  | [t] => rfl
  | t :: u :: ts =>
    have hrest := map_intercalate f word (t :: u :: ts)
    cases outermost with
    | true => exact hrest
    | false =>
      have hall := map_append f (.text "(" :: intercalate word (t :: u :: ts)) [.text ")"]
      rw [Template.map, hrest] at hall
      exact hall

end Template

namespace Condition

theorem map_items (f : Value → Value) (values : List Value) : (items values).map f = items (values.map f) := by
  have hrest := Template.map_intercalate f ", " (values.map fun v => [.value v])
  have hall := Template.map_append f
    (.text "(" :: Template.intercalate ", " (values.map fun v => [.value v])) [.text ")"]
  rw [Template.map, hrest, List.map_map] at hall
  rw [items, hall, items, List.map_map]
  rfl

theorem clause_boundOperator (column : ColumnRef) (op : Operator) (value : Value) (outermost : Bool) :
    (ofOperator column op (op.bound value)).clause outermost =
      ((ofOperator column op value).clause outermost).map Value.unbracketed := by
  cases op with
  | isNull => rfl
  | isNotNull => rfl
  | compare comparison =>
    simp only [ofOperator, Operator.bound, Value.isNull_unbracketed]
    split
    · rfl
    · split <;> rfl
  | among =>
    have hitems : listItems (Operator.bound .among value) = (listItems value).map Value.unbracketed := rfl
    simp only [ofOperator, hitems]
    cases listItems value with
    | nil => rfl
    | cons v values => exact congrArg (Piece.text (column.sql ++ " IN ") :: ·) (map_items _ (v :: values)).symm
  | notAmong =>
    have hitems : listItems (Operator.bound .notAmong value) = (listItems value).map Value.unbracketed := rfl
    simp only [ofOperator, hitems]
    cases listItems value with
    | nil => rfl
    | cons v values => exact congrArg (Piece.text (column.sql ++ " NOT IN ") :: ·) (map_items _ (v :: values)).symm

mutual

/-- The clause of a predicate with bound values is its clause with each value bound. -/
theorem clause_bound (table : String) (outermost : Bool) : ∀ p : Predicate,
    (p.bound.condition table).clause outermost = ((p.condition table).clause outermost).map Value.unbracketed
  | .compare field op value => clause_boundOperator ⟨table, field⟩ op value outermost
  | .all parts => by
    rw [Predicate.bound, Predicate.condition, Predicate.condition, clause, clause, Template.map_joined,
      clauses_bound table parts]
  | .any parts => by
    rw [Predicate.bound, Predicate.condition, Predicate.condition, clause, clause, Template.map_joined,
      clauses_bound table parts]
  | .not inner => by
    have hall := Template.map_append Value.unbracketed (.text "NOT (" :: (inner.condition table).clause true)
      [.text ")"]
    rw [Template.map, ← clause_bound table true inner] at hall
    exact hall.symm

theorem clauses_bound (table : String) : ∀ ps : List Predicate,
    clauses (Predicate.conditions table (Predicate.boundParts ps)) =
      (clauses (Predicate.conditions table ps)).map (Template.map Value.unbracketed)
  | [] => rfl
  | p :: ps => by
    rw [Predicate.boundParts, Predicate.conditions, Predicate.conditions, clauses, clauses, List.map_cons,
      clause_bound table false p, clauses_bound table ps]

end

end Condition

/-- The clause of a filter is that of its predicate with bound values. -/
theorem filterClauses_eq (table : String) (predicate : Option Predicate) :
    filterClauses table predicate = predicate.toList.map fun p => (p.bound.condition table).clause true := by
  simp only [filterClauses, Condition.clause_bound]

end SqlAdapter
