/-
Filters as clauses: what a predicate says of the rows of a table, and the
template that says it in SQL.

`Predicate.condition` is the condition of a predicate without the checks that
`Condition.ofPredicate` makes on the way (`ofPredicate_ok`). `Condition.clause`
is its SQL with each value where `Condition.text` has a mark (`clause_marked`)
and with all other text inert (`clause_clean`), so the standard way of writing a
filter has as many marks as values and puts each value at its own comparison
(`filter_ok`, `filter_template`).
-/
import SqlAdapter.Proofs.Result
import SqlAdapter.Proofs.Sql.Template
import SqlAdapter.Statement.Clause

namespace SqlAdapter

/-! ## Predicates without their checks -/

namespace Predicate

mutual

/-- What a predicate says of the rows of a table. -/
def condition (table : String) : Predicate → Condition
  | .compare field op value => Condition.ofOperator ⟨table, field⟩ op value
  | .all parts => .all (conditions table parts)
  | .any parts => .any (conditions table parts)
  | .not inner => .not (condition table inner)

/-- What each of several predicates says. -/
def conditions (table : String) : List Predicate → List Condition
  | [] => []
  | part :: parts => condition table part :: conditions table parts

end

end Predicate

namespace Condition

theorem columnOf_ok {schema : Schema} {table field : String} {column : ColumnRef}
    (h : columnOf schema table field = .ok column) : column = ⟨table, field⟩ := by
  rw [columnOf, Result.bind_ok_iff] at h
  obtain ⟨_, -, h⟩ := h
  split at h
  · split at h
    · exact (Result.pure_ok_iff.mp h).symm
    · cases h
  · exact (Result.pure_ok_iff.mp h).symm

mutual

/-- A predicate that is accepted makes the condition that it states. -/
theorem ofPredicate_ok {schema : Schema} {table : String} : ∀ {p : Predicate} {c : Condition},
    ofPredicate schema table p = .ok c → c = p.condition table
  | .compare field op value, c, h => by
    rw [ofPredicate, Result.bind_ok_iff] at h
    obtain ⟨column, hcolumn, h⟩ := h
    rw [columnOf_ok hcolumn] at h
    exact (Result.pure_ok_iff.mp h).symm
  | .all parts, c, h => by
    rw [ofPredicate, Result.bind_ok_iff] at h
    obtain ⟨cs, hcs, h⟩ := h
    rw [ofParts_ok hcs] at h
    exact (Result.pure_ok_iff.mp h).symm
  | .any parts, c, h => by
    rw [ofPredicate, Result.bind_ok_iff] at h
    obtain ⟨cs, hcs, h⟩ := h
    rw [ofParts_ok hcs] at h
    exact (Result.pure_ok_iff.mp h).symm
  | .not inner, c, h => by
    rw [ofPredicate, Result.bind_ok_iff] at h
    obtain ⟨d, hd, h⟩ := h
    rw [ofPredicate_ok hd] at h
    exact (Result.pure_ok_iff.mp h).symm

theorem ofParts_ok {schema : Schema} {table : String} : ∀ {ps : List Predicate} {cs : List Condition},
    ofParts schema table ps = .ok cs → cs = Predicate.conditions table ps
  | [], cs, h => by
    rw [ofParts] at h
    cases h
    rfl
  | p :: ps, cs, h => by
    rw [ofParts, Result.bind_ok_iff] at h
    obtain ⟨first, hfirst, h⟩ := h
    rw [Result.bind_ok_iff] at h
    obtain ⟨rest, hrest, h⟩ := h
    rw [ofPredicate_ok hfirst, ofParts_ok hrest] at h
    exact (Result.pure_ok_iff.mp h).symm

end

end Condition

theorem ColumnRef.inert (c : ColumnRef) : Inert c.sql := Inert.qualified c.qualifier c.column

/-! ## Conditions as templates -/

namespace Template

/-- Templates joined by a word, in parentheses where `Condition.joined` writes them. -/
def joined (word empty : String) (outermost : Bool) : List Template → Template
  | [] => [.text empty]
  | [part] => part
  | parts =>
    if outermost then intercalate word parts else .text "(" :: intercalate word parts ++ [.text ")"]

theorem intercalate_marked (word : String) : ∀ ts : List Template,
    (intercalate word ts).marked = word.intercalate (ts.map marked)
  | [] => rfl
  | [t] => by rw [List.map_singleton, String.intercalate_singleton]; rfl
  | t :: u :: ts => by
    have hrest := intercalate_marked word (u :: ts)
    rw [List.map_cons] at hrest
    rw [List.map_cons, List.map_cons, String.intercalate_cons_cons, ← hrest, String.append_assoc]
    exact marked_append t (.text word :: intercalate word (u :: ts))

theorem intercalate_params (word : String) : ∀ ts : List Template,
    (intercalate word ts).params = ts.flatMap params
  | [] => rfl
  | [t] => (List.append_nil _).symm
  | t :: u :: ts => by
    rw [List.flatMap_cons, ← intercalate_params word (u :: ts)]
    exact params_append t (.text word :: intercalate word (u :: ts))

theorem joined_marked (word empty : String) (outermost : Bool) (ts : List Template) :
    (joined word empty outermost ts).marked = Condition.joined word empty outermost (ts.map marked) := by
  match ts with
  | [] => exact String.append_empty
  | [t] => rfl
  | t :: u :: ts =>
    cases outermost with
    | true => exact intercalate_marked word (t :: u :: ts)
    | false =>
      have hrest := intercalate_marked word (t :: u :: ts)
      have hclose : marked [.text ")"] = ")" := String.append_empty
      have hall := marked_append (.text "(" :: intercalate word (t :: u :: ts)) [.text ")"]
      rw [hclose, marked, hrest] at hall
      exact hall

theorem joined_params (word empty : String) (outermost : Bool) (ts : List Template) :
    (joined word empty outermost ts).params = ts.flatMap params := by
  match ts with
  | [] => rfl
  | [t] => exact (List.append_nil _).symm
  | t :: u :: ts =>
    have hrest := intercalate_params word (t :: u :: ts)
    cases outermost with
    | true => exact hrest
    | false =>
      have hall := params_append (.text "(" :: intercalate word (t :: u :: ts)) [.text ")"]
      rw [params, hrest] at hall
      exact hall.trans (List.append_nil _)

theorem Clean.joined {word empty : String} (hword : Inert word) (hempty : Inert empty) (outermost : Bool)
    {ts : List Template} (h : ∀ t ∈ ts, Clean t) : Clean (Template.joined word empty outermost ts) := by
  match ts with
  | [] => exact text hempty nil
  | [t] => exact h t (List.mem_singleton_self t)
  | t :: u :: ts =>
    have hall : Clean (Template.intercalate word (t :: u :: ts)) := intercalate hword h
    cases outermost with
    | true => exact hall
    | false => exact (text Inert.opening hall).append (text Inert.closing nil)

end Template

namespace Condition

/-- A list of values in parentheses. -/
def items (values : List Value) : Template :=
  .text "(" :: Template.intercalate ", " (values.map fun v => [.value v]) ++ [.text ")"]

mutual

/-- The condition with its values in place, as it stands alone or inside another one. -/
def clause (outermost : Bool) : Condition → Template
  | .constant holds => [.text (if holds then "TRUE" else "FALSE")]
  | .isNull column => [.text (column.sql ++ " IS NULL")]
  | .isNotNull column => [.text (column.sql ++ " IS NOT NULL")]
  | .compare column comparison value => [.text (column.sql ++ " " ++ comparison.sql ++ " "), .value value]
  | .among column values => .text (column.sql ++ " IN ") :: items values
  | .notAmong column values => .text (column.sql ++ " NOT IN ") :: items values
  | .all parts => Template.joined " AND " "TRUE" outermost (clauses parts)
  | .any parts => Template.joined " OR " "FALSE" outermost (clauses parts)
  | .not inner => .text "NOT (" :: clause true inner ++ [.text ")"]

/-- The parts of a condition, as they stand inside it. -/
def clauses : List Condition → List Template
  | [] => []
  | part :: parts => clause false part :: clauses parts

end

theorem items_marked (values : List Value) : (items values).marked = marks values := by
  have hmarks : (values.map fun v => [Piece.value v]).map Template.marked = values.map fun _ => "?" := by
    rw [List.map_map]
    rfl
  have hrest := Template.intercalate_marked ", " (values.map fun v => [.value v])
  have hclose : Template.marked [.text ")"] = ")" := String.append_empty
  have hall := Template.marked_append
    (.text "(" :: Template.intercalate ", " (values.map fun v => [.value v])) [.text ")"]
  rw [hclose, Template.marked, hrest, hmarks] at hall
  exact hall

theorem items_params (values : List Value) : (items values).params = values := by
  have hrest : Template.params (Template.intercalate ", " (values.map fun v => [.value v])) = values := by
    rw [Template.intercalate_params, List.flatMap_map]
    exact List.flatMap_singleton' values
  have hall := Template.params_append
    (.text "(" :: Template.intercalate ", " (values.map fun v => [.value v])) [.text ")"]
  rw [Template.params, hrest] at hall
  exact hall.trans (List.append_nil _)

mutual

/-- With marks in place of its values the clause of a condition is its text. -/
theorem clause_marked (outermost : Bool) : ∀ c : Condition, (c.clause outermost).marked = c.text outermost
  | .constant holds => String.append_empty
  | .isNull column => String.append_empty
  | .isNotNull column => String.append_empty
  | .compare column comparison value => by
    have hmark : (" " : String) ++ "?" = " ?" := rfl
    simp only [clause, Template.marked, text, String.append_empty, String.append_assoc, hmark]
  | .among column values => by
    rw [clause, Template.marked, items_marked, text]
  | .notAmong column values => by
    rw [clause, Template.marked, items_marked, text]
  | .all parts => by
    rw [clause, Template.joined_marked, clauses_marked parts, text]
  | .any parts => by
    rw [clause, Template.joined_marked, clauses_marked parts, text]
  | .not inner => by
    have hclose : Template.marked [.text ")"] = ")" := String.append_empty
    have hall := Template.marked_append (.text "NOT (" :: clause true inner) [.text ")"]
    rw [hclose, Template.marked, clause_marked true inner] at hall
    exact hall

theorem clauses_marked : ∀ cs : List Condition, (clauses cs).map Template.marked = texts cs
  | [] => rfl
  | c :: cs => by rw [clauses, List.map_cons, clause_marked false c, clauses_marked cs, texts]

end

mutual

theorem clause_params (outermost : Bool) : ∀ c : Condition, (c.clause outermost).params = c.values
  | .constant holds => rfl
  | .isNull column => rfl
  | .isNotNull column => rfl
  | .compare column comparison value => rfl
  | .among column values => by
    rw [clause, Template.params, items_params, Condition.values]
  | .notAmong column values => by
    rw [clause, Template.params, items_params, Condition.values]
  | .all parts => by rw [clause, Template.joined_params, clauses_params parts, values]
  | .any parts => by rw [clause, Template.joined_params, clauses_params parts, values]
  | .not inner => by
    have hall := Template.params_append (.text "NOT (" :: clause true inner) [.text ")"]
    rw [Template.params, clause_params true inner] at hall
    exact hall.trans (List.append_nil _)

theorem clauses_params : ∀ cs : List Condition, (clauses cs).flatMap Template.params = valuesOf cs
  | [] => rfl
  | c :: cs => by rw [clauses, List.flatMap_cons, clause_params false c, clauses_params cs, valuesOf]

end

/-! ## Inert text around the values -/

theorem inert_comparison (comparison : Comparison) : Inert (" " ++ comparison.sql ++ " ") := by
  cases comparison <;> exact .word (by decide)

theorem clean_items (values : List Value) : Template.Clean (items values) := by
  have hall : Template.Clean (Template.intercalate ", " (values.map fun v => [.value v])) := by
    refine Template.Clean.intercalate Inert.comma fun t ht => ?_
    obtain ⟨v, -, rfl⟩ := List.mem_map.mp ht
    exact .value v .nil
  exact (Template.Clean.text Inert.opening hall).append (.text Inert.closing .nil)

mutual

/-- Around its values the clause of a condition has no placeholder of its own. -/
theorem clause_clean (outermost : Bool) : ∀ c : Condition, Template.Clean (c.clause outermost)
  | .constant true => .text (.word (by decide)) .nil
  | .constant false => .text (.word (by decide)) .nil
  | .isNull column => .text (column.inert.append (.word (by decide))) .nil
  | .isNotNull column => .text (column.inert.append (.word (by decide))) .nil
  | .compare column comparison value => by
    have hword := column.inert.append (inert_comparison comparison)
    simp only [← String.append_assoc] at hword
    exact .text hword (.value value .nil)
  | .among column values => .text (column.inert.append (.word (by decide))) (clean_items values)
  | .notAmong column values => .text (column.inert.append (.word (by decide))) (clean_items values)
  | .all parts => .joined .andWord (.word (by decide)) outermost (clauses_clean parts)
  | .any parts => .joined (.word (by decide)) (.word (by decide)) outermost (clauses_clean parts)
  | .not inner => (Template.Clean.text (.word (by decide)) (clause_clean true inner)).append (.text Inert.closing .nil)

theorem clauses_clean : ∀ cs : List Condition, ∀ t ∈ clauses cs, Template.Clean t
  | [], _, h => (nomatch h)
  | c :: cs, t, h => by
    rcases List.mem_cons.mp h with rfl | h
    · exact clause_clean false c
    · exact clauses_clean cs t h

end

/-- The fragment of a condition has as many marks as values, and writes its clause. -/
theorem fragment_template (c : Condition) :
    ∃ t, c.fragment.template = .ok t ∧ t.Same ((c.clause true).map Value.unbracketed) := by
  have h := Template.template_ofTemplate (clause_clean true c)
  rw [clause_marked, clause_params] at h
  exact h

end Condition

/-! ## Filters -/

/-- The clause of a filter, if there is one; strings that hold JSON arrays are arrays in it. -/
def filterClauses (table : String) (predicate : Option Predicate) : List Template :=
  predicate.toList.map fun p => ((p.condition table).clause true).map Value.unbracketed

theorem filterClauses_clean (table : String) (predicate : Option Predicate) :
    ∀ t ∈ filterClauses table predicate, Template.Clean t := by
  intro t ht
  obtain ⟨p, -, rfl⟩ := List.mem_map.mp ht
  exact (Condition.clause_clean true _).map Value.unbracketed

namespace Compiler

variable {schema : Schema} {table : String}

theorem standard_ok {p : Predicate} {f : Fragment} (h : FilterWriter.standard schema table p = .ok f) :
    f = (p.condition table).fragment := by
  rw [FilterWriter.standard, Result.bind_ok_iff] at h
  obtain ⟨c, hc, h⟩ := h
  rw [Condition.ofPredicate_ok hc] at h
  exact (Result.pure_ok_iff.mp h).symm

/-- A filter is written as its clause. -/
theorem filter_ok {predicate : Option Predicate} {filter : Option Template}
    (h : (ofSchema schema).filter table predicate = .ok filter) :
    List.Forall₂ Template.Same filter.toList (filterClauses table predicate) := by
  cases predicate with
  | none =>
    cases h
    exact .nil
  | some p =>
    rw [Compiler.filter, Result.bind_ok_iff] at h
    obtain ⟨f, hf, h⟩ := h
    rw [Result.bind_ok_iff] at h
    obtain ⟨t, ht, h⟩ := h
    obtain ⟨u, hu, hsame⟩ := Condition.fragment_template (p.condition table)
    rw [standard_ok hf, hu] at ht
    cases ht
    cases Result.pure_ok_iff.mp h
    exact .cons hsame .nil

end Compiler

end SqlAdapter
