/-
The text and the values of each statement, part by part.

A template with words between its parts is written as these words between the
texts of the parts, each numbered on from the one before (`Template.texts`). From
this come the texts of filters, orders, pages, new values and subqueries, and of the
statements that are made of them (`Statement.written_select` and its like), without
a template in sight.
-/
import SqlAdapter.Proofs.Condition.Clause
import SqlAdapter.Statement.Basic

namespace SqlAdapter

/-- The placeholder of a number. -/
def placeholder (number : Nat) : String := String.ofList (Placeholder.numbered number)

/-! ## Parts one after another -/

/-- Items that are one text already are items like the others. -/
theorem intercalate_intercalate_cons {word : String} {items : List String} (h : items ≠ []) (others : List String) :
    word.intercalate (word.intercalate items :: others) = word.intercalate (items ++ others) := by
  by_cases hothers : others = []
  · rw [hothers, List.append_nil, String.intercalate_singleton]
  · rw [String.intercalate_cons_of_ne_nil hothers, String.intercalate_append_of_ne_nil h hothers]

namespace Template

/-- The texts of templates, numbered one behind the other. -/
def texts (next : Nat) : List Template → List String
  | [] => []
  | t :: ts => t.sqlFrom next :: texts (next + t.params.length) ts

theorem sqlFrom_intercalate (word : String) (next : Nat) (ts : List Template) :
    (intercalate word ts).sqlFrom next = word.intercalate (texts next ts) := by
  induction ts generalizing next with
  | nil => rfl
  | cons t ts ih =>
    cases ts with
    | nil => rw [texts, texts, String.intercalate_singleton]; rfl
    | cons u ts =>
      have hrest := ih (next + t.params.length)
      have hall := sqlFrom_append next t (.text word :: intercalate word (u :: ts))
      rw [sqlFrom, hrest, ← String.append_assoc] at hall
      rw [texts, texts, String.intercalate_cons_cons]
      exact hall

theorem texts_append (next : Nat) (ts us : List Template) :
    texts next (ts ++ us) = texts next ts ++ texts (next + (ts.flatMap params).length) us := by
  induction ts generalizing next with
  | nil => rfl
  | cons t ts ih =>
    rw [List.cons_append, texts, texts, ih, List.cons_append, List.flatMap_cons, List.length_append, Nat.add_assoc]

/-- What holds of each template holds of its text. -/
theorem rel_texts {α : Type} {R : Template → α → Prop} {ts : List Template} {as : List α} (h : List.Forall₂ R ts as)
    (next : Nat) : List.Forall₂ (fun text a => ∃ t next, R t a ∧ text = t.sqlFrom next) (texts next ts) as := by
  induction h generalizing next with
  | nil => exact .nil
  | cons hfirst _ ih => exact .cons ⟨_, next, hfirst, rfl⟩ (ih _)

/-- Templates behind a blank each. -/
theorem sqlFrom_spaced (next : Nat) (ts : List Template) :
    Template.sqlFrom next (ts.flatMap fun t => .text " " :: t) = String.join ((texts next ts).map (" " ++ ·)) := by
  induction ts generalizing next with
  | nil => rfl
  | cons t ts ih =>
    rw [texts, List.map_cons, String.join_cons, ← ih, List.flatMap_cons, sqlFrom_append, sqlFrom, params]

theorem params_spaced (ts : List Template) :
    Template.params (ts.flatMap fun t => .text " " :: t) = ts.flatMap params := by
  induction ts with
  | nil => rfl
  | cons t ts ih => rw [List.flatMap_cons, List.flatMap_cons, params_append, params, ih]

/-- Values alone are written as their placeholders. -/
theorem texts_values (next : Nat) (values : List Value) :
    texts next (values.map fun v => [.value v]) = (List.range' next values.length).map placeholder := by
  induction values generalizing next with
  | nil => rfl
  | cons v values ih =>
    rw [List.map_cons, texts, List.length_cons, List.range'_succ, List.map_cons, ← ih, sqlFrom, sqlFrom,
      String.append_empty]
    rfl

end Template

/-! ## The condition of a statement -/

/-- A condition as it stands in a statement, if there is one. -/
def whereText : Option String → String
  | none => ""
  | some condition => " WHERE " ++ condition

/-- The values of a filter, none without one. -/
def filterParams (filter : Option Template) : List Value := (filter.map Template.params).getD []

theorem Template.sqlFrom_where (next : Nat) (filter : Option Template) :
    (Template.optional " WHERE " filter).sqlFrom next = whereText (filter.map (sqlFrom next)) := by
  cases filter <;> rfl

theorem Template.params_optional (before : String) (filter : Option Template) :
    (Template.optional before filter).params = filterParams filter := by
  cases filter <;> rfl

/-! ## Orders -/

theorem OrderKey.clause_of_ne_nil {keys : List OrderKey} (h : keys ≠ []) :
    OrderKey.clause keys = "ORDER BY " ++ OrderKey.listSql keys := by
  cases keys with
  | nil => exact absurd rfl h
  | cons => rfl

namespace SortKey

/-- The key as a column behind its table. -/
def orderKey (qualifier : String) (key : SortKey) : OrderKey := ⟨⟨qualifier, key.field⟩, key.direction⟩

/-- The order of a select as text: the fields behind their table, those in descending order with a word for it. -/
def orderText (table : String) (keys : List SortKey) : String :=
  if keys = [] then "ORDER BY 1"
  else "ORDER BY " ++ ", ".intercalate (keys.map fun key =>
    Identifier.qualified table key.field ++ if key.direction = .descending then " DESC" else "")

theorem clause_eq (table : String) (keys : List SortKey) :
    OrderKey.clause (keys.map (orderKey table)) = orderText table keys := by
  have hsql : OrderKey.sql ∘ orderKey table = fun key =>
      Identifier.qualified table key.field ++ if key.direction = .descending then " DESC" else "" := by
    funext ⟨field, direction⟩
    cases direction <;> rfl
  by_cases hkeys : keys = []
  · rw [hkeys]
    rfl
  · rw [OrderKey.clause_of_ne_nil (by simpa using hkeys), OrderKey.listSql, List.map_map, hsql, orderText, if_neg hkeys]

end SortKey

/-- The keys of an order that is accepted are columns behind their table. -/
theorem Compiler.order_keys {c : Compiler} {name qualifier : String} {sort : List SortKey} {order : List OrderKey}
    (h : c.order name qualifier sort = .ok order) : order = sort.map (SortKey.orderKey qualifier) := by
  have hall := Result.mapM_ok h
  refine (Result.forall₂_eq_map_iff.mp (hall.imp fun key made hkey => ?_)).symm
  obtain ⟨_, -, hkey⟩ := Result.bind_ok_iff.mp hkey
  split at hkey
  · split at hkey
    · exact Result.pure_ok_iff.mp hkey
    · cases hkey
  · exact Result.pure_ok_iff.mp hkey

/-! ## Pages and new values -/

theorem Page.limit_nonneg {limit skip : Option Int64} {page : Page} (h : Page.make limit skip = .ok page) :
    ∀ n, limit = some n → 0 ≤ n.toInt := by
  rintro n rfl
  simp only [Page.make, Option.getD_some] at h
  split at h
  · cases h
  · next hpage =>
    exact Int64.le_iff_toInt_le.mp (Int64.not_lt.mp (not_or.mp hpage).1)

theorem Page.sqlFrom_template (page : Page) (next : Nat) :
    page.template.sqlFrom next = "LIMIT " ++ placeholder next ++ " OFFSET " ++ placeholder (next + 1) := by
  simp only [template, Template.sqlFrom, placeholder, String.append_assoc, String.append_empty]

namespace Statement

theorem params_insertion (values : List (String × Value)) :
    Template.params (insertion values) = values.map (·.2) := by
  cases values with
  | nil => rfl
  | cons first more =>
    have hvalues : Template.params (Template.intercalate ", " ((first :: more).map fun cell => [.value cell.2])) =
        (first :: more).map (·.2) := by
      rw [Template.intercalate_params, List.flatMap_map]
      exact List.flatMap_pure_eq_map ..
    have hall := Template.params_append
      (.text (" (" ++ Identifier.quoteAll ((first :: more).map (·.1)) ++ ") VALUES (") ::
        Template.intercalate ", " ((first :: more).map fun cell => [.value cell.2])) [.text ")"]
    rw [Template.params, hvalues] at hall
    exact hall.trans (List.append_nil _)

theorem params_assignments (values : List (String × Value)) :
    Template.params (assignments values) = values.map (·.2) := by
  rw [assignments, Template.intercalate_params, List.flatMap_map]
  exact List.flatMap_pure_eq_map ..

/-- The values of a new row are the placeholders from a number on, as many as there are columns. -/
theorem sqlFrom_insertion (values : List (String × Value)) (h : values ≠ []) (next : Nat) :
    (insertion values).sqlFrom next = " (" ++ ", ".intercalate (values.map fun cell => Identifier.quote cell.1) ++
      ") VALUES (" ++ ", ".intercalate ((List.range' next values.length).map placeholder) ++ ")" := by
  have hvalues : (Template.intercalate ", " (values.map fun cell => [.value cell.2])).sqlFrom next =
      ", ".intercalate ((List.range' next values.length).map placeholder) := by
    have htexts := Template.texts_values next (values.map (·.2))
    rw [List.map_map, List.length_map] at htexts
    rw [Template.sqlFrom_intercalate, ← htexts]
    rfl
  cases values with
  | nil => exact absurd rfl h
  | cons first more =>
    have hall := Template.sqlFrom_append next
      (.text (" (" ++ Identifier.quoteAll ((first :: more).map (·.1)) ++ ") VALUES (") ::
        Template.intercalate ", " ((first :: more).map fun cell => [.value cell.2])) [.text ")"]
    have hclose : ∀ n, Template.sqlFrom n [.text ")"] = ")" := fun _ => String.append_empty
    rw [Template.sqlFrom, hvalues, hclose] at hall
    rw [← Identifier.quoteAll_map]
    exact hall

end Statement

/-! ## Subqueries and joined selects -/

/-- A filter as it stands among conditions. -/
def Template.enclosed (t : Template) : Template := .text "(" :: t ++ [.text ")"]

theorem Template.sqlFrom_enclosed (next : Nat) (t : Template) :
    t.enclosed.sqlFrom next = "(" ++ t.sqlFrom next ++ ")" := by
  have hclose : ∀ n, sqlFrom n [.text ")"] = ")" := fun _ => String.append_empty
  rw [enclosed, sqlFrom_append, sqlFrom, hclose]

theorem Template.params_enclosed (t : Template) : t.enclosed.params = t.params := by
  rw [enclosed, params_append, params]
  exact List.append_nil _

theorem Template.texts_enclosed (next : Nat) (ts : List Template) :
    texts next (ts.map enclosed) = (texts next ts).map fun text => "(" ++ text ++ ")" := by
  induction ts generalizing next with
  | nil => rfl
  | cons t ts ih => rw [List.map_cons, texts, texts, List.map_cons, sqlFrom_enclosed, params_enclosed, ih]

theorem Template.params_enclosedAll (ts : List Template) :
    (ts.map enclosed).flatMap Template.params = ts.flatMap Template.params := by
  rw [List.flatMap_map]
  exact List.flatMap_congr fun t _ => t.params_enclosed

namespace Lateral

theorem params_condition (l : Lateral) :
    (Template.intercalate " AND " l.conditions).params = l.filters.flatMap Template.params := by
  have hfilters := Template.params_enclosedAll l.filters
  rw [Template.intercalate_params, conditions, List.flatMap_append]
  exact (List.append_nil _).trans hfilters

/-- The condition of a subquery: its filters in parentheses, and the equation of the keys. -/
theorem sqlFrom_condition (l : Lateral) (next : Nat) : (Template.intercalate " AND " l.conditions).sqlFrom next =
    " AND ".intercalate (Template.texts next (l.filters.map Template.enclosed) ++
      [l.inner.sql ++ " = " ++ l.outer.sql]) := by
  have htexts := Template.texts_append next (l.filters.map Template.enclosed)
    [[.text (l.inner.sql ++ " = " ++ l.outer.sql)]]
  simp only [Template.texts, Template.sqlFrom, String.append_empty] at htexts
  rw [Template.sqlFrom_intercalate, ← htexts]
  rfl

theorem params_subquery (l : Lateral) :
    Template.params l.subquery = l.filters.flatMap Template.params ++ l.page.template.params := by
  simp only [subquery, List.cons_append, Template.params, Template.params_append, params_condition]

theorem sqlFrom_subquery (l : Lateral) (next : Nat) : Template.sqlFrom next l.subquery =
    "SELECT " ++ Identifier.quote l.child ++ ".* FROM " ++ l.source ++ " WHERE " ++
      (Template.intercalate " AND " l.conditions).sqlFrom next ++ " " ++ OrderKey.clause l.order ++ " " ++
      l.page.template.sqlFrom (next + (Template.intercalate " AND " l.conditions).params.length) := by
  simp only [subquery, List.cons_append, Template.sqlFrom, Template.sqlFrom_append, String.append_assoc]

theorem params_template (l : Lateral) : Template.params l.template = Template.params l.subquery := by
  rw [template, List.cons_append, Template.params, Template.params_append]
  exact List.append_nil _

theorem sqlFrom_template (l : Lateral) (next : Nat) : Template.sqlFrom next l.template =
    "LEFT JOIN LATERAL (" ++ l.subquery.sqlFrom next ++ ") AS " ++ Identifier.quote l.name ++ " ON TRUE" := by
  simp only [template, List.cons_append, Template.sqlFrom, Template.sqlFrom_append, String.append_assoc,
    String.append_empty]

end Lateral

namespace JoinedSelect

/-- The subqueries, one after another. -/
def lateralsTemplate (ls : List Lateral) : Template := ls.flatMap fun l => .text " " :: l.template

/-- What is selected. -/
def listSql (s : JoinedSelect) : String := ", ".intercalate (s.rootSql :: s.associations.map AssociationColumn.sql)

/-- What stands behind the subqueries. -/
def restTemplate (s : JoinedSelect) : Template :=
  Template.optional " WHERE " s.filter ++
    .text (" GROUP BY " ++ s.key.sql ++ " " ++ OrderKey.clause s.order ++ " ") :: s.page.template

theorem template_eq (s : JoinedSelect) : s.template =
    .text ("SELECT " ++ s.listSql ++ " FROM " ++ Identifier.quote s.root) ::
      (lateralsTemplate s.laterals ++ s.restTemplate) := by
  rw [template, restTemplate, List.cons_append, List.cons_append, List.append_assoc]
  rfl

theorem sqlFrom_laterals (next : Nat) (ls : List Lateral) : (lateralsTemplate ls).sqlFrom next =
    String.join ((Template.texts next (ls.map Lateral.template)).map (" " ++ ·)) := by
  rw [← Template.sqlFrom_spaced, List.flatMap_map]
  rfl

theorem params_laterals (ls : List Lateral) :
    (lateralsTemplate ls).params = (ls.map Lateral.template).flatMap Template.params := by
  rw [← Template.params_spaced, List.flatMap_map]
  rfl

end JoinedSelect

/-! ## Statements -/

namespace Statement

/-- The text of a statement with its values. -/
def written (s : Statement) : Query := ⟨s.template.sqlFrom 1, s.template.params⟩

variable (table : String) (filter : Option Template)

theorem written_select (order : List OrderKey) (page : Page) : (Statement.select table filter order page).written =
    ⟨"SELECT * FROM " ++ Identifier.quote table ++ whereText (filter.map (Template.sqlFrom 1)) ++
        (" " ++ OrderKey.clause order ++ " ") ++ page.template.sqlFrom (1 + (filterParams filter).length),
      filterParams filter ++ page.template.params⟩ := by
  simp only [written, template, Template.sqlFrom_append, Template.params_append, Template.sqlFrom, Template.params,
    Template.sqlFrom_where, Template.params_optional, String.append_assoc]

theorem written_joined (s : JoinedSelect) : (Statement.joined s).written =
    ⟨"SELECT " ++ s.listSql ++ " FROM " ++ Identifier.quote s.root ++
        String.join ((Template.texts 1 (s.laterals.map Lateral.template)).map (" " ++ ·)) ++
        whereText (s.filter.map
          (Template.sqlFrom (1 + ((s.laterals.map Lateral.template).flatMap Template.params).length))) ++
        " GROUP BY " ++ s.key.sql ++ " " ++ OrderKey.clause s.order ++ " " ++
        s.page.template.sqlFrom (1 + ((s.laterals.map Lateral.template).flatMap Template.params).length +
          (filterParams s.filter).length),
      (s.laterals.map Lateral.template).flatMap Template.params ++ filterParams s.filter ++ s.page.template.params⟩ := by
  simp only [written, template, s.template_eq, JoinedSelect.restTemplate, Template.sqlFrom, Template.params,
    Template.sqlFrom_append, Template.params_append, Template.sqlFrom_where, Template.params_optional,
    JoinedSelect.sqlFrom_laterals, JoinedSelect.params_laterals, String.append_assoc, List.append_assoc]

theorem written_insert (values : List (String × Value)) : (Statement.insert table values).written =
    ⟨"INSERT INTO " ++ Identifier.quote table ++ (insertion values).sqlFrom 1 ++ " RETURNING *", values.map (·.2)⟩ := by
  simp only [written, template, Template.sqlFrom_append, Template.params_append, Template.sqlFrom, Template.params,
    params_insertion, String.append_assoc, String.append_empty, List.append_nil, List.cons_append]

theorem written_count : (Statement.count table filter).written =
    ⟨"SELECT COUNT(*) AS \"count\" FROM " ++ Identifier.quote table ++ whereText (filter.map (Template.sqlFrom 1)),
      filterParams filter⟩ := by
  simp only [written, template, Template.sqlFrom, Template.params, Template.sqlFrom_where, Template.params_optional]

theorem written_delete : (Statement.delete table filter).written =
    ⟨"DELETE FROM " ++ Identifier.quote table ++ whereText (filter.map (Template.sqlFrom 1)) ++ " RETURNING *",
      filterParams filter⟩ := by
  simp only [written, template, Template.sqlFrom_append, Template.params_append, Template.sqlFrom, Template.params,
    Template.sqlFrom_where, Template.params_optional, String.append_empty, List.append_nil]

theorem written_update (values : List (String × Value)) : (Statement.update table values filter).written =
    ⟨"UPDATE " ++ Identifier.quote table ++ " SET " ++ (assignments values).sqlFrom 1 ++
        whereText (filter.map (Template.sqlFrom (1 + values.length))) ++ " RETURNING *",
      values.map (·.2) ++ filterParams filter⟩ := by
  simp only [written, template, Template.sqlFrom_append, Template.params_append, Template.sqlFrom, Template.params,
    Template.sqlFrom_where, Template.params_optional, params_assignments, List.length_map, String.append_assoc,
    String.append_empty, List.append_nil]

end Statement

end SqlAdapter
