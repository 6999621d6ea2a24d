/-
Statements written with the values bound so far in hand.

The compiler makes a statement as a template and numbers all of its values when it
is complete. Here every part is text from the beginning: the marks of a filter get
the numbers behind the values bound before it, the two numbers of a page those
behind the filter's, and the texts are put together without another look at the
numbers. Whatever the order in which they are put together, the values are bound in
the order in which the parts are written.

Both ways are the same, to the last failure (`Compiler.threaded_eq`). Each part has
a lemma that says so for any values bound before it; `Fragment.number_eq` is the one
in which a numbered fragment meets a template.
-/
import SqlAdapter.Proofs.Statement.Joins
import SqlAdapter.Proofs.Statement.Request
import SqlAdapter.Proofs.Statement.Texts

namespace SqlAdapter

/-! ## Fragments -/

namespace Fragment

theorem sqlFrom_weave (next : Nat) {pieces : List (List Char)} {values : List Value}
    (h : pieces.length = values.length + 1) :
    Template.sqlFrom next (weave pieces values) = String.ofList (Placeholder.weave next pieces) := by
  induction values generalizing next pieces with
  | nil =>
    obtain ⟨piece, rfl⟩ := List.length_eq_one_iff.mp h
    exact String.append_empty
  | cons v values ih =>
    obtain ⟨piece, rest, rfl⟩ := List.exists_cons_of_length_eq_add_one h
    have hrest : rest.length = values.length + 1 := by simpa using h
    obtain ⟨second, more, rfl⟩ := List.exists_cons_of_length_eq_add_one hrest
    have hweave : Placeholder.weave next (piece :: second :: more) =
        piece ++ Placeholder.numbered next ++ Placeholder.weave (next + 1) (second :: more) := rfl
    rw [weave, Template.sqlFrom, Template.sqlFrom, ih (next + 1) hrest, hweave, String.ofList_append,
      String.ofList_append, String.append_assoc]

theorem params_weave {pieces : List (List Char)} {values : List Value} (h : pieces.length = values.length + 1) :
    Template.params (weave pieces values) = values := by
  induction values generalizing pieces with
  | nil =>
    obtain ⟨piece, rfl⟩ := List.length_eq_one_iff.mp h
    rfl
  | cons v values ih =>
    obtain ⟨piece, rest, rfl⟩ := List.exists_cons_of_length_eq_add_one h
    have hrest : rest.length = values.length + 1 := by simpa using h
    rw [weave, Template.params, Template.params, ih hrest]

/-- A fragment with its marks numbered from any number on is the text of its template, and its values
are those of the template. -/
theorem number_eq {f : Fragment} {t : Template} (h : f.template = .ok t) (next : Nat) :
    Placeholder.number f.sql next = (t.sqlFrom next, f.values.length) ∧ t.params = f.values.map Value.unbracketed := by
  simp only [template] at h
  split at h
  · cases h
  · next hcount =>
    cases h
    have hpieces : (Placeholder.pieces f.sql).length = (f.values.map Value.unbracketed).length + 1 := by
      have hsome := List.length_pos_of_ne_nil (Placeholder.piecesFrom_ne_nil .plain f.sql.toList)
      rw [Placeholder.pieces] at hcount ⊢
      rw [List.length_map]
      omega
    refine ⟨?_, params_weave hpieces⟩
    rw [Placeholder.number, sqlFrom_weave next hpieces, hpieces, List.length_map, Nat.add_sub_cancel]

end Fragment

namespace Compiler

/-! ## Parts of a statement as text -/

/-- The filter of a predicate on a table as text, its marks numbered behind the values bound before. -/
def filterText (c : Compiler) (table : String) (predicate : Option Predicate) (bound : List Value) :
    Result (Option String × List Value) :=
  match predicate with
  | none => .ok (none, bound)
  | some p => do
    let fragment ← c.writeFilter c.schema table p
    let (sql, marks) := Placeholder.number fragment.sql (bound.length + 1)
    if marks ≠ fragment.values.length then .error (.fragmentValues marks fragment.values.length)
    else return (some sql, bound ++ fragment.values.map Value.unbracketed)

/-- The page for a limit and a skip as text; its two values are bound behind those before. -/
def pageText (limit skip : Option Int64) (bound : List Value) : Result (String × List Value) :=
  let limit := limit.getD Int64.maxValue
  let skip := skip.getD 0
  if limit < 0 ∨ skip < 0 then .error (.negativePage limit.toInt skip.toInt)
  else
    let bound := bound ++ [.bigInt limit]
    let first := placeholder bound.length
    let bound := bound ++ [.bigInt skip]
    .ok ("LIMIT " ++ first ++ " OFFSET " ++ placeholder bound.length, bound)

/-- A page of the rows of a table that meet conditions. -/
def pagedText (c : Compiler) (child source : String) (conditions : List String) (nested : Criteria)
    (bound : List Value) : Result (String × List Value) := do
  let order ← c.order child child nested.sort
  let (page, bound) ← pageText nested.limit nested.skip bound
  return ("SELECT " ++ Identifier.quote child ++ ".* FROM " ++ source ++ " WHERE " ++
    " AND ".intercalate conditions ++ " " ++ OrderKey.clause order ++ " " ++ page, bound)

/-- A filter in parentheses, if there is one. -/
def enclosedText (filter : Option String) : List String := (filter.map fun sql => "(" ++ sql ++ ")").toList

/-- The subquery of a join. -/
def directText (c : Compiler) (j : Join Criteria) (bound : List Value) : Result (String × List Value) := do
  let child := Identifier.truncate j.child
  let parent := Identifier.truncate j.parent
  if child = parent then .error j.selfJoin
  else
    let (filter, bound) ← c.filterText child j.nested.predicate bound
    let key := Identifier.qualified child j.childKey ++ " = " ++ Identifier.qualified parent j.parentKey
    c.pagedText child (Identifier.quote child) (enclosedText filter ++ [key]) j.nested bound

/-- The subquery of a junction join, with the table of the join that links to it. -/
def junctionText (c : Compiler) (link j : Join Criteria) (bound : List Value) : Result (String × List Value) := do
  let child := Identifier.truncate j.child
  let junction := Identifier.truncate j.parent
  let parent := Identifier.truncate link.parent
  if child = parent ∨ junction = parent ∨ child = junction then .error j.selfJoin
  else
    let (filter, bound) ← c.filterText child j.nested.predicate bound
    let (linkFilter, bound) ← c.filterText junction link.nested.predicate bound
    let key := Identifier.qualified junction link.childKey ++ " = " ++ Identifier.qualified parent link.parentKey
    let source := Identifier.quote junction ++ " JOIN " ++ Identifier.quote child ++ " ON " ++
      Identifier.qualified child j.childKey ++ " = " ++ Identifier.qualified junction j.parentKey
    c.pagedText child source (enclosedText filter ++ enclosedText linkFilter ++ [key]) j.nested bound

/-- The subquery of a join, through the join into its junction table where it has one. -/
def subqueryText (c : Compiler) (j : LinkedJoin) (bound : List Value) : Result (String × List Value) :=
  match j.link with
  | some (link, _) => c.junctionText link j.join bound
  | none => c.directText j.join bound

/-- The column of a join, if it is selected. -/
def columnTexts (c : Compiler) (joins : List LinkedJoin) (j : Join Criteria) : Result (List String) :=
  if j.select then do return [(← c.association j (laterals joins).length).sql] else return []

/-- The subqueries and the columns of joins, one join after another. -/
def joinTexts (c : Compiler) (joins : List LinkedJoin) :
    List (LinkedJoin × Nat) → List Value → Result ((List String × List String) × List Value)
  | [], bound => .ok (([], []), bound)
  | (j, index) :: places, bound => do
    c.checkJoin j.join
    if isFolded joins index j.join then joinTexts c joins places bound
    else
      let (subquery, bound) ← c.subqueryText j bound
      let lateral := "LEFT JOIN LATERAL (" ++ subquery ++ ") AS " ++ Identifier.quote (lateralName j.join) ++ " ON TRUE"
      let columns ← c.columnTexts joins j.join
      let ((more, others), bound) ← joinTexts c joins places bound
      return ((lateral :: more, columns ++ others), bound)

/-- New values for columns, one after another. -/
def assignmentTexts (c : Compiler) (table : String) :
    List (String × Value) → List Value → Result (List String × List Value)
  | [], bound => .ok ([], bound)
  | (column, value) :: values, bound => do
    let v ← c.encode table column value
    let bound := bound ++ [v]
    let (more, after) ← assignmentTexts c table values bound
    return ((Identifier.quote column ++ " = " ++ placeholder bound.length) :: more, after)

/-! ## Statements as text -/

/-- The rows that criteria without joins choose. -/
def selectText (c : Compiler) (table : String) (criteria : Criteria) : Result Query := do
  Identifier.check table
  let table := Identifier.truncate table
  let (filter, bound) ← c.filterText table criteria.predicate []
  let order ← c.order table table criteria.sort
  let (page, bound) ← pageText criteria.limit criteria.skip bound
  Query.make ("SELECT * FROM " ++ Identifier.quote table ++ whereText filter ++ (" " ++ OrderKey.clause order ++ " ") ++
    page) bound

/-- The columns of the root in a select list. -/
def rootText (root : String) : RootColumns → String
  | .all => Identifier.quote root ++ ".*"
  | .some names => ", ".intercalate (names.map (Identifier.qualified root))

/-- The rows of a table with their associations. -/
def joinedText (c : Compiler) (table : String) (criteria : Criteria) : Result Query := do
  Identifier.check table
  let root := Identifier.truncate table
  let joins ← linked criteria.joins
  let columns ← c.rootColumns root criteria.joins
  let ((laterals, associations), bound) ← c.joinTexts joins joins.zipIdx []
  let (filter, bound) ← c.filterText root criteria.predicate bound
  let order ← c.order root root criteria.sort
  let (page, bound) ← pageText criteria.limit criteria.skip bound
  Query.make ("SELECT " ++ ", ".intercalate (rootText root columns :: associations) ++ " FROM " ++
    Identifier.quote root ++ String.join (laterals.map (" " ++ ·)) ++ whereText filter ++ " GROUP BY " ++
    Identifier.qualified root (c.keyOf root) ++ " " ++ OrderKey.clause order ++ " " ++ page) bound

/-- One new row. -/
def insertText (c : Compiler) (table : String) (values : List (String × Value)) : Result Query := do
  Identifier.check table
  let table := Identifier.truncate table
  let written ← c.encodeAll table values
  if written.isEmpty then Query.make ("INSERT INTO " ++ Identifier.quote table ++ " DEFAULT VALUES" ++ " RETURNING *") []
  else
    Query.make ("INSERT INTO " ++ Identifier.quote table ++
      (" (" ++ ", ".intercalate (written.map fun cell => Identifier.quote cell.1) ++ ") VALUES (" ++
        ", ".intercalate ((List.range' 1 written.length).map placeholder) ++ ")") ++ " RETURNING *") (written.map (·.2))

/-- New values for the rows that criteria choose. -/
def updateText (c : Compiler) (table : String) (criteria : Criteria) (values : List (String × Value)) :
    Result Query := do
  if values.isEmpty then .error .nothingToUpdate
  else
    Identifier.check table
    let table := Identifier.truncate table
    let (assignments, bound) ← c.assignmentTexts table values []
    let (filter, bound) ← c.filterText table criteria.predicate bound
    Query.make ("UPDATE " ++ Identifier.quote table ++ " SET " ++ ", ".intercalate assignments ++ whereText filter ++
      " RETURNING *") bound

/-- The end of the rows that criteria choose. -/
def deleteText (c : Compiler) (table : String) (criteria : Criteria) : Result Query := do
  Identifier.check table
  let table := Identifier.truncate table
  let (filter, bound) ← c.filterText table criteria.predicate []
  Query.make ("DELETE FROM " ++ Identifier.quote table ++ whereText filter ++ " RETURNING *") bound

/-- The number of rows that criteria choose. -/
def countText (c : Compiler) (table : String) (criteria : Criteria) : Result Query := do
  Identifier.check table
  let table := Identifier.truncate table
  let (filter, bound) ← c.filterText table criteria.predicate []
  Query.make ("SELECT COUNT(*) AS \"count\" FROM " ++ Identifier.quote table ++ whereText filter) bound

/-- The query for a request, each of its values bound where it is written. -/
def threaded (c : Compiler) (table : String) : Request → Result Query
  | .select criteria => if criteria.joins.isEmpty then c.selectText table criteria else c.joinedText table criteria
  | .insert values => c.insertText table values
  | .update criteria values => c.updateText table criteria values
  | .delete criteria => c.deleteText table criteria
  | .count criteria => c.countText table criteria

/-! ## Texts of parts and templates -/

variable {c : Compiler}

theorem filterText_eq (c : Compiler) (table : String) (predicate : Option Predicate) (bound : List Value) :
    c.filterText table predicate bound = (do
      let filter ← c.filter table predicate
      return (filter.map (Template.sqlFrom (bound.length + 1)), bound ++ filterParams filter)) := by
  cases predicate with
  | none => simp [filterText, filter, filterParams]
  | some p =>
    simp only [filterText, filter, bind_assoc, pure_bind]
    refine bind_congr fun fragment => ?_
    cases htemplate : fragment.template with
    | ok t =>
      obtain ⟨hnumber, hparams⟩ := Fragment.number_eq htemplate (bound.length + 1)
      simp only [hnumber, ← hparams, ne_eq, not_true_eq_false, if_false]
      rfl
    | error e =>
      simp only [Fragment.template] at htemplate
      split at htemplate
      · next hcount =>
        cases htemplate
        exact if_pos hcount
      · cases htemplate

theorem pageText_eq (limit skip : Option Int64) (bound : List Value) :
    pageText limit skip bound = (do
      let page ← Page.make limit skip
      return (page.template.sqlFrom (bound.length + 1), bound ++ page.template.params)) := by
  simp only [pageText, Page.make]
  split
  · rfl
  · refine congrArg Except.ok (Prod.ext ?_ ?_)
    · rw [Page.sqlFrom_template, List.length_append, List.length_append, List.length_append]
      rfl
    · exact List.append_assoc ..

theorem texts_enclosed (filter : Option Template) (next : Nat) :
    Template.texts next (filter.toList.map Template.enclosed) = enclosedText (filter.map (Template.sqlFrom next)) := by
  cases filter with
  | none => rfl
  | some f => exact congrArg (fun sql => [sql]) (f.sqlFrom_enclosed next)

theorem params_toList (filter : Option Template) : filter.toList.flatMap Template.params = filterParams filter := by
  cases filter with
  | none => rfl
  | some f => exact List.append_nil _

theorem directText_eq (c : Compiler) (j : Join Criteria) (bound : List Value) :
    c.directText j bound = (do
      let l ← c.directLateral j
      return (l.subquery.sqlFrom (bound.length + 1), bound ++ Template.params l.subquery)) := by
  simp only [directText, directLateral]
  split
  · rfl
  · simp only [filterText_eq, pagedText, pageText_eq, bind_assoc, pure_bind]
    refine bind_congr fun filter => bind_congr fun order => bind_congr fun page => ?_
    rw [Lateral.sqlFrom_subquery, Lateral.sqlFrom_condition, Lateral.params_condition, Lateral.params_subquery,
      texts_enclosed, params_toList, List.length_append, List.append_assoc, Nat.add_right_comm]
    rfl

theorem junctionText_eq (c : Compiler) (link j : Join Criteria) (bound : List Value) :
    c.junctionText link j bound = (do
      let l ← c.junctionLateral link j
      return (l.subquery.sqlFrom (bound.length + 1), bound ++ Template.params l.subquery)) := by
  simp only [junctionText, junctionLateral]
  split
  · rfl
  · simp only [filterText_eq, pagedText, pageText_eq, bind_assoc, pure_bind]
    refine bind_congr fun filter => bind_congr fun linkFilter => bind_congr fun order => bind_congr fun page => ?_
    have htexts := Template.texts_append (bound.length + 1) (filter.toList.map Template.enclosed)
      (linkFilter.toList.map Template.enclosed)
    rw [Template.params_enclosedAll, params_toList, texts_enclosed, texts_enclosed, ← List.map_append] at htexts
    rw [Lateral.sqlFrom_subquery, Lateral.sqlFrom_condition, Lateral.params_condition, Lateral.params_subquery, htexts,
      List.flatMap_append, params_toList, params_toList]
    simp only [List.length_append, List.append_assoc, Nat.add_right_comm _ 1, Nat.add_assoc]
    rfl

theorem subqueryText_eq (c : Compiler) (j : LinkedJoin) (bound : List Value) :
    c.subqueryText j bound = (do
      let l ← c.lateral j
      return (l.subquery.sqlFrom (bound.length + 1), bound ++ Template.params l.subquery)) := by
  obtain ⟨join, link⟩ := j
  cases link with
  | none => exact directText_eq c join bound
  | some link => exact junctionText_eq c link.1 join bound

/-- The texts of joins are those of the parts that they have, one join after another. -/
theorem joinTexts_eq (c : Compiler) (joins : List LinkedJoin) (places : List (LinkedJoin × Nat)) (bound : List Value) :
    c.joinTexts joins places bound = (do
      let parts ← places.mapM fun (j, index) => c.joinParts joins j index
      let ls := (parts.flatMap (·.1)).map Lateral.template
      return ((Template.texts (bound.length + 1) ls, (parts.flatMap (·.2)).map AssociationColumn.sql),
        bound ++ ls.flatMap Template.params)) := by
  induction places generalizing bound with
  | nil => simp [joinTexts, Template.texts]; rfl
  | cons place places ih =>
    obtain ⟨j, index⟩ := place
    have hpart := joinParts_eq (c := c) joins j index
    simp only [joinTexts, List.mapM_cons, hpart, bind_assoc, pure_bind]
    refine bind_congr fun _ => ?_
    by_cases hfolded : isFolded joins index j.join = true
    · simp only [if_pos hfolded, pure_bind, ih, List.flatMap_cons, List.nil_append]
    · simp only [if_neg hfolded, subqueryText_eq, bind_assoc]
      cases hl : c.lateral j with
      | error e => rfl
      | ok l =>
        have hlateral := l.sqlFrom_template (bound.length + 1)
        rw [(lateral_ok hl).name] at hlateral
        have hnext : (bound ++ Template.params l.subquery).length + 1 =
            bound.length + 1 + (Template.params l.template).length := by
          rw [List.length_append, l.params_template, Nat.add_right_comm]
        have hok : (Except.ok l : Result Lateral) = pure l := rfl
        cases hselect : j.join.select with
        | true =>
          simp only [columnTexts, hselect, hok, if_true, bind_assoc, pure_bind, ih, ← hlateral, hnext]
          refine bind_congr fun a => bind_congr fun parts => ?_
          simp [l.params_template, Template.texts]
        | false =>
          simp only [columnTexts, hselect, hok, Bool.false_eq_true, if_false, bind_assoc, pure_bind, ih, ← hlateral,
            hnext]
          refine bind_congr fun parts => ?_
          simp [l.params_template, Template.texts]

/-- New values are bound in the order of their columns. -/
theorem assignmentTexts_eq (c : Compiler) (table : String) (values : List (String × Value)) (bound : List Value) :
    c.assignmentTexts table values bound = (do
      let written ← c.encodeAll table values
      return (Template.texts (bound.length + 1) (written.map fun (column, v) =>
        [.text (Identifier.quote column ++ " = "), .value v]), bound ++ written.map (·.2))) := by
  induction values generalizing bound with
  | nil => simp [assignmentTexts, encodeAll, Template.texts]; rfl
  | cons cell values ih =>
    obtain ⟨column, value⟩ := cell
    have hcons : c.encodeAll table ((column, value) :: values) = (do
        let v ← c.encode table column value
        let written ← c.encodeAll table values
        return (column, v) :: written) := by
      simp only [encodeAll, List.mapM_cons, bind_assoc, pure_bind]
    simp only [assignmentTexts, hcons, ih, bind_assoc, pure_bind]
    refine bind_congr fun v => bind_congr fun written => ?_
    have htext : ∀ n, Template.sqlFrom n [.text (Identifier.quote column ++ " = "), .value v] =
        Identifier.quote column ++ " = " ++ placeholder n := by
      intro n
      rw [Template.sqlFrom, Template.sqlFrom, Template.sqlFrom, String.append_empty]
      rfl
    rw [List.map_cons, Template.texts, htext, List.length_append, List.append_assoc]
    rfl

theorem query_written (s : Statement) : s.query = Query.make s.written.sql s.written.params := rfl

theorem selectText_eq (c : Compiler) (table : String) {criteria : Criteria} (h : criteria.joins.isEmpty = true) :
    c.selectText table criteria = c.select table criteria := by
  simp only [selectText, select, selectStatement, if_pos h, filterText_eq, pageText_eq, bind_assoc, pure_bind]
  refine bind_congr fun _ => bind_congr fun filter => bind_congr fun order => bind_congr fun page => ?_
  simp only [query_written, Statement.written_select, List.nil_append, List.length_nil, Nat.zero_add, Nat.add_comm 1]

theorem joinedText_eq (c : Compiler) (table : String) {criteria : Criteria} (h : ¬ criteria.joins.isEmpty = true) :
    c.joinedText table criteria = c.select table criteria := by
  simp only [joinedText, select, selectStatement, joinedSelect, if_neg h, joinTexts_eq, filterText_eq, pageText_eq,
    bind_assoc, pure_bind]
  refine bind_congr fun _ => bind_congr fun joins => bind_congr fun columns => bind_congr fun parts =>
    bind_congr fun filter => bind_congr fun order => bind_congr fun page => ?_
  simp only [query_written, Statement.written_joined, List.nil_append, List.length_nil, List.length_append, Nat.zero_add,
    Nat.add_comm 1, Nat.add_right_comm _ _ 1]
  cases columns <;> rfl

theorem insertText_eq (c : Compiler) (table : String) (values : List (String × Value)) :
    c.insertText table values = c.insert table values := by
  simp only [insertText, insert, insertStatement, bind_assoc, pure_bind]
  refine bind_congr fun _ => bind_congr fun written => ?_
  rw [query_written, Statement.written_insert]
  cases written with
  | nil => rfl
  | cons cell written => 
    rw [Statement.sqlFrom_insertion _ (List.cons_ne_nil _ _)]
    rfl

theorem updateText_eq (c : Compiler) (table : String) (criteria : Criteria) (values : List (String × Value)) :
    c.updateText table criteria values = c.update table criteria values := by
  simp only [updateText, update, updateStatement]
  split
  · rfl
  · simp only [assignmentTexts_eq, filterText_eq, bind_assoc, pure_bind]
    refine bind_congr fun _ => bind_congr fun written => bind_congr fun filter => ?_
    simp only [query_written, Statement.written_update, Statement.assignments, Template.sqlFrom_intercalate,
      List.nil_append, List.length_nil, List.length_map, Nat.zero_add, Nat.add_comm 1]

/-- A query is the same, and so is a failure, whether the values of its parts are bound where they are written or the
whole statement is numbered when it is complete. -/
theorem threaded_eq (c : Compiler) (table : String) (r : Request) : c.threaded table r = c.compile table r := by
  cases r with
  | select criteria =>
    rw [threaded]
    split
    · next h => exact selectText_eq c table h
    · next h => exact joinedText_eq c table h
  | insert values => exact insertText_eq c table values
  | update criteria values => exact updateText_eq c table criteria values
  | delete criteria =>
    simp only [threaded, deleteText, compile, delete, deleteStatement, filterText_eq, bind_assoc, pure_bind]
    refine bind_congr fun _ => bind_congr fun filter => ?_
    rw [query_written, Statement.written_delete]
    rfl
  | count criteria =>
    simp only [threaded, countText, compile, count, countStatement, filterText_eq, bind_assoc, pure_bind]
    refine bind_congr fun _ => bind_congr fun filter => ?_
    rw [query_written, Statement.written_count]
    rfl

end Compiler

end SqlAdapter
