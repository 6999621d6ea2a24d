/-
Placeholders and parameters of compiled queries.

A query has its placeholders numbered from one on in the order of its text, and
its parameters in the order of the clauses that hold the placeholders, whether the
values are bound one after another while the parts are written or the statement is
numbered as a whole (`Compiler.threaded_eq`). Nothing that the caller chooses can
break the numbering, so no request fails with a failure of the sort
`Failure.isNumbering` (`avoids_statement`): the checks on numbers of placeholders
never refuse what the compiler wrote itself. Only a list of values too long for any
memory would be refused, since a number past 64 bits is not read as one.
-/
import SqlAdapter.Proofs.Sql.Names
import SqlAdapter.Proofs.Sql.Query
import SqlAdapter.Proofs.Statement.Threading

namespace SqlAdapter

/-- Is this the failure of a check on the numbers of placeholders and values? -/
def Failure.isNumbering : Failure → Bool
  | .placeholderValues _ _ | .highestPlaceholder _ _ | .unusedPlaceholder _ | .fragmentValues _ _ => true
  | _ => false

/-! ## Statements in clauses -/

namespace Template

variable {t : Template} {clauses : List Template}

/-- A statement in clean clauses passes the check on its placeholders. -/
theorem query_writes (hclean : ∀ c ∈ clauses, Clean c) (h : Writes t clauses)
    (hlen : (clauses.flatMap params).length < 2 ^ 64) : t.query = .ok ⟨t.sqlFrom 1, t.params⟩ := by
  refine Query.make_numbered ?_
  rw [(h.laidOut 1).indices hclean, h.params, Placeholder.filter_range' (by omega)]

/-- A query is the text and the values of its statement. There are not too many of them: the check
would have refused a list of values with an unreadable number. -/
theorem query_eq {q : Query} (hq : t.query = .ok q) : q = ⟨t.sqlFrom 1, t.params⟩ ∧ t.params.length < 2 ^ 64 := by
  obtain ⟨rfl, hnumbers⟩ := Query.make_ok_iff.mp hq
  refine ⟨rfl, ?_⟩
  rcases Nat.eq_zero_or_pos t.params.length with hzero | hpos
  · omega
  · exact Placeholder.indices_lt ((hnumbers _ hpos).mpr (Nat.le_refl _))

/-- The query of a statement in clean clauses: its text, numbers and parameters. -/
theorem query_ok (hclean : ∀ c ∈ clauses, Clean c) (h : Writes t clauses) {q : Query} (hq : t.query = .ok q) :
    Placeholder.indices q.sql = List.range' 1 q.params.length ∧
      q.params = clauses.flatMap params ∧ LaidOut 1 clauses q.sql := by
  obtain ⟨rfl, hlen⟩ := query_eq hq
  refine ⟨?_, h.params, h.laidOut 1⟩
  rw [(h.laidOut 1).indices hclean, ← h.params, Placeholder.filter_range' (by omega)]

end Template

/-! ## Failures of the compiler -/

open Result (Avoids)

theorem Identifier.avoids_check (name : String) : Avoids Failure.isNumbering (check name) := by
  intro e h
  cases check_naming h <;> rfl

namespace Condition

theorem avoids_columnOf (schema : Schema) (table field : String) :
    Avoids Failure.isNumbering (columnOf schema table field) := by
  refine (Identifier.avoids_check field).bind fun _ _ => ?_
  split
  · split
    · exact .pure _
    · exact .error rfl
  · exact .pure _

mutual

theorem avoids_ofPredicate (schema : Schema) (table : String) : ∀ p : Predicate,
    Avoids Failure.isNumbering (ofPredicate schema table p)
  | .compare field op value => by
    rw [ofPredicate]
    exact (avoids_columnOf schema table field).bind fun _ _ => .pure _
  | .all parts => by
    rw [ofPredicate]
    exact (avoids_ofParts schema table parts).bind fun _ _ => .pure _
  | .any parts => by
    rw [ofPredicate]
    exact (avoids_ofParts schema table parts).bind fun _ _ => .pure _
  | .not inner => by
    rw [ofPredicate]
    exact (avoids_ofPredicate schema table inner).bind fun _ _ => .pure _

theorem avoids_ofParts (schema : Schema) (table : String) : ∀ ps : List Predicate,
    Avoids Failure.isNumbering (ofParts schema table ps)
  | [] => .ok []
  | p :: ps => by
    rw [ofParts]
    exact (avoids_ofPredicate schema table p).bind fun _ _ =>
      (avoids_ofParts schema table ps).bind fun _ _ => .pure _

end

end Condition

theorem Page.avoids_make (limit skip : Option Int64) : Avoids Failure.isNumbering (make limit skip) := by
  simp only [make]
  split
  · exact .error rfl
  · exact .ok _

namespace Compiler

/-- A filter that is written the standard way has as many marks as values. -/
theorem avoids_filter (schema : Schema) (table : String) (predicate : Option Predicate) :
    Avoids Failure.isNumbering ((ofSchema schema).filter table predicate) := by
  cases predicate with
  | none => exact .ok none
  | some p =>
    have hwriter : Avoids Failure.isNumbering (FilterWriter.standard schema table p) :=
      (Condition.avoids_ofPredicate schema table p).bind fun _ _ => .pure _
    refine hwriter.bind fun f hf => ?_
    obtain ⟨t, ht, -⟩ := Condition.fragment_template (p.condition table)
    rw [standard_ok hf, ht]
    exact .ok _

variable (c : Compiler)

theorem avoids_order (table qualifier : String) (sort : List SortKey) :
    Avoids Failure.isNumbering (c.order table qualifier sort) := by
  refine .mapM (fun key => ?_) sort
  refine (Identifier.avoids_check key.field).bind fun _ _ => ?_
  split
  · split
    · exact .pure _
    · exact .error rfl
  · exact .pure _

theorem avoids_encodeAll (table : String) (values : List (String × Value)) :
    Avoids Failure.isNumbering (c.encodeAll table values) := by
  refine .mapM (fun cell => ?_) values
  have hencode : Avoids Failure.isNumbering (c.encode table cell.1 cell.2) := by
    refine (Identifier.avoids_check cell.1).bind fun _ _ => ?_
    split
    · exact .pure _
    · split
      · exact .error rfl
      · split
        · exact .error rfl
        · exact .pure _
  exact hencode.bind fun _ _ => .pure _

theorem avoids_linked (joins : List (Join Criteria)) : Avoids Failure.isNumbering (linked joins) := by
  refine .mapM (fun j => ?_) joins
  have hlink : Avoids Failure.isNumbering (linkOf joins j) := by
    simp only [linkOf]
    split
    · exact .ok none
    · split
      · exact .ok _
      · exact .error rfl
  exact hlink.bind fun _ _ => .pure _

theorem avoids_rootColumns (root : String) (joins : List (Join Criteria)) :
    Avoids Failure.isNumbering (c.rootColumns root joins) := by
  simp only [rootColumns]
  split
  · exact .ok _
  · split
    · exact .error rfl
    · split
      · exact .error rfl
      · exact .ok _

theorem avoids_checkJoin (j : Join Criteria) : Avoids Failure.isNumbering (c.checkJoin j) := by
  have hkey : ∀ table key, Avoids Failure.isNumbering (c.checkKey j.name table key) := by
    intro table key
    rw [checkKey]
    split
    · split
      · exact .ok ()
      · exact .error rfl
    · exact .ok ()
  refine (Avoids.forM Identifier.avoids_check _).bind fun _ _ => ?_
  refine (hkey _ _).bind fun _ _ => (hkey _ _).bind fun _ _ => ?_
  split
  · exact .pure ()
  · exact .error rfl

theorem avoids_association (j : Join Criteria) (laterals : Nat) :
    Avoids Failure.isNumbering (c.association j laterals) :=
  (c.avoids_order _ _ _).bind fun _ _ => .pure _

variable (schema : Schema)

theorem avoids_directLateral (j : Join Criteria) :
    Avoids Failure.isNumbering ((ofSchema schema).directLateral j) := by
  simp only [directLateral]
  split
  · exact .error rfl
  · exact (avoids_filter schema _ _).bind fun _ _ => (avoids_order _ _ _ _).bind fun _ _ =>
      (Page.avoids_make _ _).bind fun _ _ => .pure _

theorem avoids_junctionLateral (link j : Join Criteria) :
    Avoids Failure.isNumbering ((ofSchema schema).junctionLateral link j) := by
  simp only [junctionLateral]
  split
  · exact .error rfl
  · exact (avoids_filter schema _ _).bind fun _ _ => (avoids_filter schema _ _).bind fun _ _ =>
      (avoids_order _ _ _ _).bind fun _ _ => (Page.avoids_make _ _).bind fun _ _ => .pure _

theorem avoids_joinParts (joins : List LinkedJoin) (j : LinkedJoin) (index : Nat) :
    Avoids Failure.isNumbering ((ofSchema schema).joinParts joins j index) := by
  have hassociation : ∀ l : Lateral, Avoids Failure.isNumbering
      (if j.join.select then do
        return ([l], [← (ofSchema schema).association j.join (laterals joins).length])
      else return ([l], [])) := by
    intro l
    split
    · exact (avoids_association _ _ _).bind fun _ _ => .pure _
    · exact .pure _
  refine (avoids_checkJoin _ _).bind fun _ _ => ?_
  split
  · exact .pure _
  · obtain ⟨join, link⟩ := j
    cases link with
    | none => exact (avoids_directLateral schema join).bind fun l _ => hassociation l
    | some link => exact (avoids_junctionLateral schema link.1 join).bind fun l _ => hassociation l

theorem avoids_joinedSelect (table : String) (criteria : Criteria) :
    Avoids Failure.isNumbering ((ofSchema schema).joinedSelect table criteria) := by
  refine (Identifier.avoids_check table).bind fun _ _ => ?_
  refine (avoids_linked _).bind fun joins _ => (avoids_rootColumns _ _ _).bind fun _ _ => ?_
  have hparts : ∀ place : LinkedJoin × Nat, Avoids Failure.isNumbering
      ((ofSchema schema).joinParts joins place.1 place.2) := fun place => avoids_joinParts schema joins _ _
  refine (Avoids.mapM hparts _).bind fun _ _ => ?_
  exact (avoids_filter schema _ _).bind fun _ _ => (avoids_order _ _ _ _).bind fun _ _ =>
    (Page.avoids_make _ _).bind fun _ _ => .pure _

theorem avoids_statement (table : String) (r : Request) :
    Avoids Failure.isNumbering ((ofSchema schema).statement table r) := by
  have hcheck := Identifier.avoids_check table
  cases r with
  | select criteria =>
    rw [statement, selectStatement]
    split
    · exact hcheck.bind fun _ _ => (avoids_filter schema _ _).bind fun _ _ =>
        (avoids_order _ _ _ _).bind fun _ _ => (Page.avoids_make _ _).bind fun _ _ => .pure _
    · exact (avoids_joinedSelect schema table criteria).bind fun _ _ => .pure _
  | insert values =>
    exact hcheck.bind fun _ _ => (avoids_encodeAll _ _ _).bind fun _ _ => .pure _
  | update criteria values =>
    rw [statement, updateStatement]
    split
    · exact .error rfl
    · exact hcheck.bind fun _ _ => (avoids_encodeAll _ _ _).bind fun _ _ =>
        (avoids_filter schema _ _).bind fun _ _ => .pure _
  | delete criteria => exact hcheck.bind fun _ _ => (avoids_filter schema _ _).bind fun _ _ => .pure _
  | count criteria => exact hcheck.bind fun _ _ => (avoids_filter schema _ _).bind fun _ _ => .pure _

/-! ## Numbered queries -/

/-- A compiled query is the text and the values of the statement for the request. -/
theorem compile_ok {table : String} {r : Request} {q : Query} (h : (ofSchema schema).compile table r = .ok q) :
    ∃ s, (ofSchema schema).statement table r = .ok s ∧ q = ⟨s.template.sqlFrom 1, s.template.params⟩ ∧
      s.template.params.length < 2 ^ 64 := by
  rw [compile_eq, Result.bind_ok_iff] at h
  obtain ⟨s, hs, hq⟩ := h
  exact ⟨s, hs, Template.query_eq hq⟩

/-- A statement with values that a machine can count becomes a query. -/
theorem compile_of_statement {table : String} {r : Request} {s : Statement}
    (h : (ofSchema schema).statement table r = .ok s)
    (hlen : ((r.clauses schema table).flatMap Template.params).length < 2 ^ 64) :
    (ofSchema schema).compile table r = .ok ⟨s.template.sqlFrom 1, s.template.params⟩ := by
  rw [compile_eq, h]
  exact Template.query_writes (r.clauses_clean schema table) (statement_writes h) hlen

theorem compile_of_isSome {table : String} {r : Request}
    (h : ((ofSchema schema).statement table r).toOption.isSome = true)
    (hlen : ((r.clauses schema table).flatMap Template.params).length < 2 ^ 64) :
    ∃ q, (ofSchema schema).compile table r = .ok q := by
  cases hs : (ofSchema schema).statement table r with
  | error e =>
    rw [hs] at h
    cases h
  | ok s => exact ⟨_, compile_of_statement schema hs hlen⟩

/-- A query is compiled with each value bound where it is written. Its placeholders are numbered from one on as they
stand in the text, and the text is the clauses of the request one after another, each around the placeholders of its own
values: so these are the parameters. Numbering is never what a request fails with, as long as a machine can count its
values. -/
theorem compile_numbered (table : String) (r : Request) :
    (ofSchema schema).compile table r = (ofSchema schema).threaded table r ∧
    (∀ q, (ofSchema schema).compile table r = .ok q →
      Placeholder.indices q.sql = List.range' 1 q.params.length ∧
        q.params = r.values schema table ∧
        q.params = (r.clauses schema table).flatMap Template.params ∧
        Template.LaidOut 1 (r.clauses schema table) q.sql) ∧
    ((r.values schema table).length < 2 ^ 64 →
      ∀ e, (ofSchema schema).compile table r = .error e → e.isNumbering = false) := by
  have hclean := r.clauses_clean schema table
  have hvalues := r.params_clauses schema table
  refine ⟨((ofSchema schema).threaded_eq table r).symm, fun q hq => ?_, fun hlen => ?_⟩
  · rw [compile_eq, Result.bind_ok_iff] at hq
    obtain ⟨s, hs, hq⟩ := hq
    obtain ⟨hindices, hparams, hlaid⟩ := Template.query_ok hclean (statement_writes hs) hq
    exact ⟨hindices, hparams.trans hvalues, hparams, hlaid⟩
  · rw [compile_eq]
    refine (avoids_statement schema table r).bind fun s hs => ?_
    rw [Statement.query, Template.query_writes hclean (statement_writes hs) (hvalues ▸ hlen)]
    exact .ok _

/-- Two users over thirty, each with the posts of a title that looks like placeholders. -/
def userPosts : Criteria where
  predicate := some (.compare "age" (.compare .gt) (.bigInt 30))
  sort := []
  limit := some 2
  skip := none
  joins := [{ (Join.plain "users" "id" "posts" "user_id" "posts" : Join Criteria) with
    criteria := some { Criteria.empty with
      predicate := some (.compare "title" (.compare .eq) (.string "$9 '?")) } }]

theorem compile_numbered_userPosts : ∃ q, (ofSchema .empty).compile "users" (.select userPosts) = .ok q ∧
    Placeholder.indices q.sql = [1, 2, 3, 4, 5, 6] ∧
    q.params = [.string "$9 '?", .bigInt Int64.maxValue, .bigInt 0, .bigInt 30, .bigInt 2, .bigInt 0] := by
  have hstatement : ((ofSchema .empty).statement "users" (.select userPosts)).toOption.isSome = true := by
    decide +kernel
  have hlen : (((Request.select userPosts).clauses .empty "users").flatMap Template.params).length < 2 ^ 64 := by
    decide +kernel
  cases hs : (ofSchema .empty).statement "users" (.select userPosts) with
  | error e =>
    rw [hs] at hstatement
    cases hstatement
  | ok s =>
    have hq := Template.query_writes (Request.clauses_clean _ _ _) (statement_writes hs) hlen
    have hcompile : (ofSchema .empty).compile "users" (.select userPosts) =
        .ok ⟨s.template.sqlFrom 1, s.template.params⟩ := by
      rw [compile_eq, hs]
      exact hq
    obtain ⟨hindices, hparams, -⟩ := (compile_numbered .empty "users" (.select userPosts)).2.1 _ hcompile
    refine ⟨_, hcompile, ?_, hparams⟩
    rw [hindices, hparams]
    rfl

end Compiler

end SqlAdapter
