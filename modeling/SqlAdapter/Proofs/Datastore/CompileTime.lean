/-
Compile-time errors and the database.

An error of one of the kinds that `ErrorKind.isCompileTime` names is returned
only while nothing has been sent. For operations on rows that is their order: the
one statement is compiled, sent and its rows are cast, and casting fails for other
reasons (`Schema.avoids_records`). A call that changes the schema sends several
statements and accepts each just before it is sent; none after the first can be
refused, as long as foreign keys name actions of SQL (`SchemaCall.check_later_bare`).
`Action.Prompt` is what either comes to: a failure of the action's own comes
before the first statement, or is no compile-time error.
-/
import SqlAdapter.Proofs.Datastore.Atomicity
import SqlAdapter.Proofs.Datastore.Execution

namespace SqlAdapter

/-- The failure says of itself that nothing was sent. -/
def Failure.isCompileTime (e : Failure) : Bool := e.kind.isCompileTime

/-- An executor all of whose failures are of the database or the way to it. -/
def Executor.Late {σ : Type} (executor : Executor σ) : Prop :=
  ∀ query state e, (executor query state).1 = .error e → e.isCompileTime = false

open Result

/-! ## What casting fails with -/

namespace Table

theorem avoids_associationItems (column : Value) : Avoids Failure.isCompileTime (associationItems column) := by
  intro e h
  cases column with
  | null => cases h
  | json value => cases value <;> cases h <;> rfl
  | string text =>
    rw [associationItems] at h
    split at h <;> cases h <;> rfl
  | _ =>
    cases h
    rfl

theorem avoids_itemRows : ∀ items : List Json, Avoids Failure.isCompileTime (itemRows items)
  | [] => .ok []
  | .null :: items => avoids_itemRows items
  | .object _ :: items => (avoids_itemRows items).bind fun _ _ => .pure _
  | .bool _ :: _ | .number _ :: _ | .string _ :: _ | .array _ :: _ => .error rfl

theorem avoids_associationRows (child : Option Table) (column : Value) :
    Avoids Failure.isCompileTime (associationRows child column) :=
  (avoids_associationItems column).bind fun items _ => (avoids_itemRows items).bind fun _ _ => .pure _

end Table

namespace Schema

theorem avoids_takeAssociations (s : Schema) : ∀ (joins : List (Join Criteria)) (row : Row)
    (associations : List (String × List Row)),
    Avoids Failure.isCompileTime (s.takeAssociations row associations joins)
  | [], _, _ => .ok _
  | _ :: joins, _, _ =>
    (Table.avoids_associationRows _ _).bind fun _ _ => avoids_takeAssociations s joins _ _

theorem avoids_records (s : Schema) (table : String) (rows : List Row) (joins : List (Join Criteria)) :
    Avoids Failure.isCompileTime (s.records table rows joins) :=
  (Avoids.mapM (fun row => (s.avoids_takeAssociations _ row []).bind fun _ _ => .pure _) rows).bind
    fun _ _ => .pure _

end Schema

theorem Datastore.avoids_countOf (rows : List Row) : Avoids Failure.isCompileTime (Datastore.countOf rows) := by
  intro e h
  rw [countOf] at h
  split at h <;> cases h
  rfl

/-! ## Failing promptly -/

namespace Action

variable {α : Type}

/-- On this schema the action fails before it sends anything, or with a failure that an executor answered, or with no
compile-time error. -/
def Prompt (s : Schema) (x : Action α) : Prop :=
  ∀ sent e s', Trace s x sent (.error e) s' →
    sent = [] ∨ (∃ query, (query, .error e) ∈ sent) ∨ e.isCompileTime = false

/-- One statement for the schema as it is, and what its rows come to. -/
def request (compile : Schema → Result Query) (reply : Schema → List Row → Result α) : Action α := do
  let schema ← Action.schema
  let query ← Action.lift (compile schema)
  let rows ← Action.execute query
  Action.lift (reply schema rows)

theorem prompt_request (s : Schema) {compile : Schema → Result Query} {reply : Schema → List Row → Result α}
    (hreply : ∀ schema rows, Avoids Failure.isCompileTime (reply schema rows)) :
    (request compile reply).Prompt s := by
  intro sent e s' h
  rcases h.schema_bind.lift_bind with ⟨_, -, -, rfl, -⟩ | ⟨query, -, h⟩
  · exact .inl rfl
  · rcases h.execute_bind with ⟨e', he, rfl, -⟩ | ⟨rows, rest, -, h⟩
    · cases he
      exact .inr (.inl ⟨query, List.mem_singleton_self _⟩)
    · exact .inr (.inr (hreply s rows e h.lift.1.symm))

/-- Of statements of which only the first can have placeholders, only the first can be refused. -/
theorem prompt_executeAll (s : Schema) {statements : List String} (hbare : ∀ sql ∈ statements.tail, Query.Bare sql) :
    (executeAll statements).Prompt s := by
  intro sent e s' h
  cases statements with
  | nil => cases h
  | cons sql more =>
    by_cases hsql : Query.Bare sql
    · exact .inr (.inl (h.executed (List.forall_mem_cons.mpr ⟨hsql, hbare⟩)).error_mem)
    · rcases h.lift_bind with ⟨_, -, -, rfl, -⟩ | ⟨query, hmake, -⟩
      · exact .inl rfl
      · rw [Query.make_refused hsql] at hmake
        cases hmake

end Action

/-! ## Calls that change the schema -/

namespace SchemaCall

variable {c : SchemaCall} {d : Datastore} {s : Schema}

/-- The attributes that a call declares. -/
def declared : SchemaCall → List Attribute
  | .define table => table.attributes
  | .addAttribute _ attr => [attr]
  | .dropTable _ | .removeAttribute _ _ => []

/-- Of the statements that a call settles on, only the first can have placeholders. -/
theorem check_later_bare (hkeys : ∀ a ∈ c.declared, ∀ key, a.foreignKey = some key → key.IsReferential)
    {statements : List String} {reply : Option Plan} (hcheck : c.check d s = .ok (statements, reply)) :
    ∀ sql ∈ statements.tail, Query.Bare sql := by
  cases c with
  | define table =>
    obtain ⟨_, -, hcheck⟩ := bind_ok_iff.mp hcheck
    obtain ⟨plan, hcreate, hcheck⟩ := bind_ok_iff.mp hcheck
    cases hcheck
    have hkind : plan.kind ≠ .alter := by
      rw [Plan.create_kind hcreate]
      decide
    exact fun sql hsql => Query.bare_of_quiet (Plan.later_quiet_of_ne_alter hkind sql hsql)
  | dropTable table =>
    obtain ⟨plan, hdrop, hcheck⟩ := bind_ok_iff.mp hcheck
    cases hcheck
    rw [Plan.drop_later hdrop]
    exact List.forall_mem_nil _
  | addAttribute table attr =>
    obtain ⟨updated, -, hcheck⟩ := bind_ok_iff.mp hcheck
    obtain ⟨plan, haddition, hcheck⟩ := bind_ok_iff.mp hcheck
    cases hcheck
    rw [additionPlan] at haddition
    split at haddition
    · cases haddition
      exact List.forall_mem_nil _
    · have hkey : ∀ key, attr.foreignKey = some key → SqlAdapter.Quiet key.onDelete := fun key hsome =>
        (hkeys attr (List.mem_singleton_self attr) key hsome).quiet
      exact fun sql hsql => Query.bare_of_quiet (Plan.addAttribute_later_quiet haddition hkey sql hsql)
  | removeAttribute table name =>
    obtain ⟨found, -, hcheck⟩ := bind_ok_iff.mp hcheck
    obtain ⟨settled, hremoval, hcheck⟩ := bind_ok_iff.mp hcheck
    cases hcheck
    rw [removalStatements] at hremoval
    split at hremoval
    · cases hremoval
      exact List.forall_mem_nil _
    · cases hremove : Plan.removeAttribute found.1 name with
      | error e =>
        rw [hremove] at hremoval
        cases hremoval
      | ok plan =>
        rw [hremove] at hremoval
        cases hremoval
        rw [Plan.removeAttribute_later hremove]
        exact List.forall_mem_nil _

theorem prompt_action (hkeys : ∀ a ∈ c.declared, ∀ key, a.foreignKey = some key → key.IsReferential) :
    (c.action d).Prompt s := by
  intro sent e s' h
  rcases begun_trace (action_trace h) with ⟨_, -, -, rfl, -⟩ | ⟨statements, reply, hcheck, hend⟩
  · exact .inl rfl
  · rcases hend with ⟨e', he, hsent, -⟩ | ⟨hok, -⟩
    · cases he
      exact Action.prompt_executeAll s (check_later_bare hkeys hcheck) sent e s hsent
    · cases hok

end SchemaCall

/-! ## All operations -/

/-- A call of an operation of a datastore. -/
inductive DatastoreCall where
  | schema (call : SchemaCall)
  | find (table : String) (criteria : Criteria)
  | create (table : String) (values : List (String × Value))
  | update (table : String) (criteria : Criteria) (values : List (String × Value))
  | destroy (table : String) (criteria : Criteria)
  | count (table : String) (criteria : Criteria)
  | query (sql : String) (values : List Value)

namespace DatastoreCall

/-- What a call returns. -/
def Answer : DatastoreCall → Type
  | .schema _ => Option Plan
  | .find _ _ | .update _ _ _ | .destroy _ _ => List Record
  | .create _ _ => Record
  | .count _ _ => Int64
  | .query _ _ => List Row

/-- What a call does. -/
def action (d : Datastore) : (c : DatastoreCall) → Action c.Answer
  | .schema call => call.action d
  | .find table criteria => d.find table criteria
  | .create table values => d.create table values
  | .update table criteria values => d.update table criteria values
  | .destroy table criteria => d.destroy table criteria
  | .count table criteria => d.count table criteria
  | .query sql values => Datastore.query sql values

/-- The attributes that a call declares. -/
def declared : DatastoreCall → List Attribute
  | .schema call => call.declared
  | _ => []

variable {c : DatastoreCall} {d : Datastore}

/-- The record of a new row is the first that came back. -/
theorem create_request (table : String) (values : List (String × Value)) : d.create table values =
    Action.request (fun schema => (d.compiler schema).insert table values) (fun schema rows =>
      schema.records table rows [] >>= fun
        | record :: _ => .ok record
        | [] => .error (.noRowInserted table)) := by
  refine congrArg Action.look (funext fun schema => ?_)
  show (Action.lift ((d.compiler schema).insert table values)).bind _ =
    (Action.lift ((d.compiler schema).insert table values)).bind _
  cases (d.compiler schema).insert table values with
  | error e => rfl
  | ok query =>
    refine congrArg (Action.send query) (funext fun answer => ?_)
    cases answer with
    | error e => rfl
    | ok rows =>
      show (Action.lift (schema.records table rows [])).bind _ = Action.lift (schema.records table rows [] >>= _)
      cases schema.records table rows [] with
      | error e => rfl
      | ok records => cases records <;> rfl

theorem prompt (hkeys : ∀ a ∈ c.declared, ∀ key, a.foreignKey = some key → key.IsReferential) (s : Schema) :
    (c.action d).Prompt s := by
  cases c with
  | schema call => exact SchemaCall.prompt_action hkeys
  | find table criteria =>
    exact Action.prompt_request s fun schema rows => schema.avoids_records table rows criteria.joins
  | create table values =>
    show (d.create table values).Prompt s
    rw [create_request]
    refine Action.prompt_request s fun schema rows => (schema.avoids_records table rows []).bind fun records _ => ?_
    cases records with
    | nil => exact .error rfl
    | cons record rest => exact .ok record
  | update table criteria values =>
    exact Action.prompt_request s fun schema rows => schema.avoids_records table rows []
  | destroy table criteria => exact Action.prompt_request s fun schema rows => schema.avoids_records table rows []
  | count table criteria => exact Action.prompt_request s fun _ rows => Datastore.avoids_countOf rows
  | query sql values =>
    intro sent e s' h
    rcases h.lift_bind with ⟨_, -, -, rfl, -⟩ | ⟨query, -, h⟩
    · exact .inl rfl
    · cases h with
      | send answer rest =>
        cases rest
        exact .inr (.inl ⟨query, List.mem_singleton_self _⟩)

end DatastoreCall

namespace Datastore

variable {σ : Type} {d d' : Datastore} {own : Executor σ} {override : Option (Executor σ)} {state state' : σ}

/-- An operation that returns a compile-time error has sent nothing to any executor, as long as executors return no
such errors themselves and the foreign keys that it declares name actions of SQL. -/
theorem compileTime_unsent {c : DatastoreCall} {e : Failure} {record : List Exchange}
    (hkeys : ∀ a ∈ c.declared, ∀ key, a.foreignKey = some key → key.IsReferential)
    (hown : own.Late) (hoverride : ∀ executor, override = some executor → executor.Late)
    (h : d.perform (Executor.chosen own.recorded (override.map Executor.recorded)) (state, []) (c.action d) =
      (.error e, d', state', record))
    (he : e.isCompileTime = true) : record = [] := by
  have hchosen : Executor.chosen own.recorded (override.map Executor.recorded) =
      (Executor.chosen own override).recorded := by
    cases override <;> rfl
  have hlate : (Executor.chosen own override).Late := by
    cases override with
    | none => exact hown
    | some executor => exact hoverride executor rfl
  rw [hchosen, perform] at h
  rcases hrun : (c.action d).run (Executor.chosen own override) d.schema state with ⟨result, s, last⟩
  obtain ⟨sent, htrace, hanswers, hrecorded⟩ := Action.run_trace hrun []
  rw [hrecorded] at h
  cases h
  rcases DatastoreCall.prompt hkeys d.schema sent e s htrace with rfl | ⟨query, hmem⟩ | hlater
  · rfl
  · obtain ⟨between, hanswer⟩ := hanswers query _ hmem
    rw [hlate query between e hanswer] at he
    cases he
  · rw [hlater] at he
    cases he

theorem accepts_late : accepts.Late := by
  intro query left e h
  cases left with
  | zero =>
    cases h
    rfl
  | succ n => cases h

/-- A user for posts, with a key and an index, and with a default that is to be filled in. -/
def filledIn : Attribute :=
  { Attribute.plain "author_id" .integer with
    index := true
    default := some (.expression "$1")
    foreignKey := some ⟨"users", "id", "set null"⟩ }

/-- The column of the attribute is refused before it is sent, so its key and its index are not sent either, though
nothing is wrong with them. -/
theorem compileTime_unsent_filledIn : let d : Datastore := ⟨"blog", blog, .standard, .standard⟩
    let c : DatastoreCall := .schema (.addAttribute "posts" filledIn)
    ∃ e d' left record, d.perform (.chosen accepts.recorded ((some accepts).map Executor.recorded)) (3, []) (c.action d) =
      (.error e, d', left, record) ∧ e.isCompileTime = true ∧ record = [] := by
  intro d c
  rcases hrun : d.perform (.chosen accepts.recorded ((some accepts).map Executor.recorded)) (3, []) (c.action d) with
    ⟨r, d', left, record⟩
  have hfails : (d.perform (.chosen accepts.recorded ((some accepts).map Executor.recorded)) (3, [])
      (SchemaCall.action d (.addAttribute "posts" filledIn))).1 = .error (.highestPlaceholder 1 0) := by
    decide +kernel
  obtain rfl : r = .error (.highestPlaceholder 1 0) := (congrArg (·.1) hrun).symm.trans hfails
  have hkeys : ∀ a ∈ c.declared, ∀ key, a.foreignKey = some key → key.IsReferential := by
    intro a ha key hkey
    obtain rfl : a = filledIn := List.mem_singleton.mp ha
    cases hkey
    decide
  refine ⟨_, d', left, record, rfl, rfl, compileTime_unsent hkeys accepts_late ?_ hrun rfl⟩
  intro executor hexecutor
  rw [← Option.some.inj hexecutor]
  exact accepts_late

end Datastore

end SqlAdapter
