/-
Calls that change the schema, step by step.

Such a call looks at the schema and settles on its statements or fails
(`SchemaCall.check`), sends the statements one after another, and changes the
schema as it then is (`SchemaCall.change`). `SchemaCall.action_eq` says that the
operations of a datastore are made just so; whatever comes between the steps of a
call, nothing else of it needs to be known.
-/
import SqlAdapter.Proofs.Datastore.Validity
import SqlAdapter.Proofs.Schema.Quiet
import Mathlib.Logic.Relation

namespace SqlAdapter

/-! ## Actions one after another -/

namespace Action

variable {α β γ : Type}

theorem bind_assoc (x : Action α) (f : α → Action β) (g : β → Action γ) :
    (x.bind f).bind g = x.bind fun a => (f a).bind g := by
  induction x with
  | done result => cases result <;> rfl
  | look next ih => exact congrArg Action.look (funext ih)
  | send query next ih => exact congrArg (Action.send query) (funext ih)
  | change update next ih => exact congrArg (Action.change update) ih

theorem lift_ok_bind (a : α) (f : α → Action β) : (lift (.ok a)).bind f = f a := rfl

/-- Is the next step a change of the schema? -/
def isChange : Action α → Bool
  | .change _ _ => true
  | _ => false

/-- The steps of an action, one after another, with an executor that accepts every statement. -/
inductive Step : Schema → Action α → Schema → Action α → Prop where
  | look {s : Schema} {next : Schema → Action α} : Step s (.look next) s (next s)
  | send {s : Schema} {query : Query} {next : Result (List Row) → Action α} (rows : List Row) :
      Step s (.send query next) s (next (.ok rows))
  | change {s s' : Schema} {update : Schema → Result Schema} {next : Action α} (h : update s = .ok s') :
      Step s (.change update next) s' next
  | refuse {s : Schema} {update : Schema → Result Schema} {next : Action α} {e : Failure}
      (h : update s = .error e) : Step s (.change update next) s (.done (.error e))

/-- An action that runs on its own with an executor that accepts every statement takes these steps to its end. -/
theorem run_steps {σ : Type} {executor : Executor σ}
    (haccepts : ∀ query state, ∃ rows, (executor query state).1 = .ok rows)
    {x : Action α} {s s' : Schema} {state state' : σ} {r : Result α} (h : x.run executor s state = (r, s', state')) :
    Relation.ReflTransGen (fun a b => Step a.1 a.2 b.1 b.2) (s, x) (s', .done r) := by
  induction x generalizing s state with
  | done result =>
    cases h
    exact .refl
  | look next ih => exact .head .look (ih s h)
  | send query next ih =>
    obtain ⟨rows, hrows⟩ := haccepts query state
    rw [run] at h
    rcases hanswer : executor query state with ⟨answer, between⟩
    rw [hanswer] at h hrows
    obtain rfl : answer = .ok rows := hrows
    exact .head (.send rows) (ih (.ok rows) h)
  | change update next ih =>
    rw [run] at h
    cases hupdate : update s with
    | ok t =>
      rw [hupdate] at h
      exact .head (.change hupdate) (ih h)
    | error e =>
      rw [hupdate] at h
      cases h
      exact .single (.refuse hupdate)

end Action

/-! ## Statements without parameters -/

namespace Query

/-- A statement without placeholders. -/
def Bare (sql : String) : Prop := highest (Placeholder.indices sql) = 0

instance (sql : String) : Decidable (Bare sql) := inferInstanceAs (Decidable (_ = _))

theorem make_bare {sql : String} (h : Bare sql) : make sql [] = .ok ⟨sql, []⟩ := by
  have hcheck : checkPlaceholders sql 0 = .ok () := by
    have hnone : highest (Placeholder.indices sql) = 0 := h
    simp [checkPlaceholders, hnone]
  rw [make, List.length_nil, hcheck]
  rfl

theorem bare_of_quiet {sql : String} (h : Quiet sql) : Bare sql := by
  have hnone : Placeholder.indices sql = [] := by
    rw [Placeholder.indices, ← List.append_nil sql.toList, Placeholder.indicesFrom_passes [] h]
    rfl
  rw [Bare, hnone]
  rfl

/-- A statement with placeholders is refused where there are no parameters. -/
theorem make_refused {sql : String} (h : ¬ Bare sql) :
    make sql [] = .error (.highestPlaceholder (highest (Placeholder.indices sql)) 0) := by
  have hcheck : checkPlaceholders sql 0 = .error (.highestPlaceholder (highest (Placeholder.indices sql)) 0) := by
    have hsome : highest (Placeholder.indices sql) ≠ 0 := h
    simp [checkPlaceholders, hsome]
  rw [make, List.length_nil, hcheck]
  rfl

end Query

/-! ## Calls -/

namespace SchemaCall

/-- What a call does, ending with the plan that it returns if it returns one. -/
def action (d : Datastore) : SchemaCall → Action (Option Plan)
  | .define table => do return some (← d.define table)
  | .dropTable table => do
    Datastore.dropTable table
    return none
  | .addAttribute table attr => do return some (← d.addAttribute table attr)
  | .removeAttribute table name => do
    Datastore.removeAttribute table name
    return none

/-- The plan for a new attribute; a collection has no column and needs none of its steps. -/
def additionPlan (mode : MappingMode) (table : String) (attr : Attribute) : Result Plan :=
  if attr.isVirtual then .ok (Plan.empty table .alter) else Plan.addAttribute mode table attr

/-- The statements for the end of an attribute; a collection has no column and needs none. -/
def removalStatements (table name : String) (attr : Attribute) : Result (List String) :=
  if attr.isVirtual then .ok [] else (Plan.removeAttribute table name).map Plan.statements

/-- The checks of a call on a schema: the statements that it settles on, and the plan that it returns. -/
def check (d : Datastore) (s : Schema) : SchemaCall → Result (List String × Option Plan)
  | .define table => do
    (s.insert table).validate
    let plan ← Plan.create d.mode table
    return (plan.statements, some plan)
  | .dropTable table => do
    let plan ← Plan.drop table
    return (plan.statements, none)
  | .addAttribute table attr => do
    let updated ← Datastore.extended s table attr
    let plan ← additionPlan d.mode updated.name attr
    return (plan.statements, some plan)
  | .removeAttribute table name => do
    let (tableName, attr) ← Datastore.removable s table name
    return (← removalStatements tableName name attr, none)

/-- The change that a call makes to the schema in the end. -/
def change : SchemaCall → Schema → Result Schema
  | .define table, s => .ok (s.insert table)
  | .dropTable table, s => .ok (s.erase table)
  | .addAttribute table attr, s => Datastore.withAttribute table attr s
  | .removeAttribute table name, s => Datastore.withoutAttribute table name s

/-- What a call has yet to do when these statements are left. -/
def remaining (c : SchemaCall) (statements : List String) (reply : Option Plan) : Action (Option Plan) :=
  (Action.executeAll statements).bind fun _ => .change c.change (.done (.ok reply))

/-- What a call does once it has looked at the schema. -/
def begun (c : SchemaCall) (d : Datastore) (s : Schema) : Action (Option Plan) :=
  match c.check d s with
  | .ok (statements, reply) => c.remaining statements reply
  | .error e => .done (.error e)

/-- The SQL that a call brings along in the attributes that it declares has no placeholders. -/
def Quiet : SchemaCall → Prop
  | .define table => ∀ a ∈ table.attributes, a.Quiet
  | .addAttribute _ attr => attr.Quiet
  | .dropTable _ | .removeAttribute _ _ => True

/-- Does a call look at the schema? -/
def looks : SchemaCall → Bool
  | .dropTable _ => false
  | _ => true

variable {c : SchemaCall} {d : Datastore} {s : Schema}

/-- The operations of a datastore that look at the schema do what the checks of the call settle on. -/
theorem action_eq (hlooks : c.looks = true) : c.action d = .look (c.begun d) := by
  cases c with
  | dropTable table => cases hlooks
  | define table =>
    refine congrArg Action.look (funext fun s => ?_)
    show ((Action.lift (s.insert table).validate).bind fun _ =>
      (Action.lift (Plan.create d.mode table)).bind _).bind _ = _
    simp only [begun, check, Bind.bind, Except.bind]
    cases (s.insert table).validate with
    | error e => rfl
    | ok _ =>
      cases Plan.create d.mode table with
      | error e => rfl
      | ok plan => exact Action.bind_assoc (Action.executeAll plan.statements) _ _
  | addAttribute table attr =>
    refine congrArg Action.look (funext fun s => ?_)
    show ((Action.lift (Datastore.extended s table attr)).bind fun updated =>
      (Action.lift (additionPlan d.mode updated.name attr)).bind _).bind _ = _
    simp only [begun, check, Bind.bind, Except.bind]
    cases Datastore.extended s table attr with
    | error e => rfl
    | ok updated =>
      simp only [Action.lift_ok_bind]
      cases additionPlan d.mode updated.name attr with
      | error e => rfl
      | ok plan => exact Action.bind_assoc (Action.executeAll plan.statements) _ _
  | removeAttribute table name =>
    refine congrArg Action.look (funext fun s => ?_)
    show ((Action.lift (Datastore.removable s table name)).bind fun found =>
      (Action.lift (removalStatements found.1 name found.2)).bind _).bind _ = _
    simp only [begun, check, Bind.bind, Except.bind]
    cases Datastore.removable s table name with
    | error e => rfl
    | ok found =>
      simp only [Action.lift_ok_bind]
      cases removalStatements found.1 name found.2 with
      | error e => rfl
      | ok statements => exact Action.bind_assoc (Action.executeAll statements) _ _

/-- The statements that a call settles on have no placeholders if the call brings none. -/
theorem Quiet.bare (h : c.Quiet) {statements : List String} {reply : Option Plan}
    (hcheck : c.check d s = .ok (statements, reply)) : ∀ sql ∈ statements, Query.Bare sql := by
  have hplan : ∀ p : Plan, p.Quiet → ∀ sql ∈ p.statements, Query.Bare sql :=
    fun p hp sql hsql => Query.bare_of_quiet (hp.statements sql hsql)
  cases c with
  | define table =>
    obtain ⟨_, -, hcheck⟩ := Result.bind_ok_iff.mp hcheck
    obtain ⟨plan, hcreate, hcheck⟩ := Result.bind_ok_iff.mp hcheck
    cases hcheck
    exact hplan plan (Plan.create_quiet hcreate h)
  | dropTable table =>
    obtain ⟨plan, hdrop, hcheck⟩ := Result.bind_ok_iff.mp hcheck
    cases hcheck
    exact hplan plan (Plan.drop_quiet hdrop)
  | addAttribute table attr =>
    obtain ⟨updated, -, hcheck⟩ := Result.bind_ok_iff.mp hcheck
    obtain ⟨plan, haddition, hcheck⟩ := Result.bind_ok_iff.mp hcheck
    cases hcheck
    rw [additionPlan] at haddition
    split at haddition
    · cases haddition
      exact hplan _ (Plan.quiet_empty _ _)
    · exact hplan plan (Plan.addAttribute_quiet haddition h)
  | removeAttribute table name =>
    obtain ⟨found, -, hcheck⟩ := Result.bind_ok_iff.mp hcheck
    obtain ⟨settled, hremoval, hcheck⟩ := Result.bind_ok_iff.mp hcheck
    cases hcheck
    rw [removalStatements] at hremoval
    split at hremoval
    · cases hremoval
      exact List.forall_mem_nil _
    · cases hremove : Plan.removeAttribute found.1 name with
      | error e =>
        rw [hremove] at hremoval
        cases hremoval
      | ok plan =>
        rw [hremove] at hremoval
        cases hremoval
        exact hplan plan (Plan.removeAttribute_quiet hremove)

/-! ## What is left of a call -/

theorem remaining_nil (c : SchemaCall) (reply : Option Plan) :
    c.remaining [] reply = .change c.change (.done (.ok reply)) := rfl

theorem remaining_bare (c : SchemaCall) {sql : String} (h : Query.Bare sql) (more : List String)
    (reply : Option Plan) :
    ∃ next, c.remaining (sql :: more) reply = .send ⟨sql, []⟩ next ∧
      ∀ rows, next (.ok rows) = c.remaining more reply := by
  have hsent : c.remaining (sql :: more) reply =
      ((Action.execute ⟨sql, []⟩).bind fun _ => Action.executeAll more).bind fun _ =>
        .change c.change (.done (.ok reply)) := by
    show ((Action.lift (Query.make sql [])).bind _).bind _ = _
    rw [Query.make_bare h]
    rfl
  exact ⟨_, hsent, fun rows => rfl⟩

theorem remaining_refused (c : SchemaCall) {sql : String} (h : ¬ Query.Bare sql) (more : List String)
    (reply : Option Plan) : c.remaining (sql :: more) reply =
      .done (.error (.highestPlaceholder (Query.highest (Placeholder.indices sql)) 0)) := by
  show ((Action.lift (Query.make sql [])).bind _).bind _ = _
  rw [Query.make_refused h]
  rfl

/-- Before its change a call has not ended well. -/
theorem remaining_ne_done (c : SchemaCall) (statements : List String) (reply reply' : Option Plan) :
    c.remaining statements reply ≠ .done (.ok reply') := by
  cases statements with
  | nil => exact nofun
  | cons sql more =>
    by_cases hsql : Query.Bare sql
    · obtain ⟨next, hnext, -⟩ := c.remaining_bare hsql more reply
      rw [hnext]
      exact nofun
    · rw [c.remaining_refused hsql more reply]
      exact nofun

/-! ## What a call ends with -/

/-- Accepts statements without placeholders, up to the first that has one. -/
def accept : List String → Result Unit
  | [] => .ok ()
  | sql :: more => do
    let _ ← Query.make sql []
    accept more

theorem accept_bare : ∀ {statements : List String}, (∀ sql ∈ statements, Query.Bare sql) → accept statements = .ok ()
  | [], _ => rfl
  | sql :: more, h => by
    obtain ⟨hsql, hmore⟩ := List.forall_mem_cons.mp h
    rw [accept, Query.make_bare hsql]
    exact accept_bare hmore

theorem accept_refused {sql : String} (hsql : ¬ Query.Bare sql) (more : List String) :
    ∀ {sent : List String}, (∀ sql ∈ sent, Query.Bare sql) → accept (sent ++ sql :: more) =
      .error (.highestPlaceholder (Query.highest (Placeholder.indices sql)) 0)
  | [], _ => by
    rw [List.nil_append, accept, Query.make_refused hsql]
    rfl
  | first :: sent, h => by
    obtain ⟨hfirst, hsent⟩ := List.forall_mem_cons.mp h
    rw [List.cons_append, accept, Query.make_bare hfirst]
    exact accept_refused hsql more hsent

/-- What a call ends with, settled when it looks: by its checks, and by whether its statements are accepted. -/
def verdict (c : SchemaCall) (d : Datastore) (s : Schema) : Result (Option Plan) := do
  let (statements, reply) ← c.check d s
  accept statements
  return reply

variable {statements sent more : List String} {reply : Option Plan}

theorem verdict_error {e : Failure} (h : c.check d s = .error e) : c.verdict d s = .error e := by
  rw [verdict, h]
  rfl

theorem verdict_bare (h : c.check d s = .ok (statements, reply)) (hbare : ∀ sql ∈ statements, Query.Bare sql) :
    c.verdict d s = .ok reply := by
  rw [verdict, h]
  show (accept statements >>= fun _ => pure reply) = _
  rw [accept_bare hbare]
  rfl

theorem verdict_refused {sql : String} (h : c.check d s = .ok (sent ++ sql :: more, reply))
    (hsent : ∀ sql ∈ sent, Query.Bare sql) (hsql : ¬ Query.Bare sql) :
    c.verdict d s = .error (.highestPlaceholder (Query.highest (Placeholder.indices sql)) 0) := by
  rw [verdict, h]
  show (accept (sent ++ sql :: more) >>= fun _ => pure reply) = _
  rw [accept_refused hsql more hsent]
  rfl

/-! ## Where a call stands -/

/-- Where a call stands after moves that it made on these schemas, and what it has left to do. -/
inductive Stage (c : SchemaCall) (d : Datastore) : List Schema → Action (Option Plan) → Prop where
  | waiting : Stage c d [] (.look (c.begun d))
  | failed {seen : Schema} {e : Failure} (h : c.check d seen = .error e) : Stage c d [seen] (.done (.error e))
  | underWay {seen : Schema} {later : List Schema} {sent more : List String} {reply : Option Plan}
      (h : c.check d seen = .ok (sent ++ more, reply)) (hsent : ∀ sql ∈ sent, Query.Bare sql)
      (hlater : later.length = sent.length) : Stage c d (seen :: later) (c.remaining more reply)
  | ended {seen : Schema} {later : List Schema} {statements : List String} {reply : Option Plan}
      (h : c.check d seen = .ok (statements, reply)) (hbare : ∀ sql ∈ statements, Query.Bare sql)
      (hlater : later.length = statements.length + 1) : Stage c d (seen :: later) (.done (.ok reply))

namespace Stage

variable {own : List Schema} {left x : Action (Option Plan)} {s' : Schema}

/-- A step takes a call from stage to stage. It leaves the schema and does not end the call well, unless it is the
change of the call; and this does, on a schema on which it succeeds. -/
theorem step (h : Stage c d own left) (hstep : Action.Step s left s' x)
    (hchange : ∀ seen ∈ own, (∃ found, c.check d seen = .ok found) → ∃ t, c.change s = .ok t) :
    Stage c d (own ++ [s]) x ∧
      (s' = s ∧ left.isChange = false ∧ (∀ reply, x ≠ .done (.ok reply)) ∨
        c.change s = .ok s' ∧ ∃ reply, left = c.remaining [] reply ∧ x = .done (.ok reply)) := by
  cases h with
  | waiting =>
    cases hstep
    rw [begun]
    cases hcheck : c.check d s with
    | error e => exact ⟨.failed hcheck, .inl ⟨rfl, rfl, nofun⟩⟩
    | ok found =>
      refine ⟨.underWay (List.nil_append found.1 ▸ hcheck) (List.forall_mem_nil _) rfl, .inl ⟨rfl, rfl, ?_⟩⟩
      exact c.remaining_ne_done found.1 found.2
  | failed => cases hstep
  | ended => cases hstep
  | @underWay seen later sent more reply hcheck hsent hlater =>
    rw [List.cons_append]
    cases more with
    | nil =>
      obtain ⟨t, ht⟩ := hchange seen (List.mem_cons_self ..) ⟨_, hcheck⟩
      rw [remaining_nil] at hstep ⊢
      rw [List.append_nil] at hcheck
      cases hstep with
      | change h =>
        refine ⟨.ended hcheck hsent ?_, .inr ⟨h, reply, rfl, rfl⟩⟩
        rw [List.length_append, hlater]
        rfl
      | refuse h =>
        rw [ht] at h
        cases h
    | cons sql more =>
      by_cases hsql : Query.Bare sql
      · obtain ⟨next, hnext, hrows⟩ := c.remaining_bare hsql more reply
        rw [hnext] at hstep ⊢
        cases hstep with
        | send rows =>
          rw [hrows]
          have hnow : c.check d seen = .ok ((sent ++ [sql]) ++ more, reply) := by
            rw [hcheck, List.append_assoc]
            rfl
          refine ⟨.underWay hnow ?_ ?_, .inl ⟨rfl, rfl, c.remaining_ne_done more reply⟩⟩
          · exact List.forall_mem_append.mpr ⟨hsent, List.forall_mem_singleton.mpr hsql⟩
          · rw [List.length_append, List.length_append, hlater]
            rfl
      · rw [c.remaining_refused hsql more reply] at hstep
        cases hstep

/-- A call is over or can go on. -/
theorem able (h : Stage c d own left) (s : Schema) :
    (∃ r, left = .done r) ∨ ∃ s' x, Action.Step s left s' x := by
  cases h with
  | waiting => exact .inr ⟨_, _, .look⟩
  | failed => exact .inl ⟨_, rfl⟩
  | ended => exact .inl ⟨_, rfl⟩
  | @underWay seen later sent more reply hcheck hsent hlater =>
    cases more with
    | nil =>
      refine .inr ?_
      rw [remaining_nil]
      cases hupdate : c.change s with
      | ok t => exact ⟨_, _, .change hupdate⟩
      | error e => exact ⟨_, _, .refuse hupdate⟩
    | cons sql more =>
      by_cases hsql : Query.Bare sql
      · obtain ⟨next, hnext, -⟩ := c.remaining_bare hsql more reply
        rw [hnext]
        exact .inr ⟨_, _, .send []⟩
      · exact .inl ⟨_, c.remaining_refused hsql more reply⟩

/-- A call that is over ends with what was settled when it looked. -/
theorem result (h : Stage c d own left) {r : Result (Option Plan)} (hdone : left = .done r) :
    ∃ seen later, own = seen :: later ∧ r = c.verdict d seen := by
  cases h with
  | waiting => cases hdone
  | failed hcheck =>
    cases hdone
    exact ⟨_, _, rfl, (verdict_error hcheck).symm⟩
  | ended hcheck hbare =>
    cases hdone
    exact ⟨_, _, rfl, (verdict_bare hcheck hbare).symm⟩
  | @underWay seen later sent more reply hcheck hsent hlater =>
    cases more with
    | nil => cases hdone
    | cons sql more =>
      by_cases hsql : Query.Bare sql
      · obtain ⟨next, hnext, -⟩ := c.remaining_bare hsql more reply
        rw [hnext] at hdone
        cases hdone
      · rw [c.remaining_refused hsql more reply] at hdone
        cases hdone
        exact ⟨_, _, rfl, (verdict_refused hcheck hsent hsql).symm⟩

/-- A call whose checks and statements are accepted ends well, with two moves more than it has statements. -/
theorem returns {seen : Schema} {later : List Schema} (h : Stage c d (seen :: later) left)
    (hcheck : c.check d seen = .ok (statements, reply)) (hbare : ∀ sql ∈ statements, Query.Bare sql) :
    later.length < statements.length + 1 ∨ left = .done (.ok reply) := by
  cases h with
  | failed h =>
    rw [hcheck] at h
    cases h
  | ended h =>
    rw [hcheck] at h
    cases h
    exact .inr rfl
  | underWay h hsent hlater =>
    rw [hcheck] at h
    cases h
    rw [hlater, List.length_append]
    omega

/-- A call that has a statement with a placeholder ends with its refusal, before the statement is sent. -/
theorem refuses {seen : Schema} {later : List Schema} {sql : String} (h : Stage c d (seen :: later) left)
    (hcheck : c.check d seen = .ok (sent ++ sql :: more, reply)) (hsent : ∀ sql ∈ sent, Query.Bare sql)
    (hsql : ¬ Query.Bare sql) : later.length < sent.length ∨
      left = .done (.error (.highestPlaceholder (Query.highest (Placeholder.indices sql)) 0)) := by
  have hhere : ∀ bare left : List String, (∀ sql ∈ bare, Query.Bare sql) → bare ++ left = sent ++ sql :: more →
      bare.length < sent.length ∨ left = sql :: more := by
    intro bare left hbare heq
    rcases List.append_eq_append_iff.mp heq with ⟨rest, rfl, rfl⟩ | ⟨rest, rfl, hrest⟩
    · cases rest with
      | nil => exact .inr rfl
      | cons next rest => exact .inl (by simp)
    · cases rest with
      | nil => exact .inr hrest.symm
      | cons next rest =>
        cases hrest
        exact absurd (hbare sql (by simp)) hsql
  cases h with
  | failed h =>
    rw [hcheck] at h
    cases h
  | ended h hbare =>
    rw [hcheck] at h
    cases h
    exact absurd (hbare sql (by simp)) hsql
  | @underWay _ _ bare rest _ h hbare hlater =>
    rw [hcheck] at h
    rcases hhere bare rest hbare (Prod.mk.inj (Except.ok.inj h)).1.symm with hlt | rfl
    · exact .inl (hlater ▸ hlt)
    · exact .inr (c.remaining_refused hsql more _)

end Stage

end SchemaCall

end SqlAdapter
