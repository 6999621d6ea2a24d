/-
What an operation on a datastore does, step by step.

An action reads the schema, sends statements and waits for their rows, and
changes the schema in one stroke. Between any two of its steps other actions may
take theirs; `Action.run` is the case where none does. An executor is anything
that answers statements, with a state of its own.
-/
import SqlAdapter.Schema.Table
import SqlAdapter.Sql.Query

namespace SqlAdapter

/-- An action that ends with an `α` or an error. -/
inductive Action (α : Type) where
  | done (result : Result α)
  /-- Reads the schema as it is now. -/
  | look (next : Schema → Action α)
  /-- Sends a statement and goes on with the answer. -/
  | send (query : Query) (next : Result (List Row) → Action α)
  /-- Changes the schema as it is now, or ends with an error and leaves it. -/
  | change (update : Schema → Result Schema) (next : Action α)

namespace Action

variable {α β : Type}

/-- One action after another, unless the first ends with an error. -/
def bind (first : Action α) (second : α → Action β) : Action β :=
  match first with
  | .done (.ok value) => second value
  | .done (.error e) => .done (.error e)
  | .look next => .look fun schema => (next schema).bind second
  | .send query next => .send query fun answer => (next answer).bind second
  | .change update next => .change update (next.bind second)

instance : Monad Action where
  pure value := .done (.ok value)
  bind := bind

/-- The action that does nothing but give a result. -/
def lift (result : Result α) : Action α := .done result

/-- The schema as it is now. -/
def schema : Action Schema := .look fun schema => .done (.ok schema)

/-- The rows of a statement. -/
def execute (query : Query) : Action (List Row) := .send query .done

/-- A change of the schema. -/
def update (f : Schema → Result Schema) : Action Unit := .change f (.done (.ok ()))

/-- Statements without parameters, one after another. -/
def executeAll : List String → Action Unit
  | [] => .done (.ok ())
  | sql :: more => do
    let query ← lift (Query.make sql [])
    let _ ← execute query
    executeAll more

end Action

/-- What answers statements, with a state of type `σ`. -/
abbrev Executor (σ : Type) := Query → σ → Result (List Row) × σ

/-- The action on its own: its result, the schema after it, and the state of the executor. -/
def Action.run {α σ : Type} (executor : Executor σ) (schema : Schema) (state : σ) :
    Action α → Result α × Schema × σ
  | .done result => (result, schema, state)
  | .look next => (next schema).run executor schema state
  | .send query next =>
    let (answer, state) := executor query state
    (next answer).run executor schema state
  | .change update next =>
    match update schema with
    | .ok schema => next.run executor schema state
    | .error e => (.error e, schema, state)

end SqlAdapter
