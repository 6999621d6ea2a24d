/-
What an action does from its beginning to its end, well or badly.

`Action.Trace` keeps of a run the statements that were sent, with the answers to
them, what the action ended with and the schema that it left. Every run has a
trace, and an executor that is `recorded` ends with just the exchanges of the
trace in its record (`run_trace`). Whoever answers, an action is then taken apart
along its binds: `Trace.bind`, and one lemma for each way to build an action.
-/
import SqlAdapter.Datastore.Action

namespace SqlAdapter

/-- A statement that was sent, and the answer to it. -/
abbrev Exchange := Query × Result (List Row)

namespace Executor

variable {σ : Type}

/-- The executor of a call: the one passed along with it, or else the datastore's own. -/
def chosen (own : Executor σ) (override : Option (Executor σ)) : Executor σ := override.getD own

/-- The executor, with a record of what it was sent and what it answered. -/
def recorded (executor : Executor σ) : Executor (σ × List Exchange) := fun query (state, record) =>
  ((executor query state).1, (executor query state).2, record ++ [(query, (executor query state).1)])

end Executor

namespace Action

variable {α β σ : Type}

/-- On its own, the action can take one schema to another with these exchanges and end with this result. -/
inductive Trace : Schema → Action α → List Exchange → Result α → Schema → Prop where
  | done {s : Schema} {r : Result α} : Trace s (.done r) [] r s
  | look {s s' : Schema} {next : Schema → Action α} {sent : List Exchange} {r : Result α}
      (rest : Trace s (next s) sent r s') : Trace s (.look next) sent r s'
  | send {s s' : Schema} {query : Query} {next : Result (List Row) → Action α} {sent : List Exchange}
      {r : Result α} (answer : Result (List Row)) (rest : Trace s (next answer) sent r s') :
      Trace s (.send query next) ((query, answer) :: sent) r s'
  | change {s t s' : Schema} {update : Schema → Result Schema} {next : Action α} {sent : List Exchange}
      {r : Result α} (h : update s = .ok t) (rest : Trace t next sent r s') :
      Trace s (.change update next) sent r s'
  | refuse {s : Schema} {update : Schema → Result Schema} {next : Action α} {e : Failure}
      (h : update s = .error e) : Trace s (.change update next) [] (.error e) s

/-- Every run has a trace, and a recorded executor records the exchanges of it. -/
theorem run_trace {executor : Executor σ} {x : Action α} {s s' : Schema} {state state' : σ} {r : Result α}
    (h : x.run executor s state = (r, s', state')) (before : List Exchange) :
    ∃ sent, Trace s x sent r s' ∧
      (∀ query answer, (query, answer) ∈ sent → ∃ between, (executor query between).1 = answer) ∧
      x.run executor.recorded s (state, before) = (r, s', state', before ++ sent) := by
  induction x generalizing s state before with
  | done result =>
    cases h
    exact ⟨[], .done, nofun, by rw [List.append_nil, run]⟩
  | look next ih =>
    obtain ⟨sent, htrace, hanswers, hrecorded⟩ := ih s h before
    exact ⟨sent, .look htrace, hanswers, hrecorded⟩
  | send query next ih =>
    let answer := (executor query state).1
    obtain ⟨sent, htrace, hanswers, hrecorded⟩ := ih answer h (before ++ [(query, answer)])
    refine ⟨(query, answer) :: sent, .send answer htrace, ?_, ?_⟩
    · intro query' answer' hmem
      rcases List.mem_cons.mp hmem with heq | hmem
      · cases heq
        exact ⟨state, rfl⟩
      · exact hanswers query' answer' hmem
    · rw [List.append_cons]
      exact hrecorded
  | change update next ih =>
    simp only [run] at h ⊢
    cases hupdate : update s with
    | ok t =>
      rw [hupdate] at h
      obtain ⟨sent, htrace, hanswers, hrecorded⟩ := ih h before
      exact ⟨sent, .change hupdate htrace, hanswers, hrecorded⟩
    | error e =>
      rw [hupdate] at h
      cases h
      exact ⟨[], .refuse hupdate, nofun, by rw [List.append_nil]⟩

namespace Trace

variable {s s' : Schema} {sent : List Exchange} {r : Result β}

/-- A trace of one action after another is a trace of the first that ends badly, or one of each. -/
theorem bind {x : Action α} {f : α → Action β} (h : Trace s (x.bind f) sent r s') :
    (∃ e, r = .error e ∧ Trace s x sent (.error e) s') ∨
      ∃ a t first rest, sent = first ++ rest ∧ Trace s x first (.ok a) t ∧ Trace t (f a) rest r s' := by
  induction x generalizing s sent with
  | done result =>
    cases result with
    | ok a => exact .inr ⟨a, s, [], sent, rfl, .done, h⟩
    | error e =>
      cases h
      exact .inl ⟨e, rfl, .done⟩
  | look next ih =>
    cases h with
    | look rest =>
      rcases ih s rest with ⟨e, hr, hx⟩ | ⟨a, t, first, last, hsent, hx, hf⟩
      · exact .inl ⟨e, hr, .look hx⟩
      · exact .inr ⟨a, t, first, last, hsent, .look hx, hf⟩
  | send query next ih =>
    cases h with
    | send answer rest =>
      rcases ih answer rest with ⟨e, hr, hx⟩ | ⟨a, t, first, last, hsent, hx, hf⟩
      · exact .inl ⟨e, hr, .send answer hx⟩
      · exact .inr ⟨a, t, (query, answer) :: first, last, by rw [hsent, List.cons_append], .send answer hx, hf⟩
  | change update next ih =>
    cases h with
    | change hupdate rest =>
      rcases ih rest with ⟨e, hr, hx⟩ | ⟨a, t, first, last, hsent, hx, hf⟩
      · exact .inl ⟨e, hr, .change hupdate hx⟩
      · exact .inr ⟨a, t, first, last, hsent, .change hupdate hx, hf⟩
    | refuse hupdate => exact .inl ⟨_, rfl, .refuse hupdate⟩

/-! ### Steps one by one -/

theorem lift {result r : Result α} (h : Trace s (Action.lift result) sent r s') :
    r = result ∧ sent = [] ∧ s' = s := by
  cases h
  exact ⟨rfl, rfl, rfl⟩

theorem schema_bind {f : Schema → Action β} (h : Trace s (Action.schema >>= f) sent r s') :
    Trace s (f s) sent r s' := by
  cases h with
  | look rest => exact rest

theorem lift_bind {result : Result α} {f : α → Action β} (h : Trace s (Action.lift result >>= f) sent r s') :
    (∃ e, result = .error e ∧ r = .error e ∧ sent = [] ∧ s' = s) ∨
      ∃ a, result = .ok a ∧ Trace s (f a) sent r s' := by
  cases result with
  | ok a => exact .inr ⟨a, rfl, h⟩
  | error e =>
    cases h
    exact .inl ⟨e, rfl, rfl, rfl, rfl⟩

theorem execute_bind {query : Query} {f : List Row → Action β}
    (h : Trace s (Action.execute query >>= f) sent r s') :
    (∃ e, r = .error e ∧ sent = [(query, .error e)] ∧ s' = s) ∨
      ∃ rows rest, sent = (query, .ok rows) :: rest ∧ Trace s (f rows) rest r s' := by
  cases h with
  | send answer rest =>
    cases answer with
    | ok rows => exact .inr ⟨rows, _, rfl, rest⟩
    | error e =>
      cases rest
      exact .inl ⟨e, rfl, rfl, rfl⟩

/-- Statements alone leave the schema, however they end. -/
theorem executeAll {statements : List String} {r : Result Unit}
    (h : Trace s (Action.executeAll statements) sent r s') : s' = s := by
  induction statements generalizing sent with
  | nil =>
    cases h
    rfl
  | cons sql more ih =>
    rcases h.lift_bind with ⟨e, -, -, -, hs⟩ | ⟨query, -, h⟩
    · exact hs
    · rcases h.execute_bind with ⟨e, -, -, hs⟩ | ⟨rows, rest, -, h⟩
      · exact hs
      · exact ih h

end Trace

end Action

end SqlAdapter
