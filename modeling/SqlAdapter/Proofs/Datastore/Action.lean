/-
How actions end well, with the executor out of sight.

`Action.Ends` keeps of a run its value and the two schemas. The lemmas take an
action that ends apart into its steps, one for each way to build an action, so
that what an operation does to the schema is read off without a run being
unfolded.
-/
import SqlAdapter.Datastore.Action
import SqlAdapter.Proofs.Result

namespace SqlAdapter.Action

variable {α β σ : Type}

/-- With some executor, the action takes one schema to another and ends with a value. -/
def Ends (x : Action α) (s : Schema) (a : α) (s' : Schema) : Prop :=
  ∃ (σ : Type) (executor : Executor σ) (state state' : σ), x.run executor s state = (.ok a, s', state')

/-- A run that ends well is a run of the first action and, from where it ended, one of the second. -/
theorem run_bind {executor : Executor σ} {x : Action α} {f : α → Action β} {b : β} {s s'' : Schema}
    {state state'' : σ} (h : (x.bind f).run executor s state = (.ok b, s'', state'')) :
    ∃ a s' state', x.run executor s state = (.ok a, s', state') ∧
      (f a).run executor s' state' = (.ok b, s'', state'') := by
  induction x generalizing s state with
  | done result =>
    cases result with
    | ok a => exact ⟨a, s, state, rfl, h⟩
    | error e => cases h
  | look next ih => exact ih s h
  | send query next ih => exact ih (executor query state).1 h
  | change f next ih =>
    simp only [bind, run] at h ⊢
    cases hf : f s with
    | ok t =>
      rw [hf] at h
      exact ih h
    | error e =>
      rw [hf] at h
      cases h

namespace Ends

variable {s s' : Schema} {b : β}

theorem bind {x : Action α} {f : α → Action β} (h : (x >>= f).Ends s b s') :
    ∃ a t, x.Ends s a t ∧ (f a).Ends t b s' := by
  obtain ⟨σ, executor, state, state', h⟩ := h
  obtain ⟨a, t, between, hx, hf⟩ := run_bind h
  exact ⟨a, t, ⟨σ, executor, state, between, hx⟩, ⟨σ, executor, between, state', hf⟩⟩

theorem lift {result : Result α} {a : α} (h : (Action.lift result).Ends s a s') :
    result = .ok a ∧ s' = s := by
  obtain ⟨σ, executor, state, state', h⟩ := h
  cases h
  exact ⟨rfl, rfl⟩

theorem pure {a b : α} (h : (Pure.pure a : Action α).Ends s b s') : s' = s :=
  (lift h).2

theorem execute {query : Query} {rows : List Row} (h : (Action.execute query).Ends s rows s') : s' = s := by
  obtain ⟨σ, executor, state, state', h⟩ := h
  exact (congrArg (·.2.1) h).symm

theorem update {f : Schema → Result Schema} {u : Unit} (h : (Action.update f).Ends s u s') :
    f s = .ok s' := by
  obtain ⟨σ, executor, state, state', h⟩ := h
  simp only [Action.update, run] at h
  cases hf : f s with
  | ok t =>
    rw [hf] at h
    cases h
    rfl
  | error e =>
    rw [hf] at h
    cases h

/-! ### Steps that leave the schema alone -/

theorem schema_bind {f : Schema → Action β} (h : (Action.schema >>= f).Ends s b s') : (f s).Ends s b s' := by
  obtain ⟨σ, executor, state, state', h⟩ := h
  exact ⟨σ, executor, state, state', h⟩

theorem lift_bind {result : Result α} {f : α → Action β} (h : (Action.lift result >>= f).Ends s b s') :
    ∃ a, result = .ok a ∧ (f a).Ends s b s' := by
  obtain ⟨a, t, hfirst, hrest⟩ := h.bind
  obtain ⟨hresult, rfl⟩ := hfirst.lift
  exact ⟨a, hresult, hrest⟩

theorem execute_bind {query : Query} {f : List Row → Action β} (h : (Action.execute query >>= f).Ends s b s') :
    ∃ rows, (f rows).Ends s b s' := by
  obtain ⟨rows, t, hrows, hrest⟩ := h.bind
  cases hrows.execute
  exact ⟨rows, hrest⟩

theorem executeAll {statements : List String} {u : Unit} (h : (Action.executeAll statements).Ends s u s') :
    s' = s := by
  induction statements with
  | nil => exact h.pure
  | cons sql more ih =>
    obtain ⟨query, -, hsent⟩ := h.lift_bind
    obtain ⟨rows, hmore⟩ := hsent.execute_bind
    exact ih hmore

theorem executeAll_bind {statements : List String} {f : Unit → Action β}
    (h : (Action.executeAll statements >>= f).Ends s b s') : (f ()).Ends s b s' := by
  obtain ⟨_, t, hsent, hrest⟩ := h.bind
  cases hsent.executeAll
  exact hrest

end Ends

end SqlAdapter.Action
