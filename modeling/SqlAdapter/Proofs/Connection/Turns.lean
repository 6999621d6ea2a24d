/-
Calls on a transaction, one after another, whatever the server replies.

A transaction is under way until the first call that is to end it, and over from
then on: also where the server refuses the COMMIT, and not where it refuses a
statement. `Transaction.call_running` and `Transaction.call_over` say this of one
call, `Transaction.turns_running` of all, by the place of a call in the sequence.
-/
import SqlAdapter.Connection.Session

namespace SqlAdapter

namespace Transaction

/-- What can be asked of a transaction. -/
inductive Call where
  | execute (query : Query)
  | commit
  | rollback
  | isFinished

/-- What is answered: the rows of a statement, how the end went, whether the transaction is over. -/
inductive Answer where
  | rows (result : Result (List Row))
  | ending (result : Result Unit)
  | finished (ended : Bool)

namespace Call

/-- Is the call to end the transaction? -/
def ends : Call → Bool
  | .commit | .rollback => true
  | .execute _ | .isFinished => false

/-- The statements of the call's own. -/
def statements : Call → List String
  | .execute query => [query.sql]
  | .commit => ["COMMIT"]
  | .rollback => ["ROLLBACK"]
  | .isFinished => []

/-- What a transaction under way answers, by what the server replies to the call's statement. -/
def response (reply : Reply) : Call → Answer
  | .execute _ => .rows reply.rowsOf
  | .commit | .rollback => .ending reply.success
  | .isFinished => .finished false

/-- What a transaction answers that is over. -/
def refusal : Call → Answer
  | .execute _ => .rows (.error .transactionOver)
  | .commit | .rollback => .ending (.error .transactionOver)
  | .isFinished => .finished true

end Call

/-- A call, what was answered and what was sent meanwhile. -/
structure Turn where
  call : Call
  answer : Answer
  sent : List String

namespace Turn

/-- The call did its own: its statements were sent, and the answer is the server's reply to them. -/
def Done {σ : Type} (server : Server σ) (turn : Turn) : Prop :=
  turn.sent = turn.call.statements ∧
    ∃ reply, turn.answer = turn.call.response reply ∧
      ∀ sql ∈ turn.call.statements, ∃ state, (server sql state).1 = reply

/-- The call was refused: nothing was sent, and the answer is that of a transaction that is over. -/
def Refused (turn : Turn) : Prop := turn.sent = [] ∧ turn.answer = turn.call.refusal

end Turn

variable {σ : Type}

/-- One call on a transaction: its answer, and the transaction and the line after it. -/
def call (t : Transaction) (w : Wire σ) : Call → Answer × Transaction × Wire σ
  | .execute query => (.rows (t.execute w query).1, t, (t.execute w query).2)
  | .commit => (.ending (t.commit w).1, (t.commit w).2)
  | .rollback => (.ending (t.rollback w).1, (t.rollback w).2)
  | .isFinished => (.finished t.isFinished, t, w)

/-- Calls one after another, and the transaction and the line after them. -/
def turns (t : Transaction) (w : Wire σ) : List Call → List Turn × Transaction × Wire σ
  | [] => ([], t, w)
  | c :: calls =>
    let (answer, t', w') := t.call w c
    let (rest, after) := turns t' w' calls
    (⟨c, answer, w'.sent.drop w.sent.length⟩ :: rest, after)

/-! ## One call -/

/-- A transaction that is over refuses every call and sends nothing. -/
theorem call_over (w : Wire σ) (c : Call) : Transaction.over.call w c = (c.refusal, .over, w) := by
  cases c <;> rfl

/-- A transaction under way does every call, and is over after one that is to end it. -/
theorem call_running (w : Wire σ) (c : Call) :
    ∃ reply state, Transaction.running.call w c =
        (c.response reply, if c.ends then .over else .running,
          { w with state := state, sent := w.sent ++ c.statements }) ∧
      ∀ sql ∈ c.statements, ∃ state, (w.server sql state).1 = reply := by
  have hone (sql : String) : ∀ sql' ∈ [sql], ∃ state, (w.server sql' state).1 = (w.server sql w.state).1 := by
    intro sql' hsql
    rw [List.mem_singleton.mp hsql]
    exact ⟨w.state, rfl⟩
  cases c with
  | execute query => exact ⟨_, (w.server query.sql w.state).2, rfl, hone query.sql⟩
  | commit => exact ⟨_, (w.server "COMMIT" w.state).2, rfl, hone "COMMIT"⟩
  | rollback => exact ⟨_, (w.server "ROLLBACK" w.state).2, rfl, hone "ROLLBACK"⟩
  | isFinished =>
    refine ⟨.empty, w.state, ?_, by simp [Call.statements]⟩
    simp [call, isFinished, Call.response, Call.statements, Call.ends]

theorem start_running {w w' : Wire σ} {options : TransactionOptions} {t : Transaction}
    (h : start w options = (.ok t, w')) : t = .running := by
  simp only [start] at h
  split at h
  · cases h
  · cases hreply : ((w.send "BEGIN").2.send options.sql).1.success with
    | ok _ =>
      rw [hreply] at h
      cases h
      rfl
    | error e =>
      rw [hreply] at h
      cases h

/-! ## All calls -/

theorem turns_over (w : Wire σ) (calls : List Call) :
    ∃ all, Transaction.over.turns w calls = (all, .over, w) ∧ all.map (·.call) = calls ∧
      ∀ turn ∈ all, turn.Refused := by
  induction calls with
  | nil => exact ⟨[], rfl, rfl, by simp⟩
  | cons c calls ih =>
    obtain ⟨all, hturns, hcalls, hrefused⟩ := ih
    refine ⟨⟨c, c.refusal, []⟩ :: all, ?_, by rw [List.map_cons, hcalls], ?_⟩
    · simp [turns, call_over, hturns]
    · exact List.forall_mem_cons.mpr ⟨⟨rfl, rfl⟩, hrefused⟩

/-- The turns of a transaction that was under way at their beginning. -/
structure Course (server : Server σ) (all : List Turn) : Prop where
  /-- Calls are done up to the first that is to end the transaction, and refused behind it. -/
  at_place : ∀ before turn after, all = before ++ turn :: after →
    if before.any (·.call.ends) then turn.Refused else turn.Done server
  /-- Of all calls that are to end the transaction, at most one sends its statement. -/
  one_end : ((all.filter (·.call.ends)).flatMap (·.sent)).length ≤ 1

theorem Course.nil (server : Server σ) : Course server [] := ⟨by simp, by simp⟩

/-- Behind a call that was to end the transaction, all are refused. -/
theorem Course.ended {server : Server σ} {turn : Turn} {all : List Turn} (hturn : turn.Done server)
    (hends : turn.call.ends = true) (hall : ∀ turn ∈ all, turn.Refused) : Course server (turn :: all) := by
  constructor
  · intro before turn' after heq
    cases before with
    | nil =>
      cases heq
      exact hturn
    | cons first before =>
      cases heq
      rw [List.any_cons, hends, Bool.true_or, if_pos rfl]
      exact hall turn' (by simp)
  · have hsilent : (all.filter (·.call.ends)).flatMap (·.sent) = [] :=
      List.flatMap_eq_nil_iff.mpr fun turn' hmem => (hall turn' (List.mem_filter.mp hmem).1).1
    have hone : turn.call.statements.length ≤ 1 := by
      cases turn.call <;> simp [Call.statements]
    have hfirst : (turn :: all).filter (·.call.ends) = turn :: all.filter (·.call.ends) :=
      List.filter_cons_of_pos hends
    rw [hfirst, List.flatMap_cons, hsilent, List.append_nil, hturn.1]
    exact hone

/-- A call that is not to end the transaction leaves it under way. -/
theorem Course.cons {server : Server σ} {turn : Turn} {all : List Turn} (hturn : turn.Done server)
    (hends : turn.call.ends = false) (hall : Course server all) : Course server (turn :: all) := by
  constructor
  · intro before turn' after heq
    cases before with
    | nil =>
      cases heq
      exact hturn
    | cons first before =>
      cases heq
      rw [List.any_cons, hends, Bool.false_or]
      exact hall.at_place before turn' after rfl
  · rw [List.filter_cons_of_neg (by simp [hends])]
    exact hall.one_end

theorem turns_running (w : Wire σ) (calls : List Call) :
    ∃ all state, Transaction.running.turns w calls =
        (all, if calls.any Call.ends then .over else .running,
          { w with state := state, sent := w.sent ++ all.flatMap (·.sent) }) ∧
      all.map (·.call) = calls ∧ Course w.server all := by
  induction calls generalizing w with
  | nil => exact ⟨[], w.state, by simp [turns], rfl, .nil w.server⟩
  | cons c calls ih =>
    obtain ⟨reply, state, hcall, hreply⟩ := call_running w c
    have hdone : Turn.Done w.server ⟨c, c.response reply, c.statements⟩ := ⟨rfl, reply, rfl, hreply⟩
    cases hends : c.ends with
    | true =>
      obtain ⟨all, hturns, hcalls, hrefused⟩ :=
        turns_over { w with state := state, sent := w.sent ++ c.statements } calls
      have hsilent : all.flatMap (·.sent) = [] :=
        List.flatMap_eq_nil_iff.mpr fun turn hturn => (hrefused turn hturn).1
      refine ⟨⟨c, c.response reply, c.statements⟩ :: all, state, ?_, by rw [List.map_cons, hcalls],
        .ended hdone hends hrefused⟩
      simp [turns, hcall, hends, hturns, hsilent]
    | false =>
      obtain ⟨all, state', hturns, hcalls, hcourse⟩ :=
        ih { w with state := state, sent := w.sent ++ c.statements }
      refine ⟨⟨c, c.response reply, c.statements⟩ :: all, state', ?_, by rw [List.map_cons, hcalls],
        .cons hdone hends hcourse⟩
      simp [turns, hcall, hends, hturns]

/-- On an opened transaction, every call up to the first COMMIT or ROLLBACK is done: a statement is sent once, and
the transaction is not finished. That one call ends it, whatever the server replies: at most one COMMIT or ROLLBACK
is sent, and every later call is refused without anything sent, the transaction being finished. -/
theorem ends_once {options : TransactionOptions} {w w' : Wire σ} {t : Transaction}
    (hstart : start w options = (.ok t, w')) (calls : List Call) :
    ∃ all state, t.turns w' calls =
        (all, if calls.any Call.ends then .over else .running,
          { w' with state := state, sent := w'.sent ++ all.flatMap (·.sent) }) ∧
      all.map (·.call) = calls ∧
      ((all.filter (·.call.ends)).flatMap (·.sent)).length ≤ 1 ∧
      (∀ before turn after, all = before ++ turn :: after →
        if before.any (·.call.ends) then turn.Refused else turn.Done w'.server) ∧
      Failure.transactionOver.kind = .database ∧
      Failure.transactionOver.detail = "Transaction already committed or rolled back" := by
  obtain rfl := start_running hstart
  obtain ⟨all, state, hturns, hcalls, hcourse⟩ := turns_running w' calls
  exact ⟨all, state, hturns, hcalls, hcourse.one_end, hcourse.at_place, rfl, rfl⟩

/-- A line to a server that refuses to commit, with a transaction opened on it. -/
def unwilling : Wire Unit where
  server := Server.scripted [("COMMIT", .fault (.database (some "40001") "could not serialize access"))]
  state := ()
  sent := ["BEGIN", TransactionOptions.standard.sql]

/-- A COMMIT that the server refuses ends the transaction all the same. -/
theorem ends_once_unwilling :
    start { unwilling with sent := [] } .standard = (.ok .running, unwilling) ∧
    ∃ before turn, Transaction.running.turns unwilling [.execute ⟨"SELECT 1", []⟩, .commit, .isFinished, .rollback] =
        (before ++ [turn], .over, { unwilling with sent := unwilling.sent ++ ["SELECT 1", "COMMIT"] }) ∧
      turn.sent = [] ∧ turn.answer = .ending (.error .transactionOver) := by
  have hstart : start { unwilling with sent := [] } .standard = (.ok .running, unwilling) := rfl
  have hsent : (Transaction.running.turns unwilling
      [.execute ⟨"SELECT 1", []⟩, .commit, .isFinished, .rollback]).2.2.sent =
        unwilling.sent ++ ["SELECT 1", "COMMIT"] := rfl
  obtain ⟨all, state, hturns, hcalls, -, hplace, -⟩ :=
    ends_once hstart [.execute ⟨"SELECT 1", []⟩, .commit, .isFinished, .rollback]
  have hsplit : all.map (·.call) = [Call.execute ⟨"SELECT 1", []⟩, .commit, .isFinished] ++ [.rollback] := hcalls
  obtain ⟨before, last, rfl, hbefore, hlast⟩ := List.map_eq_append_iff.mp hsplit
  obtain ⟨turn, rfl, hcall⟩ := List.map_eq_singleton_iff.mp hlast
  have hended : before.any (·.call.ends) = true := by
    have hany := congrArg (·.any Call.ends) hbefore
    simpa [List.any_map, Call.ends] using hany
  have hrefused := hplace before turn [] rfl
  rw [if_pos hended] at hrefused
  rw [hturns] at hsent
  refine ⟨hstart, before, turn, hturns.trans ?_, hrefused.1, hrefused.2.trans (by rw [hcall]; rfl)⟩
  exact congrArg (fun sent => (before ++ [turn], Transaction.over, { unwilling with sent := sent })) hsent

end Transaction

end SqlAdapter
