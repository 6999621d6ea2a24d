/-
Talking to a server: statements go out, answers come back, and both are kept.

A `Wire` is the line to a server together with all statements sent over it. The
server is any function from statements to answers, with a state of its own.
Opening a connection asks the server for a sign of life first.

A transaction is open until the first attempt to end it, whatever the server
says to that; from then on it refuses everything without sending anything.
-/
import SqlAdapter.Connection.Extraction
import SqlAdapter.Connection.Transaction
import SqlAdapter.Sql.Query

namespace SqlAdapter

/-- What a server says to a statement. -/
inductive Reply where
  | answer (columns : List WireColumn) (cells : List (List Value))
  | fault (fault : DriverFault)

namespace Reply

/-- A success without rows. -/
def empty : Reply := .answer [] []

/-- The rows of an answer. -/
def rowsOf : Reply → Result (List Row)
  | .answer columns lines => lines.mapM fun cells => Row.ofCells columns cells []
  | .fault f => .error f.error

/-- An answer of which only the success matters. -/
def success : Reply → Result Unit
  | .answer _ _ => .ok ()
  | .fault f => .error f.error

end Reply

/-- What answers statements over a line, with a state of type `σ`. -/
abbrev Server (σ : Type) := String → σ → Reply × σ

/-- A server that always says the same to a statement: the reply of the first beginning that fits, or
a success without rows. -/
def Server.scripted (replies : List (String × Reply)) : Server Unit := fun sql _ =>
  match replies.find? fun (beginning, _) => beginning.toList.isPrefixOf sql.toList with
  | some (_, reply) => (reply, ())
  | none => (.empty, ())

/-- The line to a server, and what was sent over it. -/
structure Wire (σ : Type) where
  server : Server σ
  state : σ
  sent : List String

namespace Wire

variable {σ : Type}

/-- Sends a statement. -/
def send (w : Wire σ) (sql : String) : Reply × Wire σ :=
  let (reply, state) := w.server sql w.state
  (reply, { w with state := state, sent := w.sent ++ [sql] })

/-- The statement that asks for a sign of life. -/
def pingSql : String := "SELECT 1"

/-- Asks for a sign of life. -/
def ping (w : Wire σ) : Result Unit × Wire σ :=
  let (reply, w) := w.send pingSql
  (reply.success, w)

/-- Opens a connection. -/
def connect (w : Wire σ) : Result Unit × Wire σ :=
  match w.ping with
  | (.ok (), w) => (.ok (), w)
  | (.error e, w) => (.error (.unverified e.message), w)

/-- The rows of a statement. -/
def execute (w : Wire σ) (query : Query) : Result (List Row) × Wire σ :=
  let (reply, w) := w.send query.sql
  (reply.rowsOf, w)

end Wire

/-- A transaction, open or over. -/
inductive Transaction where
  | running
  | over
  deriving DecidableEq

namespace Transaction

variable {σ : Type}

/-- Begins a transaction and sets its options. -/
def start (w : Wire σ) (options : TransactionOptions) : Result Transaction × Wire σ :=
  let (reply, w) := w.send "BEGIN"
  match reply.success with
  | .error e => (.error e, w)
  | .ok () =>
    let (reply, w) := w.send options.sql
    (reply.success.map fun () => .running, w)

def isFinished (t : Transaction) : Bool := t = .over

/-- The rows of a statement inside the transaction. -/
def execute (t : Transaction) (w : Wire σ) (query : Query) : Result (List Row) × Wire σ :=
  match t with
  | .running => w.execute query
  | .over => (.error .transactionOver, w)

/-- Ends the transaction with a statement. -/
def finish (t : Transaction) (w : Wire σ) (sql : String) : Result Unit × Transaction × Wire σ :=
  match t with
  | .running =>
    let (reply, w) := w.send sql
    (reply.success, .over, w)
  | .over => (.error .transactionOver, .over, w)

/-- Keeps what the transaction did. -/
def commit (t : Transaction) (w : Wire σ) : Result Unit × Transaction × Wire σ := t.finish w "COMMIT"

/-- Undoes what the transaction did. -/
def rollback (t : Transaction) (w : Wire σ) : Result Unit × Transaction × Wire σ := t.finish w "ROLLBACK"

end Transaction

end SqlAdapter
