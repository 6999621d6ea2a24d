/-
How a transaction is to run: its isolation, whether it may write, and whether it
may wait for a moment in which nothing can disturb it. The last counts for
serializable transactions that only read.
-/
import SqlAdapter.Error
import SqlAdapter.Json.Document
import SqlAdapter.Json.Reader

namespace SqlAdapter

inductive IsolationLevel where
  | readUncommitted
  | readCommitted
  | repeatableRead
  | serializable
  deriving DecidableEq

namespace IsolationLevel

def keyword : IsolationLevel → String
  | .readUncommitted => "READ UNCOMMITTED"
  | .readCommitted => "READ COMMITTED"
  | .repeatableRead => "REPEATABLE READ"
  | .serializable => "SERIALIZABLE"

/-- The level in a document. -/
def word : IsolationLevel → String
  | .readUncommitted => "read_uncommitted"
  | .readCommitted => "read_committed"
  | .repeatableRead => "repeatable_read"
  | .serializable => "serializable"

def all : List IsolationLevel := [.readUncommitted, .readCommitted, .repeatableRead, .serializable]

/-- The level with a keyword. -/
def ofKeyword? (keyword : String) : Option IsolationLevel := all.find? (·.keyword == keyword)

end IsolationLevel

inductive AccessMode where
  | readWrite
  | readOnly
  deriving DecidableEq

namespace AccessMode

def keyword : AccessMode → String
  | .readWrite => "READ WRITE"
  | .readOnly => "READ ONLY"

/-- The mode in a document. -/
def word : AccessMode → String
  | .readWrite => "read_write"
  | .readOnly => "read_only"

def all : List AccessMode := [.readWrite, .readOnly]

end AccessMode

structure TransactionOptions where
  isolation : IsolationLevel
  access : AccessMode
  deferrable : Bool
  deriving DecidableEq

namespace TransactionOptions

/-- What the database does unasked. -/
def standard : TransactionOptions := ⟨.readCommitted, .readWrite, false⟩

/-- The word on waiting, where it counts. -/
def deferral (o : TransactionOptions) : String :=
  match o.isolation, o.access with
  | .serializable, .readOnly => if o.deferrable then ", DEFERRABLE" else ", NOT DEFERRABLE"
  | _, _ => ""

/-- The statement that sets the options of a transaction that has just begun. -/
def sql (o : TransactionOptions) : String :=
  "SET TRANSACTION ISOLATION LEVEL " ++ o.isolation.keyword ++ ", " ++ o.access.keyword ++ o.deferral

def keys : List String := ["isolation_level", "access_mode", "deferrable"]

def toJson (o : TransactionOptions) : Json :=
  .object [("isolation_level", .string o.isolation.word), ("access_mode", .string o.access.word),
    ("deferrable", .bool o.deferrable)]

def ofJson? (document : Json) : Option TransactionOptions := do
  let fields ← document.settings? keys
  let isolation ← Json.setting fields "isolation_level" standard.isolation
    (Json.word? (IsolationLevel.all.map fun level => (level.word, level)))
  let access ← Json.setting fields "access_mode" standard.access
    (Json.word? (AccessMode.all.map fun mode => (mode.word, mode)))
  let deferrable ← Json.setting fields "deferrable" standard.deferrable Json.bool?
  return ⟨isolation, access, deferrable⟩

/-- The options that a text holds. -/
def read (text : String) : Result TransactionOptions :=
  match (Json.scan? text).bind ofJson? with
  | some options => .ok options
  | none => .error .document

end TransactionOptions

end SqlAdapter
