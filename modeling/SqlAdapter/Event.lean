/-
Log entries as data: what an operation would have written to a log is part of
its answer.
-/
import SqlAdapter.Json.Basic

namespace SqlAdapter

inductive Level where
  | warn
  | info
  | debug
  deriving DecidableEq

namespace Level

def name : Level → String
  | .warn => "WARN"
  | .info => "INFO"
  | .debug => "DEBUG"

end Level

/-- A log entry: its level, its message and its fields. -/
structure Event where
  level : Level
  message : String
  fields : List (String × Json)

end SqlAdapter
