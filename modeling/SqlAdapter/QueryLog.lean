/-
The log entry of a finished statement: a warning when it took longer than the
threshold, with the beginning of its text.
-/
import SqlAdapter.Event
import SqlAdapter.Json.Document

namespace SqlAdapter

structure QueryLog where
  /-- Statements that take longer, in milliseconds, are slow. -/
  slowThreshold : UInt64
  deriving DecidableEq

namespace QueryLog

/-- Statements are slow after a second. -/
def standard : QueryLog := ⟨1000⟩

/-- How many characters of a statement are shown. -/
def previewLength : Nat := 100

/-- The beginning of a statement. -/
def preview (sql : String) : String :=
  if sql.length ≤ previewLength then sql else String.ofList (sql.toList.take previewLength) ++ "..."

/-- The entry for a statement that took so many microseconds and returned so many rows. -/
def completed (q : QueryLog) (sql : String) (microseconds rows : Nat) : Event :=
  let milliseconds := microseconds / 1000
  if q.slowThreshold.toNat < milliseconds then
    ⟨.warn, "Slow query detected",
      [("duration_ms", .ofNat milliseconds), ("threshold_ms", .ofNat q.slowThreshold.toNat),
        ("rows", .ofNat rows), ("sql", .string (preview sql))]⟩
  else
    ⟨.debug, "Query completed",
      [("duration_ms", .ofNat milliseconds), ("rows", .ofNat rows), ("sql", .string (preview sql))]⟩

def keys : List String := ["slow_query_threshold_ms"]

def toJson (q : QueryLog) : Json := .object [("slow_query_threshold_ms", .ofNat q.slowThreshold.toNat)]

def ofJson? (document : Json) : Option QueryLog := do
  let fields ← document.settings? keys
  return ⟨← Json.setting fields "slow_query_threshold_ms" standard.slowThreshold Json.uint64?⟩

end QueryLog

end SqlAdapter
