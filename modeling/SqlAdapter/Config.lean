/-
The configuration of a datastore: its pool of connections, its log of
statements, and what to do with unknown types. Every part has a default, so that
documents may leave out what they do not change.
-/
import SqlAdapter.Error
import SqlAdapter.Json.Reader
import SqlAdapter.QueryLog
import SqlAdapter.Retry
import SqlAdapter.Schema.AttributeType

namespace SqlAdapter

/-- A pool of connections. Times are in seconds. -/
structure PoolSettings where
  minConnections : UInt32
  maxConnections : UInt32
  /-- How long to wait for a connection. -/
  connectTimeout : UInt64
  /-- After what time a connection is replaced. -/
  maxLifetime : Option UInt64
  /-- How long a connection may stay unused. -/
  idleTimeout : Option UInt64
  retry : RetryPolicy
  /-- How many prepared statements a connection keeps. -/
  statementCache : UInt64
  deriving DecidableEq

namespace PoolSettings

def standard : PoolSettings := ⟨1, 10, 30, some 1800, some 600, .standard, 100⟩

def keys : List String :=
  ["min_connections", "max_connections", "connect_timeout", "max_lifetime", "idle_timeout", "retry",
    "statement_cache_capacity"]

/-- A number, or null. -/
def optional : Option UInt64 → Json
  | some n => .ofNat n.toNat
  | none => .null

def toJson (p : PoolSettings) : Json :=
  .object [("min_connections", .ofNat p.minConnections.toNat),
    ("max_connections", .ofNat p.maxConnections.toNat),
    ("connect_timeout", .ofNat p.connectTimeout.toNat),
    ("max_lifetime", optional p.maxLifetime),
    ("idle_timeout", optional p.idleTimeout),
    ("retry", p.retry.toJson),
    ("statement_cache_capacity", .ofNat p.statementCache.toNat)]

def ofJson? (document : Json) : Option PoolSettings := do
  let fields ← document.settings? keys
  let minConnections ← Json.setting fields "min_connections" standard.minConnections Json.uint32?
  let maxConnections ← Json.setting fields "max_connections" standard.maxConnections Json.uint32?
  let connectTimeout ← Json.setting fields "connect_timeout" standard.connectTimeout Json.uint64?
  let maxLifetime ← Json.setting fields "max_lifetime" standard.maxLifetime Json.optionalUint64?
  let idleTimeout ← Json.setting fields "idle_timeout" standard.idleTimeout Json.optionalUint64?
  let retry ← Json.setting fields "retry" standard.retry RetryPolicy.ofJson?
  let statementCache ← Json.setting fields "statement_cache_capacity" standard.statementCache Json.uint64?
  return ⟨minConnections, maxConnections, connectTimeout, maxLifetime, idleTimeout, retry, statementCache⟩

end PoolSettings

namespace MappingMode

/-- The modes and their words. -/
def words : List (String × MappingMode) := [("strict", .strict), ("best_effort", .bestEffort)]

def word : MappingMode → String
  | .strict => "strict"
  | .bestEffort => "best_effort"

end MappingMode

structure Config where
  pool : PoolSettings
  queryLog : QueryLog
  typeMapping : MappingMode
  deriving DecidableEq

namespace Config

def standard : Config := ⟨.standard, .standard, .strict⟩

def keys : List String := ["pool", "executor", "type_mapping"]

def toJson (c : Config) : Json :=
  .object [("pool", c.pool.toJson), ("executor", c.queryLog.toJson),
    ("type_mapping", .string c.typeMapping.word)]

def ofJson? (document : Json) : Option Config := do
  let fields ← document.settings? keys
  let pool ← Json.setting fields "pool" standard.pool PoolSettings.ofJson?
  let queryLog ← Json.setting fields "executor" standard.queryLog QueryLog.ofJson?
  let typeMapping ← Json.setting fields "type_mapping" standard.typeMapping (Json.word? MappingMode.words)
  return ⟨pool, queryLog, typeMapping⟩

/-- The configuration that a text holds. -/
def read (text : String) : Result Config :=
  match (Json.scan? text).bind ofJson? with
  | some config => .ok config
  | none => .error .document

/-- The configuration as a text. -/
def print (c : Config) : String := c.toJson.pretty

end Config

namespace RetryPolicy

/-- The policy that a text holds. -/
def read (text : String) : Result RetryPolicy :=
  match (Json.scan? text).bind ofJson? with
  | some policy => .ok policy
  | none => .error .document

end RetryPolicy

end SqlAdapter
