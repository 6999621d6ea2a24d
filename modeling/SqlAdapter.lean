import SqlAdapter.Connection.Session
import SqlAdapter.Connection.Uri
import SqlAdapter.Criteria.Reader
import SqlAdapter.Datastore.Registry
import SqlAdapter.Proofs.Condition.Membership
import SqlAdapter.Proofs.Connection.Backoff
import SqlAdapter.Proofs.Connection.NativeArrays
import SqlAdapter.Proofs.Connection.Turns
import SqlAdapter.Proofs.Criteria.Filters
import SqlAdapter.Proofs.Criteria.Patterns
import SqlAdapter.Proofs.Criteria.SortForms
import SqlAdapter.Proofs.Datastore.Atomicity
import SqlAdapter.Proofs.Datastore.CompileTime
import SqlAdapter.Proofs.Datastore.Interleaving
import SqlAdapter.Proofs.Record.FanOut
import SqlAdapter.Proofs.Record.LongNames
import SqlAdapter.Proofs.Schema.Creation
import SqlAdapter.Proofs.Schema.Edits
import SqlAdapter.Proofs.Schema.IndexNames
import SqlAdapter.Proofs.Schema.Nesting
import SqlAdapter.Proofs.Sql.Numbers
import SqlAdapter.Proofs.Sql.Quoting
import SqlAdapter.Proofs.Statement.Addresses
import SqlAdapter.Proofs.Statement.Chosen
import SqlAdapter.Proofs.Statement.Output
import SqlAdapter.Proofs.Statement.Paths
import SqlAdapter.Proofs.Statement.Planning
import SqlAdapter.Proofs.Statement.Slices
import SqlAdapter.Proofs.Statement.Written
import SqlAdapter.Proofs.Value.ArrayTypes
import SqlAdapter.Proofs.Value.ByteText
import SqlAdapter.Proofs.Value.Doubled
import SqlAdapter.Proofs.Value.Identity
import SqlAdapter.Proofs.Value.Settled
