/-
Everything that can go wrong, as causes. `Failure.kind` sorts the causes
into the kinds that callers act on, `Failure.detail` words them, and
`Failure.message` is the wording behind the heading of the kind.

Causes that the database or its driver reports arrive as `reported`, already
sorted by `SqlState.kind?` or `DriverFault.error`.
-/
import SqlAdapter.Json.Printer

namespace SqlAdapter

/-- What callers can tell errors apart by. -/
inductive ErrorKind where
  /-- A schema that does not hold together. -/
  | schema
  /-- A request that cannot be turned into a statement. -/
  | compilation
  /-- A datastore name that is taken or unknown. -/
  | registry
  | database
  | serialization
  | deserialization
  | connection
  | validation
  | internal
  /-- A unique or exclusion constraint was violated. -/
  | conflict
  | foreignKey
  | deadlock
  | timeout
  /-- A rollback or a shutdown that a retry may outlive. -/
  | transient
  deriving DecidableEq

namespace ErrorKind

/-- The kinds and their names. -/
def names : List (String × ErrorKind) :=
  [("Schema", .schema), ("Compilation", .compilation), ("Registry", .registry), ("Database", .database),
    ("Serialization", .serialization), ("Deserialization", .deserialization), ("Connection", .connection),
    ("Validation", .validation), ("Internal", .internal), ("Conflict", .conflict),
    ("ForeignKey", .foreignKey), ("Deadlock", .deadlock), ("Timeout", .timeout), ("Transient", .transient)]

/-- The name of a kind. -/
def name (kind : ErrorKind) : String := ((names.find? (·.2 == kind)).map (·.1)).getD ""

/-- What a message of this kind begins with. -/
def heading : ErrorKind → String
  | .schema => "Schema error: "
  | .compilation => "Compilation error: "
  | .registry => "Registry error: "
  | .database => "Database error: "
  | .serialization => "Serialization error: "
  | .deserialization => "Deserialization error: "
  | .connection => "Connection error: "
  | .validation => "Validation error: "
  | .internal => "Internal error: "
  | .conflict => "Conflict: "
  | .foreignKey => "Foreign key constraint violation: "
  | .deadlock => "Deadlock detected: "
  | .timeout => "Timeout: "
  | .transient => "Transient error: "

/-- May the caller reasonably try again? -/
def isRetryable : ErrorKind → Bool
  | .deadlock | .timeout | .transient => true
  | _ => false

def isConstraintViolation : ErrorKind → Bool
  | .conflict | .foreignKey => true
  | _ => false

/-- Does the kind say that nothing was sent to the database? -/
def isCompileTime : ErrorKind → Bool
  | .schema | .compilation => true
  | _ => false

end ErrorKind

/-- A cause of failure. -/
inductive Failure where
  -- Identifiers
  | emptyIdentifier
  | qualifiedFormat (name : String)
  | emptyIdentifierPart
  | vanishedIdentifier (name : String)
  | identifierStart (name : String)
  | identifierCharacter (name : String) (c : Char)
  | systemCatalog (name : String)
  | informationSchema
  -- Placeholders
  | placeholderValues (placeholders values : Nat)
  | highestPlaceholder (highest parameters : Nat)
  | unusedPlaceholder (index : Nat)
  | fragmentValues (placeholders values : Nat)
  -- Conditions, orders, pages, written values
  | unknownAttribute (attr table : String)
  | unknownSortAttribute (table attr : String)
  | negativePage (limit skip : Int)
  | nothingToUpdate
  | collectionWritten (table attr : String)
  -- Joins
  | parentKeyTable (root : String)
  | noColumnsLeft (root : String)
  | joinKey (join table key : String)
  | nestedJoins (join : String)
  | missingLink (join junction : String)
  | selfJoin (join child : String)
  -- Criteria documents
  | criteriaShape (found : Json)
  | whereShape (found : Json)
  | joinShape (found : Json)
  | joinKeyMissing (key : String)
  | joinsShape
  | countShape (key : String) (found : Json)
  | branchesShape (key : String)
  | branchShape (key : String)
  | patternOperand (modifier field : String)
  | unknownModifier (modifier field : String)
  | sortWord (word field : String)
  | sortDirection (found : Json) (field : String)
  | sortShape (found : Json)
  -- Schemas
  | unknownTypeTag (tag : String)
  | attributeShape (name : String) (found : Json)
  | tableShape (name : String)
  | unmappedType (tag attr : String)
  | unmappedElement (tag attr : String)
  | rawType (raw attr : String)
  | keyWithoutColumn (attr table : String)
  | noColumns (table : String)
  | collectionColumn (attr : String)
  | unknownTable (name : String)
  | collectionKey (attr table : String)
  | associationTarget (table attr target : String)
  | associationVia (table attr target via : String)
  | attributeExists (attr table : String)
  | attributeMissing (attr table : String)
  | keyRemoval (attr table : String)
  -- Registries
  | datastoreTaken (name : String)
  | datastoreUnknown (name : String)
  -- Results
  | noRowInserted (table : String)
  | transactionOver
  | associationShape (found : Json)
  | associationType (typeName : String)
  | elementShape (found : Json)
  | countAnswer (found : String)
  | extraction (label column : String)
  -- Documents and connections
  | document
  | emptyUri
  | badUri (reason : String)
  | unverified (reason : String)
  -- What the database, its driver or an executor reports
  | reported (kind : ErrorKind) (text : String)
  deriving DecidableEq

namespace Failure

def kind : Failure → ErrorKind
  | .unknownTypeTag _ | .attributeShape _ _ | .tableShape _ | .unmappedType _ _ | .unmappedElement _ _
  | .rawType _ _ | .keyWithoutColumn _ _ | .noColumns _ | .collectionColumn _ | .unknownTable _
  | .collectionKey _ _ | .associationTarget _ _ _ | .associationVia _ _ _ _ | .attributeExists _ _
  | .attributeMissing _ _ | .keyRemoval _ _ => .schema
  | .datastoreTaken _ | .datastoreUnknown _ => .registry
  | .noRowInserted _ | .transactionOver => .database
  | .associationShape _ | .associationType _ | .elementShape _ | .countAnswer _ | .extraction _ _ =>
    .deserialization
  | .document => .serialization
  | .emptyUri | .badUri _ | .unverified _ => .connection
  | .reported kind _ => kind
  | _ => .compilation

/-- What went wrong, in words. -/
def detail : Failure → String
  | .emptyIdentifier => "Identifier cannot be empty"
  | .qualifiedFormat name =>
    "Invalid schema-qualified identifier '" ++ name ++ "': must be in format 'schema.table'"
  | .emptyIdentifierPart => "Identifier part cannot be empty"
  | .vanishedIdentifier name => "Identifier '" ++ name ++ "' is empty or invalid"
  | .identifierStart name => "Identifier '" ++ name ++ "' must start with a letter or underscore"
  | .identifierCharacter name c =>
    "Identifier '" ++ name ++ "' contains invalid character '" ++ String.singleton c ++ "'"
  | .systemCatalog name => "Access to PostgreSQL system catalog '" ++ name ++ "' is not allowed"
  | .informationSchema => "Access to information_schema is not allowed"
  | .placeholderValues placeholders values =>
    naturalText placeholders ++ " placeholders, " ++ naturalText values ++ " values"
  | .highestPlaceholder highest parameters =>
    "highest placeholder $" ++ naturalText highest ++ " but " ++ naturalText parameters ++ " parameters"
  | .unusedPlaceholder index => "placeholder $" ++ naturalText index ++ " is never referenced"
  | .fragmentValues placeholders values =>
    "WHERE fragment has " ++ naturalText placeholders ++ " placeholders but " ++ naturalText values ++
      " values"
  | .unknownAttribute attr table => "Unknown attribute '" ++ attr ++ "' on table '" ++ table ++ "'"
  | .unknownSortAttribute table attr =>
    "Cannot sort '" ++ table ++ "' by unknown attribute '" ++ attr ++ "'"
  | .negativePage limit skip =>
    "limit and skip must be non-negative (limit " ++ integerText limit ++ ", skip " ++ integerText skip ++ ")"
  | .nothingToUpdate => "Cannot update with no values"
  | .collectionWritten table attr =>
    "Attribute '" ++ table ++ "." ++ attr ++ "' is a collection association and cannot be written"
  | .parentKeyTable root =>
    "Cannot remove parent key from '" ++ root ++ "': table is not in the schema"
  | .noColumnsLeft root => "No columns left on '" ++ root ++ "' after removing parent keys"
  | .joinKey join table key =>
    "Join \'" ++ join ++ "' uses unknown key '" ++ table ++ "." ++ key ++ "'"
  | .nestedJoins join =>
    "Join \'" ++ join ++ "' has nested joins; chain them through parent aliases instead"
  | .missingLink join junction =>
    "Junction join \'" ++ join ++ "' has no join into '" ++ junction ++ "' under the same alias"
  | .selfJoin join child =>
    "Join \'" ++ join ++ "' correlates '" ++ child ++ "' with itself; self-associations are not supported"
  | .criteriaShape found => "criteria must be an object, got " ++ found.text
  | .whereShape found => "'where' must be an object, got " ++ found.text
  | .joinShape found => "join must be an object, got " ++ found.text
  | .joinKeyMissing key => "join is missing '" ++ key ++ "'"
  | .joinsShape => "'joins' must be an array"
  | .countShape key found => "'" ++ key ++ "' must be a non-negative integer, got " ++ found.text
  | .branchesShape key => "'" ++ key ++ "' must be an array"
  | .branchShape key => "'" ++ key ++ "' branches must be objects"
  | .patternOperand modifier field => "'" ++ modifier ++ "' on '" ++ field ++ "' needs a string"
  | .unknownModifier modifier field => "Unknown modifier '" ++ modifier ++ "' on '" ++ field ++ "'"
  | .sortWord word field => "Unknown sort direction '" ++ word ++ "' for '" ++ field ++ "'"
  | .sortDirection found field => "Unknown sort direction " ++ found.text ++ " for '" ++ field ++ "'"
  | .sortShape found => "Invalid sort " ++ found.text
  | .unknownTypeTag tag => "Unknown attribute type '" ++ tag ++ "'"
  | .attributeShape name found =>
    "Attribute '" ++ name ++ "' definition must be a string or object, got " ++ found.text
  | .tableShape name => "Table '" ++ name ++ "' definition must be an object"
  | .unmappedType tag attr => "Unknown type '" ++ tag ++ "' for attribute '" ++ attr ++ "'"
  | .unmappedElement tag attr =>
    "Unknown array element type '" ++ tag ++ "' for attribute '" ++ attr ++ "'"
  | .rawType raw attr => "Invalid raw column type '" ++ raw ++ "' for attribute '" ++ attr ++ "'"
  | .keyWithoutColumn attr table =>
    "Primary key '" ++ attr ++ "' on table '" ++ table ++ "' has no column"
  | .noColumns table => "Table '" ++ table ++ "' has no columns"
  | .collectionColumn attr =>
    "Attribute '" ++ attr ++ "' is a collection association and has no column"
  | .unknownTable name => "Unknown table '" ++ name ++ "'"
  | .collectionKey attr table =>
    "Primary key '" ++ attr ++ "' on table '" ++ table ++ "' is a collection association"
  | .associationTarget table attr target =>
    "Association '" ++ table ++ "." ++ attr ++ "' targets unknown table '" ++ target ++ "'"
  | .associationVia table attr target via =>
    "Association '" ++ table ++ "." ++ attr ++ "' goes via unknown attribute '" ++ target ++ "." ++
      via ++ "'"
  | .attributeExists attr table =>
    "Attribute '" ++ attr ++ "' already exists on table '" ++ table ++ "'"
  | .attributeMissing attr table => "Unknown attribute '" ++ attr ++ "' on table '" ++ table ++ "'"
  | .keyRemoval attr table =>
    "Cannot remove primary key '" ++ attr ++ "' from table '" ++ table ++ "'"
  | .datastoreTaken name => "Datastore '" ++ name ++ "' is already registered"
  | .datastoreUnknown name => "Unknown datastore '" ++ name ++ "'"
  | .noRowInserted table => "INSERT into '" ++ table ++ "' returned no row"
  | .transactionOver => "Transaction already committed or rolled back"
  | .associationShape found => "association column is not an array: " ++ found.text
  | .associationType typeName => "association column has unexpected type " ++ typeName
  | .elementShape found => "association element is not an object: " ++ found.text
  | .countAnswer found => "COUNT returned " ++ found
  | .extraction label column => "Failed to extract " ++ label ++ " from column '" ++ column ++ "'"
  | .document => "malformed document"
  | .emptyUri => "Connection URI cannot be empty"
  | .badUri reason => "Invalid connection URI: " ++ reason
  | .unverified reason => "Failed to verify connection: " ++ reason
  | .reported _ text => text

/-- The heading of the kind and the words of the cause. -/
def message (e : Failure) : String := e.kind.heading ++ e.detail

end Failure

/-- A computation that may fail with a cause. -/
abbrev Result (α : Type) := Except Failure α

/-! ## What the driver reports -/

namespace SqlState

/-- The kind that a five-character state of a database error stands for, if it has one of its own. -/
def kind? (code : String) : Option ErrorKind :=
  if code = "23505" ∨ code = "23P01" then some .conflict
  else if code = "23503" then some .foreignKey
  else if code = "23502" ∨ code = "23514" then some .validation
  else if code = "40P01" then some .deadlock
  else if code = "57P01" ∨ code = "57P02" ∨ code = "57P03" then some .transient
  else if code.toList.take 2 = ['4', '0'] then some .transient
  else if code.toList.take 2 = ['0', '8'] then some .connection
  else none

end SqlState

/-- A failure that the database driver reports. -/
inductive DriverFault where
  /-- The server answered with an error, in general with a state. -/
  | database (state : Option String) (text : String)
  | configuration (text : String)
  | io (text : String)
  | tls (text : String)
  | protocol (text : String)
  | typeNotFound (name : String)
  | columnIndex (index columns : Nat)
  | columnNotFound (name : String)
  | columnDecode (index : Nat) (text : String)
  | encode (text : String)
  | decode (text : String)
  | rowNotFound
  | poolTimedOut
  | poolClosed
  | workerCrashed

namespace DriverFault

/-- The driver's own words. -/
def text : DriverFault → String
  | .database _ text => "error returned from database: " ++ text
  | .configuration text => "error with configuration: " ++ text
  | .io text => "error communicating with database: " ++ text
  | .tls text => "error occurred while attempting to establish a TLS connection: " ++ text
  | .protocol text => "encountered unexpected or invalid data: " ++ text
  | .typeNotFound name => "type named " ++ name ++ " not found"
  | .columnIndex index columns =>
    "column index out of bounds: the len is " ++ naturalText columns ++ ", but the index is " ++
      naturalText index
  | .columnNotFound name => "no column found for name: " ++ name
  | .columnDecode index text =>
    "error occurred while decoding column " ++ naturalText index ++ ": " ++ text
  | .encode text => "error occurred while encoding a value: " ++ text
  | .decode text => "error occurred while decoding: " ++ text
  | .rowNotFound => "Row not found"
  | .poolTimedOut => "Connection pool timed out"
  | .poolClosed => "Connection pool closed"
  | .workerCrashed => "Worker thread crashed"

/-- The kind of a failure. -/
def kind : DriverFault → ErrorKind
  | .database state _ => (state.bind SqlState.kind?).getD .database
  | .configuration _ | .io _ | .tls _ | .protocol _ | .poolClosed => .connection
  | .typeNotFound _ | .columnDecode _ _ | .decode _ => .deserialization
  | .poolTimedOut => .timeout
  | .workerCrashed => .internal
  | .rowNotFound | .columnIndex _ _ | .columnNotFound _ | .encode _ => .database

def error (f : DriverFault) : Failure := .reported f.kind f.text

end DriverFault

end SqlAdapter
