/-
Attributes: what a table declares about one of its fields, independent of the
column that holds it.

An attribute that stands for a collection of rows of another table has no
column; it is called virtual.
-/
import SqlAdapter.Schema.AttributeType
import SqlAdapter.Sql.Identifier

namespace SqlAdapter

/-- The default of a column. -/
inductive DefaultValue where
  | null
  | bool (value : Bool)
  | int (value : Int64)
  | float (value : Binary64)
  | text (text : String)
  | json (value : Json)
  /-- An SQL expression, trusted and written as it is. -/
  | expression (sql : String)
  deriving DecidableEq

namespace DefaultValue

/-- The default as SQL. -/
def sql : DefaultValue → String
  | .null => "NULL"
  | .bool true => "TRUE"
  | .bool false => "FALSE"
  | .int i => integerText i.toInt
  | .float x => x.plainText
  | .text t => Identifier.literal t
  | .json j => Identifier.literal j.text
  | .expression e => e

/-- The default that a JSON value declares. -/
def ofJson : Json → DefaultValue
  | .null => .null
  | .bool b => .bool b
  | .number n =>
    match n.asInt64? with
    | some i => .int (Int64.ofInt i)
    | none => .float n.asBinary64
  | .string t => .text t
  | other => .json other

end DefaultValue

/-- A reference to a column of another table. -/
structure ForeignKey where
  table : String
  column : String
  /-- What happens when the row referred to is deleted. -/
  onDelete : String
  deriving DecidableEq

/-- A link to rows of another table. -/
inductive Association where
  /-- One row, whose key the attribute's own column holds. -/
  | model (target : String)
  /-- Any number of rows, found through an attribute of theirs. -/
  | collection (target : String) (via : Option String)
  deriving DecidableEq

def Association.target : Association → String
  | .model target => target
  | .collection target _ => target

/-- A declared field of a table. -/
structure Attribute where
  name : String
  type : AttributeType
  length : Option UInt32
  precision : Option UInt32
  scale : Option UInt32
  nullable : Bool
  unique : Bool
  index : Bool
  default : Option DefaultValue
  primaryKey : Bool
  autoIncrement : Bool
  foreignKey : Option ForeignKey
  association : Option Association
  description : Option String
  deriving DecidableEq

namespace Attribute

/-- A nullable attribute with nothing else declared. -/
def plain (name : String) (type : AttributeType) : Attribute where
  name := name
  type := type
  length := none
  precision := none
  scale := none
  nullable := true
  unique := false
  index := false
  default := none
  primaryKey := false
  autoIncrement := false
  foreignKey := none
  association := none
  description := none

/-- A virtual attribute for rows of another table. -/
def collection (name target : String) (via : Option String) : Attribute :=
  { plain name .untypedArray with association := some (.collection target via) }

/-- The attribute as a part of the primary key, which is never null. -/
def asPrimaryKey (a : Attribute) : Attribute := { a with primaryKey := true, nullable := false }

/-- The attribute with a reference that leaves deletion to the database's default. -/
def references (a : Attribute) (table column : String) : Attribute :=
  { a with foreignKey := some ⟨table, column, "NO ACTION"⟩ }

/-- Has the attribute no column of its own? -/
def isVirtual (a : Attribute) : Bool :=
  match a.association with
  | some (.collection _ _) => true
  | _ => false

end Attribute

/-- One thing that an attribute declares. -/
inductive Property where
  | type (type : AttributeType)
  | length (n : UInt32)
  | precision (n : UInt32)
  | scale (n : UInt32)
  | notNull
  | unique
  | index
  | default (value : DefaultValue)
  | primaryKey
  | autoIncrement
  | foreignKey (key : ForeignKey)
  | association (association : Association)
  | description (text : String)

namespace Property

/-- The name of the kind of thing declared. -/
def name : Property → String
  | .type _ => "Type"
  | .length _ => "Length"
  | .precision _ => "Precision"
  | .scale _ => "Scale"
  | .notNull => "NotNull"
  | .unique => "Unique"
  | .index => "Index"
  | .default _ => "Default"
  | .primaryKey => "PrimaryKey"
  | .autoIncrement => "AutoIncrement"
  | .foreignKey _ => "ForeignKey"
  | .association _ => "Association"
  | .description _ => "Description"

/-- A property that holds or does not. -/
def when (holds : Bool) (p : Property) : List Property := if holds then [p] else []

end Property

namespace Attribute

/-- Everything that an attribute declares, in a fixed order. -/
def properties (a : Attribute) : List Property :=
  .type a.type :: ((a.length.map Property.length).toList ++
    (a.precision.map Property.precision).toList ++
    (a.scale.map Property.scale).toList ++
    Property.when (!a.nullable) .notNull ++
    Property.when a.unique .unique ++
    Property.when a.index .index ++
    (a.default.map Property.default).toList ++
    Property.when a.primaryKey .primaryKey ++
    Property.when a.autoIncrement .autoIncrement ++
    (a.foreignKey.map Property.foreignKey).toList ++
    (a.association.map Property.association).toList ++
    (a.description.map Property.description).toList)

/-! ## Declarations in JSON -/

/-- A key that is present and true. -/
def flag (fields : List (String × Json)) (key : String) : Bool :=
  (Json.find? fields key).bind Json.bool? = some true

/-- The text of a key. -/
def textOf (fields : List (String × Json)) (key : String) : Option String :=
  (Json.find? fields key).bind Json.text?

/-- The number of a key, if it is a whole one that fits into 32 bits. -/
def numberOf (fields : List (String × Json)) (key : String) : Option UInt32 :=
  match Json.find? fields key with
  | some (.number n) => n.asUInt64?.bind fun n => if n < 2 ^ 32 then some (UInt32.ofNat n) else none
  | _ => none

/-- The type that an object declares: a set of values, a raw type or a tag, in this order. Without
any of them it is a text, or the integer key of a row of another table. -/
def typeOf (mode : MappingMode) (fields : List (String × Json)) : Result AttributeType :=
  match (Json.find? fields "enum").bind Json.items? with
  | some values => .ok (.enum (values.map fun v => v.text?.getD v.text))
  | none =>
    match textOf fields "sqlType" with
    | some sql => .ok (.raw sql)
    | none =>
      match textOf fields "type" with
      | some tag => AttributeType.ofTag mode tag
      | none => .ok (if (Json.find? fields "model").isSome then .integer else .string)

/-- The attribute that an object declares under a name. -/
def ofFields (mode : MappingMode) (name : String) (fields : List (String × Json)) : Result Attribute :=
  match textOf fields "collection" with
  | some target =>
    .ok { collection name target (textOf fields "via") with primaryKey := flag fields "primaryKey" }
  | none => do
    let type ← typeOf mode fields
    let a : Attribute := { plain name type with
      length := (numberOf fields "size").or (numberOf fields "length")
      precision := numberOf fields "precision"
      scale := numberOf fields "scale"
      nullable := !(flag fields "required" || flag fields "notNull")
      unique := flag fields "unique"
      index := flag fields "index"
      autoIncrement := flag fields "autoIncrement"
      default := (Json.find? fields "defaultsTo").map DefaultValue.ofJson
      association := (textOf fields "model").map Association.model
      description := textOf fields "description" }
    return if flag fields "primaryKey" then a.asPrimaryKey else a

/-- The attribute that a definition declares under a name: a tag alone, or an object. -/
def ofJson (mode : MappingMode) (name : String) (definition : Json) : Result Attribute :=
  match definition with
  | .string tag => (AttributeType.ofTag mode tag).map (plain name)
  | .object fields => ofFields mode name fields
  | other => .error (.attributeShape name other)

end Attribute

end SqlAdapter
