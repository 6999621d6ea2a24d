/-
Tables and the schema that holds them.

Table names are cut to the length that the database keeps when a table is made
and whenever one is looked up, so names that the database cannot tell apart are
one name here too.
-/
import SqlAdapter.Schema.Attribute

namespace SqlAdapter

/-- The primary key of tables that declare none. -/
def defaultPrimaryKey : String := "id"

/-- A table: its name and its attributes in the order of declaration. -/
structure Table where
  name : String
  attributes : List Attribute

namespace Table

def make (name : String) (attributes : List Attribute) : Table := ⟨Identifier.truncate name, attributes⟩

/-- The table that an object of attribute definitions declares. -/
def ofJson (mode : MappingMode) (name : String) (definition : Json) : Result Table :=
  match definition with
  | .object fields => do
    return make name (← fields.mapM fun (key, value) => Attribute.ofJson mode key value)
  | _ => .error (.tableShape name)

/-- The attribute of a name: the first declared. -/
def find? (t : Table) (name : String) : Option Attribute := t.attributes.find? (·.name == name)

def has (t : Table) (name : String) : Bool := (t.find? name).isSome

/-- The attributes that have columns. -/
def columns (t : Table) : List Attribute := t.attributes.filter (!·.isVirtual)

/-- The names of the attributes declared primary key. -/
def primaryKeyColumns (t : Table) : List String := (t.attributes.filter (·.primaryKey)).map (·.name)

/-- The primary key: the first attribute declared one, or the default. -/
def primaryKey (t : Table) : String :=
  ((t.attributes.find? (·.primaryKey)).map (·.name)).getD defaultPrimaryKey

/-- The table with an attribute at the end. -/
def push (t : Table) (a : Attribute) : Table := make t.name (t.attributes ++ [a])

/-- The table without the attributes of a name. -/
def without (t : Table) (name : String) : Table := make t.name (t.attributes.filter (·.name != name))

end Table

/-- The tables of a database, no two of one name. -/
structure Schema where
  tables : List Table

namespace Schema

def empty : Schema := ⟨[]⟩

/-- Adds a table or replaces the one of its name. -/
def insert (s : Schema) (t : Table) : Schema :=
  if s.tables.any (·.name == t.name) then ⟨s.tables.map fun u => if u.name == t.name then t else u⟩
  else ⟨s.tables ++ [t]⟩

/-- Removes the table of a name. -/
def erase (s : Schema) (name : String) : Schema :=
  ⟨s.tables.filter (·.name != Identifier.truncate name)⟩

/-- The table of a name. -/
def get? (s : Schema) (name : String) : Option Table :=
  s.tables.find? (·.name == Identifier.truncate name)

/-- The table of a name, or an error. -/
def get (s : Schema) (name : String) : Result Table :=
  match s.get? name with
  | some t => .ok t
  | none => .error (.unknownTable name)

def contains (s : Schema) (name : String) : Bool := (s.get? name).isSome

def ofTables (tables : List Table) : Schema := tables.foldl insert empty

/-- Accepts an attribute: it is no virtual primary key, and its association leads to a known table
and through an attribute of that table. -/
def checkAttribute (s : Schema) (t : Table) (a : Attribute) : Result Unit :=
  if a.primaryKey && a.isVirtual then .error (.collectionKey a.name t.name)
  else match a.association with
    | none => .ok ()
    | some association =>
      match s.get? association.target with
      | none => .error (.associationTarget t.name a.name association.target)
      | some target =>
        match association with
        | .collection targetName (some via) =>
          if target.has via then .ok () else .error (.associationVia t.name a.name targetName via)
        | _ => .ok ()

/-- Accepts a schema all of whose attributes are accepted. -/
def validate (s : Schema) : Result Unit :=
  s.tables.forM fun t => t.attributes.forM fun a => s.checkAttribute t a

end Schema

end SqlAdapter
