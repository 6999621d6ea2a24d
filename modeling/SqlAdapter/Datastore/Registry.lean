/-
Registries: datastores by name, each name taken at most once.
-/
import SqlAdapter.Datastore.Basic

namespace SqlAdapter

structure Registry where
  datastores : List Datastore

namespace Registry

def empty : Registry := ⟨[]⟩

def find? (r : Registry) (name : String) : Option Datastore := r.datastores.find? (·.name == name)

def contains (r : Registry) (name : String) : Bool := (r.find? name).isSome

/-- Adds a datastore under its name. -/
def register (r : Registry) (d : Datastore) : Result Registry :=
  if r.contains d.name then .error (.datastoreTaken d.name) else .ok ⟨r.datastores ++ [d]⟩

/-- The datastore of a name. -/
def get (r : Registry) (name : String) : Result Datastore :=
  match r.find? name with
  | some d => .ok d
  | none => .error (.datastoreUnknown name)

/-- Takes out the datastore of a name. -/
def remove (r : Registry) (name : String) : Result (Datastore × Registry) := do
  let d ← r.get name
  return (d, ⟨r.datastores.filter (·.name != name)⟩)

/-- Replaces the datastore of the same name, if there is one. -/
def replace (r : Registry) (d : Datastore) : Registry :=
  ⟨r.datastores.map fun other => if other.name == d.name then d else other⟩

def names (r : Registry) : List String := r.datastores.map (·.name)

end Registry

end SqlAdapter
