/-
Planning joined selects.

Every join gets a lateral subquery of its own, with one exception: a hidden join
into a junction table is folded into the subquery of the join that goes on from
there under the same name, so that the association is paged once for each
parent and not once for each junction row.
-/
import SqlAdapter.Statement.Basic

namespace SqlAdapter

namespace Join

variable {α : Type}

/-- The error of a join of a table with itself. -/
def selfJoin (j : Join α) : Failure := .selfJoin j.name j.child

end Join

namespace Compiler

/-- Accepts the key of a join on one of its tables. -/
def checkKey (c : Compiler) (join table key : String) : Result Unit :=
  match c.schema.get? table with
  | some t => if t.has key then .ok () else .error (.joinKey join table key)
  | none => .ok ()

/-- Accepts a join: its names are names, its tables have its keys, and it has no joins of its own. -/
def checkJoin (c : Compiler) (j : Join Criteria) : Result Unit := do
  [j.parent, j.parentKey, j.child, j.childKey, j.name].forM Identifier.check
  c.checkKey j.name j.parent j.parentKey
  c.checkKey j.name j.child j.childKey
  if j.nested.joins.isEmpty then return else .error (.nestedJoins j.name)

/-- For a junction join, the join into its junction table and where that stands. -/
def linkOf (joins : List (Join Criteria)) (j : Join Criteria) : Result (Option (Join Criteria × Nat)) :=
  if !j.junction then .ok none
  else
    let junction := Identifier.truncate j.parent
    match joins.zipIdx.find? fun (link, _) =>
        !link.junction && link.name == j.name && Identifier.truncate link.child == junction with
    | some link => .ok (some link)
    | none => .error (.missingLink j.name junction)

/-- A join with the join that links to its junction table, if it has one. -/
structure LinkedJoin where
  join : Join Criteria
  link : Option (Join Criteria × Nat)

/-- The joins with their links. -/
def linked (joins : List (Join Criteria)) : Result (List LinkedJoin) :=
  joins.mapM fun j => do return ⟨j, ← linkOf joins j⟩

/-- Is the join at an index hidden and used as a link? -/
def isFolded (joins : List LinkedJoin) (index : Nat) (j : Join Criteria) : Bool :=
  !j.select && joins.any fun other => other.link.any (·.2 == index)

/-- The joins that have laterals of their own. -/
def laterals (joins : List LinkedJoin) : List (LinkedJoin × Nat) :=
  joins.zipIdx.filter fun (j, index) => !isFolded joins index j.join

/-- The name of the lateral of a join. -/
def lateralName (j : Join Criteria) : String := Identifier.truncate (j.name ++ j.child)

/-- The lateral of a join, its parent the root or a lateral before it. -/
def directLateral (c : Compiler) (j : Join Criteria) : Result Lateral := do
  let child := Identifier.truncate j.child
  let parent := Identifier.truncate j.parent
  if child = parent then .error j.selfJoin
  else
    let filter ← c.filter child j.nested.predicate
    let order ← c.order child child j.nested.sort
    let page ← Page.make j.nested.limit j.nested.skip
    return {
      name := lateralName j
      child := child
      junction := none
      filters := filter.toList
      inner := ⟨child, j.childKey⟩
      outer := ⟨parent, j.parentKey⟩
      order := order
      page := page }

/-- The lateral of a junction join together with the join that links to it. -/
def junctionLateral (c : Compiler) (link j : Join Criteria) : Result Lateral := do
  let child := Identifier.truncate j.child
  let junction := Identifier.truncate j.parent
  let parent := Identifier.truncate link.parent
  if child = parent ∨ junction = parent ∨ child = junction then .error j.selfJoin
  else
    let filter ← c.filter child j.nested.predicate
    let linkFilter ← c.filter junction link.nested.predicate
    let order ← c.order child child j.nested.sort
    let page ← Page.make j.nested.limit j.nested.skip
    return {
      name := lateralName j
      child := child
      junction := some ⟨junction, ⟨child, j.childKey⟩, ⟨junction, j.parentKey⟩⟩
      filters := filter.toList ++ linkFilter.toList
      inner := ⟨junction, link.childKey⟩
      outer := ⟨parent, link.parentKey⟩
      order := order
      page := page }

/-- The column of an association: its rows in the order of the join, else by the child's key. -/
def association (c : Compiler) (j : Join Criteria) (laterals : Nat) : Result AssociationColumn := do
  let child := Identifier.truncate j.child
  let lateral := lateralName j
  let order ← c.order child lateral j.nested.sort
  return {
    lateral := lateral
    order := if order.isEmpty then [⟨⟨lateral, c.keyOf child⟩, .ascending⟩] else order
    window := Window.forJoin j.nested.limit laterals
    name := Identifier.truncate j.name }

/-- The lateral and the column of one join, neither for a folded one. -/
def joinParts (c : Compiler) (joins : List LinkedJoin) (j : LinkedJoin) (index : Nat) :
    Result (List Lateral × List AssociationColumn) := do
  c.checkJoin j.join
  if isFolded joins index j.join then return ([], [])
  else
    let lateral ← match j.link with
      | some (link, _) => c.junctionLateral link j.join
      | none => c.directLateral j.join
    if j.join.select then return ([lateral], [← c.association j.join (laterals joins).length])
    else return ([lateral], [])

/-- The columns of the root: all, or those that are left without the keys that joins remove. -/
def rootColumns (c : Compiler) (root : String) (joins : List (Join Criteria)) : Result RootColumns :=
  let removed := (joins.filter fun j =>
    j.removeParentKey && j.select && Identifier.truncate j.parent == root).map (·.parentKey)
  if removed.isEmpty then .ok .all
  else match c.schema.get? root with
    | none => .error (.parentKeyTable root)
    | some table =>
      let left := (table.columns.map (·.name)).filter (!removed.contains ·)
      if left.isEmpty then .error (.noColumnsLeft root) else .ok (.some left)

/-- The select of rows of a table with their associations. -/
def joinedSelect (c : Compiler) (table : String) (criteria : Criteria) : Result JoinedSelect := do
  Identifier.check table
  let root := Identifier.truncate table
  let joins ← linked criteria.joins
  let columns ← c.rootColumns root criteria.joins
  let parts ← joins.zipIdx.mapM fun (j, index) => c.joinParts joins j index
  let filter ← c.filter root criteria.predicate
  let order ← c.order root root criteria.sort
  let page ← Page.make criteria.limit criteria.skip
  return {
    root := root
    columns := columns
    laterals := parts.flatMap (·.1)
    associations := parts.flatMap (·.2)
    filter := filter
    key := ⟨root, c.keyOf root⟩
    order := order
    page := page }

end Compiler

end SqlAdapter
