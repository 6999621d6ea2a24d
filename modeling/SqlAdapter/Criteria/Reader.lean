/-
Criteria as JSON documents.

An object may hold its filter under `where`, or spread over all keys that are
not reserved for sort, page and joins. In a filter a field maps to a value that
it equals, to an array that it is among, or to an object of modifiers; `and` and
`or` map to arrays of filters. All keys of an object must hold.

The readers recurse on the document, `Criteria.ofJson` through the lists of its
fields, so that they end at every depth.
-/
import SqlAdapter.Criteria.Basic
import SqlAdapter.Error
import SqlAdapter.Text.Blank
import SqlAdapter.Text.Lowercase

namespace SqlAdapter

namespace Predicate

/-- A text to search for, with what may stand before and after it. -/
def pattern (modifier field : String) (before after : String) (operand : Json) : Result Predicate :=
  match operand with
  | .string text => .ok (.compare field (.compare .ilike) (.string (before ++ text ++ after)))
  | _ => .error (.patternOperand modifier field)

/-- The negation of equality: with null and arrays it is about absence and membership. -/
def differs (field : String) (operand : Json) : Predicate :=
  match operand with
  | .null => .compare field .isNotNull .null
  | .array items => .compare field .notAmong (Value.ofJson (.array items))
  | other => .compare field (.compare .ne) (Value.ofJson other)

/-- One modifier of a field with its operand. -/
def ofModifier (field modifier : String) (operand : Json) : Result Predicate :=
  let compared (op : Operator) : Result Predicate := .ok (.compare field op (Value.ofJson operand))
  match modifier with
  | "<" | "lessThan" => compared (.compare .lt)
  | "<=" | "lessThanOrEqual" => compared (.compare .lte)
  | ">" | "greaterThan" => compared (.compare .gt)
  | ">=" | "greaterThanOrEqual" => compared (.compare .gte)
  | "!" | "not" | "!=" => .ok (differs field operand)
  | "like" => compared (.compare .like)
  | "contains" => pattern modifier field "%" "%" operand
  | "startsWith" => pattern modifier field "" "%" operand
  | "endsWith" => pattern modifier field "%" "" operand
  | "in" => compared .among
  | "nin" => compared .notAmong
  | _ => .error (.unknownModifier modifier field)

/-- One predicate for several that all must hold; a single one stands for itself. -/
def allOf : List Predicate → Predicate
  | [p] => p
  | ps => .all ps

/-- What a field must satisfy. -/
def ofField (field : String) : Json → Result Predicate
  | .array items => .ok (.compare field .among (Value.ofJson (.array items)))
  | .object modifiers => do
    return allOf (← modifiers.mapM fun (modifier, operand) => ofModifier field modifier operand)
  | scalar => .ok (eq field (Value.ofJson scalar))

mutual

/-- What each field of a filter asks for, in order. -/
def ofFields : List (String × Json) → Result (List Predicate)
  | [] => .ok []
  | (key, value) :: fields => do
    let first ← ofEntry key value
    let rest ← ofFields fields
    return first :: rest

/-- What one field of a filter asks for. -/
def ofEntry (key : String) : Json → Result Predicate
  | .array branches =>
    if key = "or" then (ofBranches key branches).map .any
    else if key = "and" then (ofBranches key branches).map .all
    else ofField key (.array branches)
  | value => if key = "or" ∨ key = "and" then .error (.branchesShape key) else ofField key value

/-- The filters of a list of branches; an empty one holds for every row. -/
def ofBranches (key : String) : List Json → Result (List Predicate)
  | [] => .ok []
  | .object fields :: branches => do
    let parts ← ofFields fields
    let rest ← ofBranches key branches
    return allOf parts :: rest
  | _ :: _ => .error (.branchShape key)

end

/-- The filter that the fields of an object make, none for no fields. -/
def ofFilter? (fields : List (String × Json)) : Result (Option Predicate) := do
  match ← ofFields fields with
  | [] => return none
  | parts => return some (allOf parts)

end Predicate

/-! ## Orders -/

namespace SortKey

/-- A direction as JSON: one or minus one, or a word in any ASCII letter case. -/
def directionOf (field : String) (found : Json) : Result SortDirection :=
  match found with
  | .number n =>
    if n.asInt64? = some 1 then .ok .ascending
    else if n.asInt64? = some (-1) then .ok .descending
    else .error (.sortDirection found field)
  | .string word =>
    if sameIgnoringCase word "asc" then .ok .ascending
    else if sameIgnoringCase word "desc" then .ok .descending
    else .error (.sortDirection found field)
  | _ => .error (.sortDirection found field)

/-- A key from the words of an item: the field, and a direction that may be missing. -/
def ofWords : List (List Char) → Result SortKey
  | field :: word :: _ =>
    let field := String.ofList field
    let word := Text.lowercase (String.ofList word)
    if word = "asc" then .ok ⟨field, .ascending⟩
    else if word = "desc" then .ok ⟨field, .descending⟩
    else .error (.sortWord word field)
  | [field] => .ok ⟨String.ofList field, .ascending⟩
  | [] => .ok ⟨"", .ascending⟩

/-- The keys of a text, separated by commas; blank items are none. -/
def ofText (text : String) : Result (List SortKey) :=
  ((Text.splitAt ',' text.toList).map Text.words |>.filter (· ≠ [])).mapM ofWords

mutual

/-- An order: an object of fields, a text, or an array of orders. -/
def ofJson : Json → Result (List SortKey)
  | .null => .ok []
  | .object fields => fields.mapM fun (field, found) => do return ⟨field, ← directionOf field found⟩
  | .string text => ofText text
  | .array items => ofItems items
  | other => .error (.sortShape other)

def ofItems : List Json → Result (List SortKey)
  | [] => .ok []
  | item :: items => do
    let keys ← ofJson item
    let rest ← ofItems items
    return keys ++ rest

end

end SortKey

/-! ## Criteria -/

namespace Criteria

/-- The keys of a document that do not filter. -/
def reserved : List String := ["sort", "limit", "skip", "groupBy", "select", "joins", "where"]

/-- The filter of a document: what stands under `where`, or else all keys that are not reserved. -/
def predicateOf (fields : List (String × Json)) : Result (Option Predicate) :=
  match Json.find? fields "where" with
  | some (.object filter) => Predicate.ofFilter? filter
  | some .null => .ok none
  | some other => .error (.whereShape other)
  | none => Predicate.ofFilter? (fields.filter fun (key, _) => !reserved.contains key)

/-- The order of a document. -/
def sortOf (fields : List (String × Json)) : Result (List SortKey) :=
  match Json.find? fields "sort" with
  | some sort => SortKey.ofJson sort
  | none => .ok []

/-- A count of a document: a whole number that is not negative. -/
def countOf (fields : List (String × Json)) (key : String) : Result (Option Int64) :=
  match Json.find? fields key with
  | none | some .null => .ok none
  | some (.number n) =>
    match n.asInt64? with
    | some i => if 0 ≤ i then .ok (some (Int64.ofInt i)) else .error (.countShape key (.number n))
    | none => .error (.countShape key (.number n))
  | some other => .error (.countShape key other)

/-- A text that a join must have. -/
def joinText (fields : List (String × Json)) (key : String) : Result String :=
  match (Json.find? fields key).bind Json.text? with
  | some text => .ok text
  | none => .error (.joinKeyMissing key)

/-- A join from its fields, all but its criteria. -/
def joinOf (fields : List (String × Json)) : Result (Join Criteria) := do
  let flag (key : String) : Bool := (Json.find? fields key).bind Json.bool? = some true
  let child ← joinText fields "child"
  let parent ← joinText fields "parent"
  let parentKey ← joinText fields "parentKey"
  let childKey ← joinText fields "childKey"
  let name := ((Json.find? fields "alias").bind Json.text?).getD child
  return { Join.plain parent parentKey child childKey name with
    junction := flag "junctionTable"
    select := (Json.find? fields "select").bind Json.bool? ≠ some false
    removeParentKey := flag "removeParentKey" }

mutual

/-- Criteria from a document; null asks for everything. -/
def ofJson : Json → Result Criteria
  | .null => .ok empty
  | .object fields => do
    let predicate ← predicateOf fields
    let sort ← sortOf fields
    let limit ← countOf fields "limit"
    let skip ← countOf fields "skip"
    let joins ← joinsAmong fields
    return ⟨predicate, sort, limit, skip, joins⟩
  | other => .error (.criteriaShape other)

/-- The joins under the key for them, if it is among the fields. -/
def joinsAmong : List (String × Json) → Result (List (Join Criteria))
  | [] => .ok []
  | (key, value) :: fields => if key = "joins" then joinsOf value else joinsAmong fields

def joinsOf : Json → Result (List (Join Criteria))
  | .array items => joinItems items
  | _ => .error .joinsShape

def joinItems : List Json → Result (List (Join Criteria))
  | [] => .ok []
  | .object fields :: items => do
    let join ← joinOf fields
    let criteria ← criteriaAmong fields
    let rest ← joinItems items
    return { join with criteria := criteria } :: rest
  | other :: _ => .error (.joinShape other)

/-- The criteria under the key for them, if it is among the fields. -/
def criteriaAmong : List (String × Json) → Result (Option Criteria)
  | [] => .ok none
  | (key, value) :: fields =>
    if key = "criteria" then (ofJson value).map some else criteriaAmong fields

end

end Criteria

end SqlAdapter
