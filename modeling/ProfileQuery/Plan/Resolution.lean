import ProfileQuery.Plan.Name
import ProfileQuery.Query.Basic
import ProfileQuery.Schema.Basic

/-!
# Resolution of names

Bare column names are resolved to the relations that define them. The relations that a query names
come first, and within each group the order of the schema decides.
-/

namespace ProfileQuery.Plan

open Query (Condition)

/-- The relations that define a column, preferred ones first. -/
def candidates (s : Schema) (named : List String) (column : String) : List String :=
  let defining := (s.relations.filter fun r => (r.field? column).isSome).map (·.name)
  defining.filter (· ∈ named) ++ defining.filter (· ∉ named)

/-- The qualified form of a column name. Names that are qualified already are left alone. -/
def resolve (s : Schema) (named : List String) (name : String) : Except QueryError String :=
  match splitQualified name with
  | (some _, _) => .ok name
  | (none, column) =>
    match candidates s named column with
    | relation :: _ => .ok (qualified relation column)
    | [] => .error (.undefinedColumn name)

/-- A condition with its columns resolved, and the set of the resolved columns. -/
def resolveCondition (s : Schema) (named : List String) (condition : Condition) :
    Except QueryError (Condition × List String) := do
  let resolved ← condition.mapColumns (resolve s named)
  return (resolved, resolved.columns)

/-- The fields of a relation that a wildcard asks for, given the keys asked for before it: keys that
were asked for are left out. Also returns the keys asked for after it. -/
def projectFields (relation : String) (keys : List String) : List Field →
    List String × List String
  | [] => ([], keys)
  | field :: fields =>
    if field.isKey && keys.contains field.name then projectFields relation keys fields
    else
      let keys := if field.isKey then keys ++ [field.name] else keys
      let (projection, keys) := projectFields relation keys fields
      (qualified relation field.name :: projection, keys)

/-- All fields of the named relations, given the keys asked for before. -/
def projectRelations (s : Schema) (keys : List String) : List String →
    Except QueryError (List String)
  | [] => .ok []
  | relation :: relations => do
    let r ← s.relation relation
    let (front, keys) := projectFields relation keys r.fields
    let back ← projectRelations s keys relations
    return front ++ back

/-- All fields of the named relations, keys that they share only once. -/
def projectAll (s : Schema) (named : List String) : Except QueryError (List String) :=
  projectRelations s [] named

end ProfileQuery.Plan
