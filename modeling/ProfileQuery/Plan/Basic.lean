import ProfileQuery.Plan.JoinOrder
import ProfileQuery.Plan.Resolution

/-!
# Plans

What has to be done to answer a query: the joins in order, the condition to filter the joined rows
by, and the columns to return, all names qualified.
-/

namespace ProfileQuery.Plan

open Query (Condition Select)

/-- How to answer a query. -/
structure SelectPlan where
  /-- The qualified names of the columns to return, in order. -/
  projection : List String
  /-- The joins, in order. -/
  joins : List JoinStep
  /-- The condition, with qualified names. -/
  condition : Option Condition

/-- The qualified names of the columns that a query asks for. -/
def resolveProjection (q : Select) (s : Schema) : Except QueryError (List String) :=
  match q.projection with
  | .wildcard => projectAll s q.relations
  | .columns names => names.mapM (resolve s q.relations)

/-- The condition of a query with qualified names, and the set of those names. -/
def resolveFilter (q : Select) (s : Schema) :
    Except QueryError (Option Condition × List String) :=
  match q.condition with
  | none => .ok (none, [])
  | some condition => do
    let (resolved, columns) ← resolveCondition s q.relations condition
    return (some resolved, columns)

/-- The plan for a query on a schema. -/
def ofSelect (q : Select) (s : Schema) : Except QueryError SelectPlan := do
  let projection ← resolveProjection q s
  let (condition, columns) ← resolveFilter q s
  let joins ← planJoins s projection columns q.relations
  return ⟨projection, joins, condition⟩

end ProfileQuery.Plan
