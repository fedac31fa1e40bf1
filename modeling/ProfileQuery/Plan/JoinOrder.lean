import ProfileQuery.Plan.Name
import ProfileQuery.Plan.Pivot

/-!
# Joins and their order

The relations that a query has to join and the columns to fetch from each: first the columns asked
for, then the keys that were not. Each relation after the first is joined only when it shares a key
with those before it.
-/

namespace ProfileQuery.Plan

/-- A relation to join and the columns to fetch from it. -/
structure JoinStep where
  relation : String
  columns : List String
deriving DecidableEq, Repr

/-- Adds a column to fetch to the step of its relation; a relation without a step gets one at the
end. -/
def fetch (relation column : String) : List JoinStep → List JoinStep
  | [] => [⟨relation, [column]⟩]
  | step :: steps =>
    if step.relation = relation then ⟨relation, step.columns ++ [column]⟩ :: steps
    else step :: fetch relation column steps

/-- The named relations, which must be distinct and known; `seen` holds those before them. -/
def checkNamed (s : Schema) (seen : List String) : List String → Except QueryError Unit
  | [] => .ok ()
  | relation :: relations =>
    if relation ∈ seen then .error (.duplicateJoin relation)
    else do
      let _ ← s.relation relation
      checkNamed s (relation :: seen) relations

/-- The relations to join so far, and the columns to fetch from them. -/
structure Draft where
  relations : List String
  steps : List JoinStep

/-- The relation and the column of a qualified name, both of which must be known. -/
def locate (s : Schema) (name : String) : Except QueryError (String × String) :=
  match splitQualified name with
  | (none, _) => .error (.undefinedColumn name)
  | (some relation, column) => do
    let r ← s.relation relation
    match r.fieldIndex? column with
    | none => throw (.undefinedColumn name)
    | some _ => return (relation, column)

/-- Adds the columns with the given qualified names, each once; `seen` holds those added before. -/
def addColumns (s : Schema) (seen : List String) (draft : Draft) :
    List String → Except QueryError Draft
  | [] => .ok draft
  | name :: names =>
    if name ∈ seen then addColumns s seen draft names
    else do
      let (relation, column) ← locate s name
      let relations :=
        if relation ∈ draft.relations then draft.relations else draft.relations ++ [relation]
      addColumns s (name :: seen) ⟨relations, fetch relation column draft.steps⟩ names

/-- Adds the keys of the given relations that were not asked for by name. -/
def addKeys (map : KeyMap) (asked relations : List String) (steps : List JoinStep) :
    List JoinStep :=
  relations.foldl (fun steps relation =>
    ((map.keys? relation).getD []).foldl (fun steps key =>
      if qualified relation key ∈ asked then steps else fetch relation key steps) steps) steps

/-- Puts steps in an order in which each but the first fetches a key of those before it. `keys`
holds the keys joined so far, `none` before the first step. Each time the first possible step is
taken. -/
def orderSteps (map : KeyMap) (keys : Option (List String)) (steps : List JoinStep) :
    Except QueryError (List JoinStep) :=
  if steps.isEmpty then .ok []
  else
    let possible := fun (step : JoinStep) =>
      match keys with
      | none => true
      | some keys => step.columns.any (keys.contains ·)
    match _h : steps.find? possible with
    | none => .error (.joinOrderLoop (steps.map (·.relation)))
    | some step =>
      let joined := keys.getD [] ++ (map.keys? step.relation).getD []
      match orderSteps map (some joined) (steps.erase step) with
      | .error e => .error e
      | .ok later => .ok (step :: later)
termination_by steps.length
decreasing_by
  have hmem := List.mem_of_find?_eq_some _h
  have hpos := List.length_pos_of_mem hmem
  rw [List.length_erase_of_mem hmem]
  omega

/-- The joins for a projection and the columns of a condition, all of them qualified, and for the
relations that the query names. -/
def planJoins (s : Schema) (projection conditionColumns named : List String) :
    Except QueryError (List JoinStep) := do
  checkNamed s [] named
  let asked := projection ++ conditionColumns
  let draft ← addColumns s [] ⟨named, []⟩ asked
  let map := keyMap s
  let pivots ← pivotRelations draft.relations map
  orderSteps map none (addKeys map asked (draft.relations ++ pivots) draft.steps)

end ProfileQuery.Plan
