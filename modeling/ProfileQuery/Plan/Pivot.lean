import ProfileQuery.Plan.KeySpace
import ProfileQuery.Schema.Basic

/-!
# Pivot relations

When the relations of a query fall into several key spaces, further relations are added that bridge
them. The search takes the first relation of the schema that has keys in more than one key space, as
long as there is more than one.
-/

namespace ProfileQuery.Plan

/-- Relations with the names of their keys, in the order of the schema. -/
abbrev KeyMap := List (String × List String)

/-- The keys of all relations of a schema. -/
def keyMap (s : Schema) : KeyMap :=
  s.relations.map fun r => (r.name, r.keys)

/-- The keys of a relation, if the map has it. -/
def KeyMap.keys? (map : KeyMap) (relation : String) : Option (List String) :=
  map.lookup relation

/-- The key spaces of some relations; relations that the map lacks do not count. -/
def KeyMap.spaces (map : KeyMap) (relations : List String) : KeySpaces :=
  .ofCliques (relations.filterMap map.keys?)

/-- Adds pivots until there is one key space, each the first of the candidates that bridges two.
`none` when there is no such candidate. -/
def searchPivots (spaces : KeySpaces) (candidates : KeyMap) : Option (List String) :=
  if spaces.length ≤ 1 then some []
  else
    match _h : candidates.find? fun c => 1 < c.2.length && spaces.bridgedBy c.2 with
    | none => none
    | some pivot =>
      (searchPivots (spaces.connect pivot.2) (candidates.erase pivot)).map (pivot.1 :: ·)
termination_by candidates.length
decreasing_by
  have hmem := List.mem_of_find?_eq_some _h
  have hpos := List.length_pos_of_mem hmem
  rw [List.length_erase_of_mem hmem]
  omega

/-- The relations that connect the key spaces of the given ones into one, in the order in which they
were found. -/
def pivotRelations (relations : List String) (map : KeyMap) : Except QueryError (List String) :=
  match searchPivots (map.spaces relations) (map.filter (·.1 ∉ relations)) with
  | some pivots => .ok pivots
  | none => .error (.noPivotRelation (Names.sort relations))

end ProfileQuery.Plan
