/-!
# Qualified names

A column is named either alone or together with its relation, as `relation.column`. A qualified name
is taken apart at its last dot, so that the name of a relation may itself have dots.
-/

namespace ProfileQuery.Plan

/-- The name of a column together with its relation. -/
def qualified (relation column : String) : String :=
  relation ++ "." ++ column

/-- The parts before and after the last dot. -/
def splitLastDot : List Char → Option (List Char × List Char)
  | [] => none
  | c :: cs =>
    match splitLastDot cs with
    | some (front, back) => some (c :: front, back)
    | none => if c = '.' then some ([], cs) else none

/-- The relation of a name, if it has one, and the column. -/
def splitQualified (name : String) : Option String × String :=
  match splitLastDot name.toList with
  | some (relation, column) => (some (String.ofList relation), String.ofList column)
  | none => (none, name)

end ProfileQuery.Plan
