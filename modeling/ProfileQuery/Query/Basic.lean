import ProfileQuery.Query.Condition

/-!
# Queries

A query asks for columns of joined relations, for those rows that satisfy a condition.
-/

namespace ProfileQuery.Query

/-- The columns that a query asks for. -/
inductive Projection where
  /-- All columns of the relations that the query names. -/
  | wildcard
  /-- The listed columns, with or without the name of their relation. -/
  | columns (names : List String)
deriving DecidableEq, Repr

/-- A query. -/
structure Select where
  projection : Projection
  /-- The relations named after `from`, in order. -/
  relations : List String
  condition : Option Condition

/-- The text of a projection. -/
def Projection.render : Projection → String
  | wildcard => " *"
  | columns names => String.join (names.map (" " ++ ·))

/-- The text of a query. -/
def Select.render (q : Select) : String :=
  "select" ++ q.projection.render ++
    (if q.relations.isEmpty then "" else " from " ++ String.intercalate " " q.relations) ++
    (match q.condition with
      | none => ""
      | some condition => " where " ++ condition.render)

end ProfileQuery.Query
