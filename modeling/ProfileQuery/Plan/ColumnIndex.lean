import ProfileQuery.Entries
import ProfileQuery.Schema.Basic

/-!
# Column indexes

The relations that define each column, for all columns at once. An index is gathered field by field
along the schema; after that the relations of each column are put in order of preference, by a sort
that leaves the order of the schema alone among those that are preferred alike.
-/

namespace ProfileQuery.Plan

/-- Columns with the relations that define them. -/
structure ColumnIndex where
  entries : Entries
deriving DecidableEq, Repr

namespace ColumnIndex

/-- The relations that define a column. -/
def relations (ix : ColumnIndex) (column : String) : List String :=
  ix.entries.under column

/-- Adds a relation behind those that define a column. -/
def add (ix : ColumnIndex) (column relation : String) : ColumnIndex :=
  ⟨ix.entries.change column (· ++ [relation])⟩

/-- Adds a relation under each of its columns. -/
def addRelation (ix : ColumnIndex) (r : Relation) : ColumnIndex :=
  r.fields.foldl (fun ix field => ix.add field.name r.name) ix

/-- The columns of a schema with the relations that define them, in the order of the schema. -/
def ofSchema (s : Schema) : ColumnIndex :=
  s.relations.foldl addRelation ⟨[]⟩

/-- Whether a relation need not stand behind another one: only a named one comes before others. -/
def mayPrecede (named : List String) (relation other : String) : Bool :=
  relation ∈ named || other ∉ named

/-- Puts the named relations of each column before the others. -/
def prefer (ix : ColumnIndex) (named : List String) : ColumnIndex :=
  ⟨ix.entries.map fun entry => (entry.1, entry.2.mergeSort (mayPrecede named))⟩

end ColumnIndex

end ProfileQuery.Plan
