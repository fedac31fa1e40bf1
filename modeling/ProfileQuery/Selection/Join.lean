import ProfileQuery.Selection.Basic
import ProfileQuery.Selection.KeyIndex

/-!
# Joins

A relation is joined to a selection on the keys that are among the columns asked for and that the
selection already has. Each row is extended by every matching row of the relation, in stored order;
the mode says what becomes of a row without a match.
-/

namespace ProfileQuery

/-- What becomes of rows without a match. -/
inductive JoinMode where
  /-- They are dropped. -/
  | inner
  /-- They are kept, and their new cells are missing values. -/
  | left
deriving DecidableEq, Repr

namespace JoinMode

/-- The word for a mode. -/
def word : JoinMode → String
  | inner => "inner"
  | left => "left"

/-- The mode with the given word. -/
def ofWord (s : String) : Except QueryError JoinMode :=
  if s = "inner" then .ok inner
  else if s = "left" then .ok left
  else .error (.invalidJoinMode s)

end JoinMode

namespace Selection

/-- The fields of the columns asked for, all of which the relation must have. -/
def requestedFields (r : Relation) (columns : List String) : Except QueryError (List Field) :=
  columns.mapM fun column =>
    match r.field? column with
    | some field => .ok field
    | none => .error (.undefinedColumn (Plan.qualified r.name column))

/-- The extensions of a row by the rows found for it; `width` is the number of new cells. -/
def extendRow (mode : JoinMode) (width : Nat) (row : Row) : List Row → List Row
  | [] =>
    match mode with
    | .inner => []
    | .left => [row ++ List.replicate width .null]
  | found => found.map (row ++ ·)

/-- The names of the requested keys that the selection already has. -/
def sharedKeys (s : Selection) (fields : List Field) : List String :=
  (fields.filter fun f => f.isKey && (s.indexOf? f.name).isSome).map (·.name)

/-- Joins a relation to a selection that has joins already. -/
def joinNext (s : Selection) (db : Database) (relation : String) (fields : List Field)
    (mode : JoinMode) : Except QueryError Selection := do
  let shared := s.sharedKeys fields
  if shared.isEmpty then
    throw (.noSharedKeys relation)
  let added := fields.filter fun f => !shared.contains f.name
  let keys ← db.selectFrom relation shared
  let rows ← db.selectFrom relation (added.map (·.name))
  let ix := KeyIndex.ofRows (keys.zip rows)
  let positions ← s.positions shared
  let data := s.data.flatMap fun row =>
    extendRow mode added.length row (ix.find (Row.select positions row))
  return s.merge relation shared added data

/-- Joins the given columns of a relation. The first relation is taken as it is. -/
def join (s : Selection) (db : Database) (relation : String) (columns : List String)
    (mode : JoinMode) : Except QueryError Selection := do
  if s.isJoined relation then
    throw (.duplicateJoin relation)
  let r ← db.schema.relation relation
  let fields ← requestedFields r columns
  if s.hasJoins then
    s.joinNext db relation fields mode
  else
    let data ← db.selectFrom relation columns
    return s.merge relation [] fields data

end Selection

end ProfileQuery
