import ProfileQuery.Plan.Name
import ProfileQuery.Selection.NameIndex
import ProfileQuery.Store.Database

/-!
# Selections

The rows of joined relations. A selection keeps every column that was fetched and an index of the
columns by their bare and their qualified names. A projection picks and orders the columns that are
shown; without one all columns are.
-/

namespace ProfileQuery

open Plan (qualified)

/-- The columns that are shown: their names as asked for, and their positions. -/
structure ShownColumns where
  names : List String
  positions : List Nat
deriving DecidableEq, Repr

/-- Joined rows. -/
structure Selection where
  /-- The fields of all columns. -/
  fields : List Field
  /-- The positions of the columns by their bare and qualified names. -/
  index : NameIndex
  data : List Row
  shown : Option ShownColumns
  /-- The relations that were joined, the last one first. -/
  joined : List String

namespace Selection

/-- The selection before any relation is joined. -/
def empty : Selection := ⟨[], .empty, [], none, []⟩

/-- Whether a relation is joined. -/
def isJoined (s : Selection) (relation : String) : Bool :=
  s.joined.contains relation

/-- Whether any relation is joined. -/
def hasJoins (s : Selection) : Bool :=
  !s.joined.isEmpty

/-- The position of a bare or qualified name. -/
def indexOf? (s : Selection) (name : String) : Option Nat :=
  s.index.find? name

/-- The number of rows. -/
def size (s : Selection) : Nat := s.data.length

/-- The positions of all columns. -/
def allPositions (s : Selection) : List Nat :=
  List.range s.fields.length

/-- The positions of the columns that are shown. -/
def shownPositions (s : Selection) : List Nat :=
  match s.shown with
  | some shown => shown.positions
  | none => s.allPositions

/-- The fields of the columns that are shown. -/
def shownFields (s : Selection) : List Field :=
  s.shownPositions.filterMap (s.fields[·]?)

/-- The rows with the columns that are shown. -/
def rows (s : Selection) : List Row :=
  s.data.map (Row.select s.shownPositions)

/-- The positions of some names, all of which must be known. -/
def positions (s : Selection) (names : List String) : Except QueryError (List Nat) :=
  names.mapM fun name =>
    match s.indexOf? name with
    | some i => .ok i
    | none => .error (.undefinedColumn name)

/-- The rows with the named columns, or with all columns when no name is given. -/
def select (s : Selection) (names : List String) : Except QueryError (List Row) := do
  let positions ← if names.isEmpty then pure s.allPositions else s.positions names
  return s.data.map (Row.select positions)

/-- The selection that shows the named columns. -/
def project (s : Selection) (names : List String) : Except QueryError Selection := do
  let positions ← s.positions names
  return { s with shown := some ⟨names, positions⟩ }

/-- The rows that satisfy a condition. -/
def filter (s : Selection) (keep : Row → Bool) : Selection :=
  { s with data := s.data.filter keep }

/-- The index with the fields of a relation, of which the first is at position `start`: qualified
names always, bare names unless they are taken. -/
def indexFields (relation : String) (ix : NameIndex) (start : Nat) : List Field → NameIndex
  | [] => ix
  | field :: fields =>
    indexFields relation
      ((ix.putNew field.name start).put (qualified relation field.name) start) (start + 1) fields

/-- The index with the qualified names of columns that a relation shares with those before it. -/
def indexShared (relation : String) (ix : NameIndex) (names : List String) : NameIndex :=
  names.foldl (fun ix name =>
    match ix.find? name with
    | some position => ix.put (qualified relation name) position
    | none => ix) ix

/-- The selection with the fields of one more relation and with new rows; `shared` names the columns
of the relation that were there before. -/
def merge (s : Selection) (relation : String) (shared : List String) (fields : List Field)
    (data : List Row) : Selection :=
  { s with
    fields := s.fields ++ fields
    index := indexShared relation (indexFields relation s.index s.fields.length fields) shared
    data
    joined := relation :: s.joined }

end Selection

end ProfileQuery
