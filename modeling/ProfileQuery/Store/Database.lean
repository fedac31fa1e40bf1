import ProfileQuery.Schema.Basic

/-!
# Databases

A profile held in memory: for each relation of a schema a table of rows, in the order in which they
were accepted. Every row of a table has one cell for each field of its relation; rows that have not
are refused, and a refused row leaves the database as it was.
-/

namespace ProfileQuery

open Calendar (DateTime)

/-- The cells of a row at the given positions. A position behind the end holds a missing value. -/
def Row.select (positions : List Nat) (row : Row) : Row :=
  positions.map fun i => row[i]?.getD .null

/-- A relation with its rows. -/
structure Table where
  relation : Relation
  rows : Array Row
  rows_arity : ∀ row ∈ rows, row.length = relation.arity

namespace Table

/-- The table without rows. -/
def empty (r : Relation) : Table := ⟨r, #[], by simp⟩

/-- The table with one more row. -/
def push (t : Table) (row : Row) (h : row.length = t.relation.arity) : Table :=
  ⟨t.relation, t.rows.push row, by
    intro other hother
    rcases Array.mem_push.mp hother with hmem | rfl
    · exact t.rows_arity other hmem
    · exact h⟩

end Table

/-- The tables of a profile, for relations with distinct names. -/
structure Database where
  tables : List Table
  tables_nodup : (tables.map (·.relation.name)).Nodup

namespace Database

/-- The database without rows. -/
def ofSchema (s : Schema) : Database :=
  ⟨s.relations.map Table.empty, by simpa [Table.empty, Function.comp_def] using s.relations_nodup⟩

/-- The relations of the tables. -/
def schema (db : Database) : Schema :=
  ⟨db.tables.map (·.relation), by simpa [Function.comp_def] using db.tables_nodup⟩

/-- The table of the relation with the given name. -/
def table? (db : Database) (relation : String) : Option Table :=
  db.tables.find? (·.relation.name == relation)

/-- The table of the relation with the given name, which must exist. -/
def table (db : Database) (relation : String) : Except QueryError Table :=
  match db.table? relation with
  | some t => .ok t
  | none => .error (.unknownRelation relation)

/-- Puts a table in the place of the one for the relation of the same name. -/
def replace (db : Database) (t : Table) : Database :=
  ⟨db.tables.map fun u => if u.relation.name = t.relation.name then t else u, by
    have same : (db.tables.map fun u => if u.relation.name = t.relation.name then t else u).map
        (·.relation.name) = db.tables.map (·.relation.name) := by
      rw [List.map_map]
      refine List.map_congr_left fun u _ => ?_
      by_cases h : u.relation.name = t.relation.name <;> simp [h]
    rw [same]
    exact db.tables_nodup⟩

/-- Adds a row of values at the end of a table. -/
def insert (db : Database) (relation : String) (row : Row) : Except QueryError Database :=
  match db.table relation with
  | .error e => .error e
  | .ok t =>
    if h : row.length = t.relation.arity then .ok (db.replace (t.push row h))
    else .error (.schema (.wrongArity relation t.relation.arity row.length))

/-- The values of raw cells, each by the datatype of its field. -/
def castCells (now : DateTime) (fields : List Field) (cells : List String) :
    Except QueryError Row :=
  (fields.zip cells).mapM fun (field, cell) =>
    match Value.ofCell now field.datatype cell with
    | .ok value => .ok value
    | .error fault => .error (.typeError (.cell fault))

/-- Adds a row of raw cells at the end of a table. -/
def insertRaw (db : Database) (now : DateTime) (relation : String) (cells : List String) :
    Except QueryError Database :=
  match db.table relation with
  | .error e => .error e
  | .ok t =>
    if cells.length = t.relation.arity then
      match castCells now t.relation.fields cells with
      | .error e => .error e
      | .ok row => db.insert relation row
    else .error (.schema (.wrongArity relation t.relation.arity cells.length))

/-- Adds rows of values one after another, up to the first that is refused. The database with the
rows before it is returned along with the error. -/
def extend (db : Database) (relation : String) : List Row → Database × Option QueryError
  | [] => (db, none)
  | row :: rows =>
    match db.insert relation row with
    | .error e => (db, some e)
    | .ok db => db.extend relation rows

/-- The number of rows of a relation; none when there is no such relation. -/
def rowCount (db : Database) (relation : String) : Nat :=
  ((db.table? relation).map (·.rows.size)).getD 0

/-- The positions of columns in a relation. -/
def columnPositions (db : Database) (relation : String) (columns : List String) :
    Except QueryError (List Nat) :=
  columns.mapM fun column =>
    match db.schema.fieldIndex? relation column with
    | some i => .ok i
    | none => .error (.undefinedColumn (relation ++ "." ++ column))

/-- The given columns of all rows of a relation. A column that is not there is found before a
relation that is not. -/
def selectFrom (db : Database) (relation : String) (columns : List String) :
    Except QueryError (List Row) := do
  let positions ← db.columnPositions relation columns
  let t ← db.table relation
  return t.rows.toList.map (Row.select positions)

end Database

end ProfileQuery
