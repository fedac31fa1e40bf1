/-!
# Fields

The columns of a relation: name, datatype, whether the column is a key, and a comment. A field is
written as one line of a relations file.
-/

namespace ProfileQuery

/-- The datatype of a column. -/
inductive DataType where
  | integer
  | string
  | date
  /-- Any other tag; the values of such a column are texts. -/
  | other (tag : String)
deriving DecidableEq, Repr

namespace DataType

/-- The datatype that a tag of a relations file stands for. -/
def ofTag (tag : String) : DataType :=
  if tag = ":integer" then integer
  else if tag = ":string" then string
  else if tag = ":date" then date
  else other tag

/-- The tag of a datatype. -/
def tag : DataType → String
  | integer => ":integer"
  | string => ":string"
  | date => ":date"
  | other tag => tag

theorem tag_ofTag (tag : String) : (ofTag tag).tag = tag := by
  unfold ofTag
  split
  · simp_all [DataType.tag]
  · split
    · simp_all [DataType.tag]
    · split <;> simp_all [DataType.tag]

end DataType

/-- A column of a relation. -/
structure Field where
  name : String
  datatype : DataType
  /-- Rows of different relations are joined on their keys. -/
  isKey : Bool
  isPartialKey : Bool
  comment : Option String
deriving DecidableEq, Repr

/-- The column at which comments start, counted from zero. -/
def Field.commentColumn : Nat := 40

/-- The marks of a field after its datatype. -/
def Field.marks (f : Field) : String :=
  (if f.isKey then " :key" else "") ++ (if f.isPartialKey then " :partial" else "")

/-- The line of a field without its comment. -/
def Field.declaration (f : Field) : String :=
  "  " ++ f.name ++ " " ++ f.datatype.tag ++ f.marks

/-- The line of a field. Comments line up at a fixed column as long as the declaration leaves room.
-/
def Field.render (f : Field) : String :=
  match f.comment with
  | none => f.declaration
  | some comment =>
    if comment.isEmpty then f.declaration
    else
      let room := commentColumn - f.declaration.length
      f.declaration ++ String.ofList (List.replicate room ' ') ++ "# " ++ comment

end ProfileQuery
