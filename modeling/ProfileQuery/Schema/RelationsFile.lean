import ProfileQuery.Schema.Basic
import ProfileQuery.Text.Blank
import ProfileQuery.Unicode.Letter

/-!
# Relations files

The text form of a schema. A line `name:` starts a relation, and each line after it declares a field
of that relation: its name, its datatype, marks such as `:key`, and a comment after a number sign.
Indentation, empty lines and the width of the gaps do not count.
-/

namespace ProfileQuery.RelationsFile

open Text

/-- What a line of a relations file says. -/
inductive Line where
  | blank
  /-- The start of a relation. -/
  | heading (relation : String)
  /-- A field: its name, the words after the name, and the comment. -/
  | field (name : String) (attributes : List String) (comment : Option String)
  /-- Anything else. -/
  | invalid
deriving DecidableEq, Repr

/-- The name in a heading: a run of characters without blanks that starts with a word character and
is followed by a colon. -/
def headingName? (line : List Char) : Option (List Char) :=
  match line.getLast?, line.dropLast with
  | some ':', c :: cs =>
    if Unicode.isWord c && (c :: cs).all (!isBlank ·) then some (c :: cs) else none
  | _, _ => none

/-- The part of a line in front of its first number sign. -/
def beforeComment (line : List Char) : List Char :=
  line.takeWhile (· != '#')

/-- The comment of a line, if there is more than blanks behind its first number sign. -/
def comment? (line : List Char) : Option String :=
  match trim ((line.dropWhile (· != '#')).drop 1) with
  | [] => none
  | cs => some (String.ofList cs)

/-- What a trimmed line says. -/
def Line.ofText (line : List Char) : Line :=
  if line.isEmpty then .blank
  else
    match headingName? line with
    | some name => .heading (String.ofList name)
    | none =>
      match words (beforeComment line) with
      | [] => .invalid
      | name :: attributes =>
        .field (String.ofList name) (attributes.map String.ofList) (comment? line)

/-- The field that a line declares after its name: the datatype is required, marks may come in any
order, and words that are no marks do not count. -/
def fieldOf? (name : String) (comment : Option String) : List String → Option Field
  | [] => none
  | tag :: marks => some {
      name, comment
      datatype := .ofTag tag
      isKey := marks.contains ":key"
      isPartialKey := marks.contains ":partial" }

/-- A relation of which some fields have been read. -/
structure Draft where
  name : String
  /-- The fields read so far, the last one first. -/
  fields : List Field

/-- Adds a finished relation to the schema. -/
def finish (s : Schema) : Option Draft → Except QueryError Schema
  | none => .ok s
  | some draft => s.addRelation draft.name draft.fields.reverse

/-- Reads the remaining lines, of which the first has the given number. -/
def readLines (s : Schema) (draft : Option Draft) (number : Nat) :
    List (List Char) → Except QueryError Schema
  | [] => finish s draft
  | raw :: rest =>
    let line := trim raw
    match Line.ofText line, draft with
    | .blank, draft => readLines s draft (number + 1) rest
    | .heading name, draft =>
      match finish s draft with
      | .error e => .error e
      | .ok s => readLines s (some ⟨name, []⟩) (number + 1) rest
    | .field name attributes comment, some draft =>
      match fieldOf? name comment attributes with
      | none => .error (.schema (.missingDatatype number (String.ofList line)))
      | some field =>
        readLines s (some ⟨draft.name, field :: draft.fields⟩) (number + 1) rest
    | _, _ => .error (.schema (.invalidLine number (String.ofList line)))

/-- The schema that a text describes. -/
def read (text : String) : Except QueryError Schema :=
  readLines .empty none 1 (lines text.toList)

/-- The schema that the content of a file describes, which must be encoded text. -/
def ofBytes (bytes : ByteArray) : Except QueryError Schema :=
  match String.fromUTF8? bytes with
  | some text => read text
  | none => .error (.schema .unreadableFile)

end ProfileQuery.RelationsFile
