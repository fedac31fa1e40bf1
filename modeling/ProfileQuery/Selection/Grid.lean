import ProfileQuery.Selection.Basic

/-!
# Selections as text

A selection is written as a table of the columns that are shown, with bars between the cells and a
line of hyphens under the names.
-/

namespace ProfileQuery.Selection

/-- The names over the columns that are shown. -/
def headings (s : Selection) : List String :=
  match s.shown with
  | some shown => shown.names
  | none => s.fields.map (·.name)

/-- A line of cells with bars around them. -/
def gridLine (cells : List String) : String :=
  "| " ++ String.join (cells.map (· ++ " | ")) ++ "\n"

/-- The line under the names: as many hyphens as a name has bytes, and two more. -/
def gridRule (headings : List String) : String :=
  "|" ++ String.join (headings.map fun heading =>
    String.ofList (List.replicate (heading.utf8ByteSize + 2) '-') ++ "|") ++ "\n"

/-- The text of a selection. -/
def grid (s : Selection) : String :=
  if s.headings.isEmpty then "Empty result"
  else gridLine s.headings ++ gridRule s.headings ++
    String.join (s.rows.map fun row => gridLine (row.map Value.render))

end ProfileQuery.Selection
