/-!
# Sorted names

Finite sets of names, kept as lists in ascending order of code points without repetitions.
-/

namespace ProfileQuery.Names

/-- Adds a name to a sorted list unless it is there. -/
def insert (name : String) : List String → List String
  | [] => [name]
  | other :: names =>
    if name = other then other :: names
    else if name < other then name :: other :: names
    else other :: insert name names

/-- The set of the names in a list. -/
def ofList (names : List String) : List String :=
  names.foldr insert []

/-- The union of a list of names and a set. -/
def union (names set : List String) : List String :=
  names.foldr insert set

/-- All names of a list in ascending order, repetitions included. -/
def sort (names : List String) : List String :=
  names.mergeSort fun a b => decide (a ≤ b)

/-- The names with commas between them. -/
def commaSeparated (names : List String) : String :=
  String.intercalate ", " names

end ProfileQuery.Names
