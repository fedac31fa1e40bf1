import ProfileQuery.Calendar.Iso

/-!
# Values

The values that stand in the cells of a profile and as literals in a query. Values of different
types are never ordered, and nothing is ordered before or after a missing value.
-/

namespace ProfileQuery

open Calendar (DateTime)

/-- The value of a cell. -/
inductive Value where
  /-- The cell is empty. -/
  | null
  | integer (n : Int64)
  | text (s : String)
  | date (d : DateTime)
deriving DecidableEq, Hashable

/-- The cells of one row, in the order of its columns. -/
abbrev Row := List Value

namespace Value

/-- Whether a value is missing. -/
def isNull : Value → Bool
  | null => true
  | _ => false

/-- The number of an integer. -/
def integer? : Value → Option Int64
  | integer n => some n
  | _ => none

/-- The characters of a text. -/
def text? : Value → Option String
  | text s => some s
  | _ => none

/-- The moment of a date. -/
def date? : Value → Option DateTime
  | date d => some d
  | _ => none

/-- Integers by size, texts by code points, dates by time; values of different types have no order.
-/
def compare? : Value → Value → Option Ordering
  | null, null => some .eq
  | integer a, integer b => some (compare a.toInt b.toInt)
  | text a, text b => some (compare a b)
  | date a, date b => some (a.compare b)
  | _, _ => none

/-- The text of a value: of a missing value none, of a date at midnight the day alone. -/
def render : Value → String
  | null => ""
  | integer n => Text.writeInteger n.toInt
  | text s => s
  | date d => String.ofList d.text

/-- The text of a value that is not a text, with the name of its type. -/
def describe : Value → String
  | null => "Null"
  | integer n => "Integer(" ++ Text.writeInteger n.toInt ++ ")"
  | text s => "String(" ++ s ++ ")"
  | date d => "Date(" ++ d.iso ++ ")"

end Value

end ProfileQuery
