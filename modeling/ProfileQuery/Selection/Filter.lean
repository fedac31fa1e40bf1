import ProfileQuery.Error
import ProfileQuery.Pattern.Reader
import ProfileQuery.Pattern.Search
import ProfileQuery.Selection.NameIndex

/-!
# Filters

A condition is turned into a test of rows once, before any row is seen: the columns are looked up in
a name index and the patterns are read. What fails is found from left to right, even in parts of the
condition that would not decide it.
-/

namespace ProfileQuery.Filter

open Query (Condition Connective Operator)

/-- Compares two values. Values of different types, and missing values, are neither equal nor
ordered; they differ. Patterns are not compared. -/
def holds (op : Operator) (left right : Value) : Bool :=
  let order := if left.isNull || right.isNull then none else left.compare? right
  match op with
  | .equal => order == some .eq
  | .notEqual => order != some .eq
  | .less => order == some .lt
  | .lessEqual => order == some .lt || order == some .eq
  | .greater => order == some .gt
  | .greaterEqual => order == some .gt || order == some .eq
  | .matched | .notMatched => false

/-- Whether a pattern is found in the text of a value; in a missing value nothing is. -/
def found (p : Pattern) : Value → Bool
  | .null => false
  | value => p.foundIn value.render.toList

/-- The cell at a position; behind the end of a row the cells are missing. -/
def cell (row : Row) (position : Nat) : Value :=
  row[position]?.getD .null

/-- The pattern of a literal. -/
def literalPattern (op : Operator) (literal : Value) : Except QueryError Pattern :=
  match literal with
  | .text s =>
    match Pattern.ofText s with
    | .ok p => .ok p
    | .error fault => .error (.invalidRegex s fault)
  | _ => .error (.typeError (.notPattern op literal))

/-- The test that a comparison asks for. -/
def compileComparison (ix : NameIndex) (op : Operator) (column : String) (literal : Value) :
    Except QueryError (Row → Bool) :=
  match ix.find? column with
  | none => .error (.undefinedColumn column)
  | some position =>
    if op.isPattern then
      match literalPattern op literal with
      | .error e => .error e
      | .ok p => .ok fun row => found p (cell row position) != (op == .notMatched)
    else .ok fun row => holds op (cell row position) literal

mutual

/-- The test that a condition asks for. -/
def compile (ix : NameIndex) : Condition → Except QueryError (Row → Bool)
  | .comparison op column literal => compileComparison ix op column literal
  | .junction op children =>
    match compileAll ix children with
    | .error e => .error e
    | .ok tests =>
      match op with
      | .and => .ok fun row => tests.all (· row)
      | .or => .ok fun row => tests.any (· row)
  | .negation child =>
    match compile ix child with
    | .error e => .error e
    | .ok test => .ok fun row => !test row

/-- The tests that several conditions ask for. -/
def compileAll (ix : NameIndex) : List Condition → Except QueryError (List (Row → Bool))
  | [] => .ok []
  | child :: children =>
    match compile ix child with
    | .error e => .error e
    | .ok test =>
      match compileAll ix children with
      | .error e => .error e
      | .ok tests => .ok (test :: tests)

end

end ProfileQuery.Filter
