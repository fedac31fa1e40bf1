import ProfileQuery.Names
import ProfileQuery.Text.Quoted
import ProfileQuery.Value

/-!
# Conditions

The conditions that rows are filtered by: comparisons of a column with a literal, combined by `and`,
`or` and `not`. A condition can be written as text of the query language, asked for its columns, and
given new column names.
-/

namespace ProfileQuery.Query

/-- The comparison operators. -/
inductive Operator where
  | equal
  | notEqual
  | less
  | lessEqual
  | greater
  | greaterEqual
  /-- A pattern is found in the text. -/
  | matched
  /-- A pattern is not found in the text. -/
  | notMatched
deriving DecidableEq, Repr

namespace Operator

/-- All operators. -/
def all : List Operator :=
  [equal, notEqual, less, lessEqual, greater, greaterEqual, matched, notMatched]

/-- The symbol by which an operator is written. -/
def symbol : Operator → String
  | equal => "=="
  | notEqual => "!="
  | less => "<"
  | lessEqual => "<="
  | greater => ">"
  | greaterEqual => ">="
  | matched => "~"
  | notMatched => "!~"

/-- The operator with the given symbol. A single equals sign is read as a double one. -/
def ofSymbol? (s : String) : Option Operator :=
  if s = "=" then some equal else all.find? (·.symbol == s)

/-- Whether the operator takes a pattern. -/
def isPattern : Operator → Bool
  | matched | notMatched => true
  | _ => false

/-- Whether the operator asks for the order of two values. -/
def isOrdering : Operator → Bool
  | less | lessEqual | greater | greaterEqual => true
  | _ => false

end Operator

/-- The ways to combine conditions. -/
inductive Connective where
  | and
  | or
deriving DecidableEq, Repr

/-- The word for a connective. -/
def Connective.word : Connective → String
  | and => "and"
  | or => "or"

/-- A condition on a row. -/
inductive Condition where
  | comparison (op : Operator) (column : String) (value : Value)
  | junction (op : Connective) (children : List Condition)
  | negation (child : Condition)

namespace Condition

/-- A literal as it is written in a query: texts between double quotes. -/
def literalText : Value → String
  | .text s => String.ofList (Text.quoted '"' s.toList)
  | value => value.render

mutual

/-- The text of a condition. Every junction stands in parentheses. -/
def render : Condition → String
  | comparison op column value => column ++ " " ++ op.symbol ++ " " ++ literalText value
  | junction op children => "(" ++ renderChildren op children ++ ")"
  | negation child => "not (" ++ child.render ++ ")"

/-- The texts of several conditions with the word for a connective between them. -/
def renderChildren (op : Connective) : List Condition → String
  | [] => ""
  | [child] => child.render
  | child :: children => child.render ++ " " ++ op.word ++ " " ++ renderChildren op children

end

mutual

/-- The columns of the comparisons, from left to right. -/
def leafColumns : Condition → List String
  | comparison _ column _ => [column]
  | junction _ children => childrenColumns children
  | negation child => child.leafColumns

/-- The columns of the comparisons in several conditions. -/
def childrenColumns : List Condition → List String
  | [] => []
  | child :: children => child.leafColumns ++ childrenColumns children

end

/-- The set of the columns of a condition. -/
def columns (c : Condition) : List String :=
  Names.ofList c.leafColumns

mutual

/-- The condition with every column renamed, from left to right. -/
def mapColumns {m : Type → Type} [Monad m] (rename : String → m String) : Condition → m Condition
  | comparison op column value => do
    let column ← rename column
    return comparison op column value
  | junction op children => do
    let children ← mapChildren rename children
    return junction op children
  | negation child => do
    let child ← child.mapColumns rename
    return negation child

/-- Several conditions with every column renamed, from left to right. -/
def mapChildren {m : Type → Type} [Monad m] (rename : String → m String) :
    List Condition → m (List Condition)
  | [] => return []
  | child :: children => do
    let child ← child.mapColumns rename
    let children ← mapChildren rename children
    return child :: children

end

mutual

/-- The literals of the comparisons, from left to right. -/
def leafValues : Condition → List Value
  | comparison _ _ value => [value]
  | junction _ children => childrenValues children
  | negation child => child.leafValues

/-- The literals of the comparisons in several conditions. -/
def childrenValues : List Condition → List Value
  | [] => []
  | child :: children => child.leafValues ++ childrenValues children

end

/-- One condition stands alone; several are combined by a connective. -/
def combine (op : Connective) : List Condition → Condition
  | [child] => child
  | children => junction op children

end Condition

end ProfileQuery.Query
