import ProfileQuery.Cell
import ProfileQuery.Query.Token

/-!
# Syntax errors

Why a text is not a query, and the wording of each cause.
-/

namespace ProfileQuery.Query

/-- Why a literal of a query has no value. -/
inductive LiteralFault where
  | unknownOperator
  | integer (fault : Text.IntegerFault)
  | date (fault : CellFault)
  | notLiteral
deriving DecidableEq, Repr

/-- The wording of a fault. -/
def LiteralFault.message : LiteralFault → String
  | unknownOperator => "unknown comparison operator"
  | integer fault => fault.message
  | date fault => "Type error: " ++ fault.message
  | notLiteral => "not a literal"

/-- Why a text is not a query. -/
inductive SyntaxError where
  /-- A token of none of the expected kinds was found. -/
  | unexpectedToken (expected : List Kind) (found : Token)
  /-- A literal has no value. -/
  | invalidLiteral (fault : LiteralFault) (token : Token)
  /-- All columns are asked for, but no relation is named. -/
  | wildcardWithoutFrom (text : String)
  /-- The query does not start with a word for a selection. -/
  | unsupportedQuery (word : String)
deriving DecidableEq, Repr

/-- The place of a token, for a message. -/
def Token.placeText (t : Token) : String :=
  "line " ++ toString t.position.line ++ ", column " ++ toString t.position.column

/-- The wording of a syntax error. -/
def SyntaxError.message : SyntaxError → String
  | unexpectedToken expected found =>
    "expected " ++ String.intercalate " or " (expected.map Kind.description) ++ ", found " ++
      found.shown ++ " at " ++ found.placeText
  | invalidLiteral fault token =>
    "invalid literal " ++ token.shown ++ " at " ++ token.placeText ++ ": " ++ fault.message
  | wildcardWithoutFrom text => "'select *' requires a 'from' clause: " ++ text
  | unsupportedQuery word => "'" ++ word ++ "' queries are not supported"

end ProfileQuery.Query
