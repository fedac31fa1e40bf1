import ProfileQuery.Pattern.Basic
import ProfileQuery.Query.Condition
import ProfileQuery.Query.SyntaxError

/-!
# Errors

Why a query cannot be answered, or a schema or a row not be accepted. Every cause is a value; its
wording is in one function.
-/

namespace ProfileQuery

open Query (Operator SyntaxError)

/-- Why a schema or a row is not accepted. -/
inductive SchemaFault where
  | duplicateRelation (relation : String)
  | duplicateField (field relation : String)
  /-- A line of a relations file that fits no form. -/
  | invalidLine (number : Nat) (line : String)
  /-- A field line without a datatype. -/
  | missingDatatype (number : Nat) (line : String)
  /-- A row with too few or too many cells. -/
  | wrongArity (relation : String) (fields cells : Nat)
  /-- A relations file that is missing or is not text. -/
  | unreadableFile
deriving DecidableEq, Repr

/-- The wording of a fault. -/
def SchemaFault.message : SchemaFault → String
  | duplicateRelation relation => "relation " ++ relation ++ " already defined"
  | duplicateField field relation =>
    "field " ++ field ++ " defined twice in relation " ++ relation
  | invalidLine number line => "invalid line " ++ toString number ++ ": " ++ line
  | missingDatatype number line =>
    "missing datatype on line " ++ toString number ++ ": " ++ line
  | wrongArity relation fields cells =>
    "relation " ++ relation ++ " has " ++ toString fields ++ " fields but row has " ++
      toString cells ++ " values"
  | unreadableFile => "cannot read relations file"

/-- Why the types of a cell or a literal do not fit. -/
inductive TypeFault where
  | cell (fault : CellFault)
  /-- A pattern operator with a literal that is not a text. -/
  | notPattern (op : Operator) (literal : Value)
deriving DecidableEq

/-- The wording of a fault. -/
def TypeFault.message : TypeFault → String
  | cell fault => fault.message
  | notPattern op literal =>
    op.symbol ++ " requires a string pattern, got " ++ literal.describe

/-- Why a query cannot be answered. -/
inductive QueryError where
  | syntaxError (cause : SyntaxError)
  /-- No relation defines the column. -/
  | undefinedColumn (column : String)
  /-- The schema lacks the relation. -/
  | unknownRelation (relation : String)
  /-- The relation has no key in common with what is already joined. -/
  | noSharedKeys (relation : String)
  | duplicateJoin (relation : String)
  | invalidJoinMode (mode : String)
  /-- The relations fall apart, and no relation bridges them. -/
  | noPivotRelation (relations : List String)
  /-- No remaining relation can be joined next. -/
  | joinOrderLoop (remaining : List String)
  | invalidRegex (pattern : String) (fault : Pattern.Fault)
  | typeError (fault : TypeFault)
  | schema (fault : SchemaFault)
deriving DecidableEq

/-- The wording of an error. -/
def QueryError.message : QueryError → String
  | syntaxError cause => "Syntax error: " ++ cause.message
  | undefinedColumn column => "Undefined column: " ++ column
  | unknownRelation relation => "Unknown relation: " ++ relation
  | noSharedKeys relation => "No shared keys for joining: " ++ relation
  | duplicateJoin relation => "Cannot join the same relation twice: " ++ relation
  | invalidJoinMode mode => "Only 'inner' and 'left' join methods are allowed, got: " ++ mode
  | noPivotRelation relations =>
    "Could not find relation to join: " ++ Names.commaSeparated relations
  | joinOrderLoop remaining =>
    "Infinite loop detected while ordering joins: " ++ Names.commaSeparated remaining
  | invalidRegex pattern fault =>
    "Invalid regular expression: " ++ pattern ++ ": " ++ fault.message
  | typeError fault => "Type error: " ++ fault.message
  | schema fault => "Schema error: " ++ fault.message

end ProfileQuery
