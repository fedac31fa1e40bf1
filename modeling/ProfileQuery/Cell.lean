import ProfileQuery.Calendar.DateForm
import ProfileQuery.Schema.Field
import ProfileQuery.Value

/-!
# Cells

The text of a cell is read as a value according to the datatype of its column. Blank cells of
integer and date columns are missing values; in all other columns the text is the value.
-/

namespace ProfileQuery

open Calendar (DateTime)

/-- Why the text of a cell has no value of the datatype of its column. -/
inductive CellFault where
  | notInteger (raw : String) (fault : Text.IntegerFault)
  | notDate (raw : String)
deriving DecidableEq, Repr

/-- The wording of a fault. -/
def CellFault.message : CellFault → String
  | notInteger raw fault => "cannot cast '" ++ raw ++ "' to :integer: " ++ fault.message
  | notDate raw => "cannot cast '" ++ raw ++ "' to :date"

/-- The value of a cell. The words for the present moment stand for `now`. -/
def Value.ofCell (now : DateTime) (datatype : DataType) (raw : String) : Except CellFault Value :=
  match datatype with
  | .integer =>
    match Text.trim raw.toList with
    | [] => .ok .null
    | cs =>
      match Text.readInteger cs with
      | .ok n => .ok (.integer n)
      | .error fault => .error (.notInteger raw fault)
  | .date =>
    if (Text.trim raw.toList).isEmpty then .ok .null
    else
      match Calendar.readDateTime? now raw.toList with
      | some d => .ok (.date d)
      | none => .error (.notDate raw)
  | .string | .other _ => .ok (.text raw)

end ProfileQuery
