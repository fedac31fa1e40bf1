/-!
# Decimal integers

Reading and writing signed 64-bit integers in decimal. A text is read from left to right; the first
character at which it goes wrong decides the fault, and at each character a wrong digit is seen
before the range is.
-/

namespace ProfileQuery.Text

/-- Why a text is not a signed 64-bit integer. -/
inductive IntegerFault where
  /-- There is nothing to read. -/
  | empty
  /-- Some character is not a decimal digit, or a sign stands alone. -/
  | invalidDigit
  /-- The value is above the largest integer. -/
  | tooLarge
  /-- The value is below the smallest integer. -/
  | tooSmall
deriving DecidableEq, Repr

/-- The wording of a fault. -/
def IntegerFault.message : IntegerFault → String
  | .empty => "cannot parse integer from empty string"
  | .invalidDigit => "invalid digit found in string"
  | .tooLarge => "number too large to fit in target type"
  | .tooSmall => "number too small to fit in target type"

/-- The value of a decimal digit. -/
def digit? (c : Char) : Option Nat :=
  if '0' ≤ c ∧ c ≤ '9' then some (c.toNat - '0'.toNat) else none

/-- Whether a character is one of the ten decimal digits of ASCII. -/
def isDigit (c : Char) : Bool :=
  '0' ≤ c && c ≤ '9'

/-- The smallest signed 64-bit integer. -/
def minInteger : Int := -9223372036854775808

/-- The largest signed 64-bit integer. -/
def maxInteger : Int := 9223372036854775807

/-- Reads the digits that follow a sign onto the value of the digits before them. -/
def readDigits (negative : Bool) (value : Int) : List Char → Except IntegerFault Int
  | [] => .ok value
  | c :: cs =>
    match digit? c with
    | none => .error .invalidDigit
    | some d =>
      let next := if negative then value * 10 - d else value * 10 + d
      if maxInteger < next then .error .tooLarge
      else if next < minInteger then .error .tooSmall
      else readDigits negative next cs

/-- Reads an optional sign and one or more digits. -/
def readSigned : List Char → Except IntegerFault Int
  | [] => .error .empty
  | ['+'] | ['-'] => .error .invalidDigit
  | '-' :: cs => readDigits true 0 cs
  | '+' :: cs => readDigits false 0 cs
  | cs => readDigits false 0 cs

/-- Reads an integer as it stands in a cell or a query: plus signs in front do not count, however
many there are. -/
def readInteger (cs : List Char) : Except IntegerFault Int64 :=
  (readSigned (cs.dropWhile (· == '+'))).map Int64.ofInt

/-- The decimal digits of a natural number, at least as many as `width`, filled up with zeros. -/
def padded (width n : Nat) : List Char :=
  let digits := Nat.toDigits 10 n
  List.replicate (width - digits.length) '0' ++ digits

/-- The decimal text of an integer, with a minus sign when it is negative. -/
def writeInteger (n : Int) : String :=
  String.ofList (if n < 0 then '-' :: Nat.toDigits 10 n.natAbs else Nat.toDigits 10 n.natAbs)

/-- The value of a run of digits; characters that are no digits do not count. -/
def digitsValue (cs : List Char) : Nat :=
  cs.foldl (fun value c => value * 10 + (digit? c).getD 0) 0

end ProfileQuery.Text
