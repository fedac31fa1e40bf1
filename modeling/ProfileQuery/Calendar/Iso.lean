import ProfileQuery.Calendar.DateTime
import ProfileQuery.Text.Blank

/-!
# The exchange form of dates

Dates are exchanged as `YYYY-MM-DDTHH:MM:SS`, with a fraction of the second only where there is one.
Reading allows blanks around the numbers and leading zeros to be missing; all six numbers must be
there.
-/

namespace ProfileQuery.Calendar

open ProfileQuery.Text

/-- The fraction of the second in the fewest groups of three digits. -/
def TimeOfDay.fractionText (t : TimeOfDay) : List Char :=
  let fraction := t.nanos % nanosPerSecond
  if fraction = 0 then []
  else if fraction % 1000000 = 0 then '.' :: padded 3 (fraction / 1000000)
  else if fraction % 1000 = 0 then '.' :: padded 6 (fraction / 1000)
  else '.' :: padded 9 fraction

/-- The exchange form of a date. -/
def DateTime.iso (d : DateTime) : String :=
  String.ofList (d.date.text ++ 'T' :: d.time.text ++ d.time.fractionText)

/-- Reads one number of at least one and at most `width` digits, after any blanks. -/
def readNumber (width : Nat) (cs : List Char) : Option (Nat × List Char) :=
  let digits := ((trimLeft cs).take width).takeWhile isDigit
  if digits.isEmpty then none
  else some (digitsValue digits, (trimLeft cs).drop digits.length)

/-- Reads a year: four digits at most, or any number of digits after a sign. -/
def readYear (cs : List Char) : Option (Int × List Char) :=
  match trimLeft cs with
  | '-' :: rest => if (rest.head?.map isDigit).getD false then
      (readNumber rest.length rest).map fun (n, rest) => (-(n : Int), rest) else none
  | '+' :: rest => if (rest.head?.map isDigit).getD false then
      (readNumber rest.length rest).map fun (n, rest) => ((n : Int), rest) else none
  | rest => (readNumber 4 rest).map fun (n, rest) => ((n : Int), rest)

/-- Reads one character, after any blanks. -/
def readMark (mark : Char) (cs : List Char) : Option (List Char) :=
  match trimLeft cs with
  | c :: rest => if c = mark then some rest else none
  | [] => none

/-- Reads the fraction of a second, in nanoseconds; digits beyond the ninth do not count. -/
def readFraction : List Char → Option (Nat × List Char)
  | '.' :: rest =>
    let digits := rest.takeWhile isDigit
    if digits.isEmpty then none
    else some (digitsValue ((digits.take 9).rightpad 9 '0'), rest.drop digits.length)
  | rest => some (0, rest)

/-- Reads the exchange form of a date. The second 60 is the leap second. -/
def DateTime.ofIso? (text : String) : Option DateTime := do
  let (year, cs) ← readYear text.toList
  let (month, cs) ← readNumber 2 (← readMark '-' cs)
  let (day, cs) ← readNumber 2 (← readMark '-' cs)
  let (hour, cs) ← readNumber 2 (← readMark 'T' cs)
  let (minute, cs) ← readNumber 2 (← readMark ':' cs)
  let (second, cs) ← readNumber 2 (← readMark ':' cs)
  let (fraction, cs) ← readFraction cs
  guard (trimLeft cs).isEmpty
  let date ← Date.of? year month day
  let time ← if second = 60 then TimeOfDay.of? hour minute 59 (nanosPerSecond + fraction)
    else TimeOfDay.of? hour minute second fraction
  return ⟨date, time⟩

end ProfileQuery.Calendar
