import ProfileQuery.Calendar.DateTime
import ProfileQuery.Text.Blank

/-!
# Written forms of dates

The forms in which dates are written in profiles and in queries: year first (`2018-10-07`,
`2018-oct`) or day first (`7-oct-18`, `10-2018`), both with an optional time of day (`13:45`,
`(13:45:12)`). A form is read by trying every way to divide the text among its parts, longer parts
before shorter ones; the first way that uses up the text counts, and only then is the calendar asked
whether the parts name a date.
-/

namespace ProfileQuery.Calendar

open ProfileQuery.Text

/-! ## Readers -/

/-- All ways to read something from the front of a text, in order of preference, each with the text
that is left. -/
def Reader (α : Type) : Type := List Char → List (α × List Char)

namespace Reader

instance : Monad Reader where
  pure a := fun cs => [(a, cs)]
  bind r f := fun cs => (r cs).flatMap fun (a, rest) => f a rest

/-- The ways of the first reader, then those of the second. -/
def orElse {α : Type} (r s : Reader α) : Reader α :=
  fun cs => r cs ++ s cs

/-- Reads something or, failing that, nothing. -/
def optional {α : Type} (r : Reader α) : Reader (Option α) :=
  orElse (r >>= fun a => pure (some a)) (pure none)

/-- Reads one character that satisfies the condition. -/
def one (p : Char → Bool) : Reader Char
  | [] => []
  | c :: cs => if p c then [(c, cs)] else []

/-- Reads the given character. -/
def mark (c : Char) : Reader Unit := do
  let _ ← one (· == c)

/-- Reads exactly `n` decimal digits. -/
def digits (n : Nat) : Reader (List Char) :=
  match n with
  | 0 => pure []
  | n + 1 => do
    let c ← one isDigit
    let cs ← digits n
    return c :: cs

/-- Reads the value of exactly `n` decimal digits. -/
def number (n : Nat) : Reader Nat := do
  let cs ← digits n
  return digitsValue cs

/-- Reads any number of blanks. -/
def blanks : Reader Unit
  | [] => [((), [])]
  | c :: cs => if isBlank c then blanks cs ++ [((), c :: cs)] else [((), c :: cs)]

/-- The first way to read a whole text. -/
def whole? {α : Type} (r : Reader α) (cs : List Char) : Option α :=
  ((r cs).find? (·.2.isEmpty)).map (·.1)

end Reader

/-! ## Forms -/

open Reader

/-- The parts of a written date. -/
structure Parts where
  year : Nat
  /-- Absent when three letters stand in the place of the month that name none. -/
  month : Option Nat
  day : Nat
  hour : Nat
  minute : Nat
  second : Nat
deriving DecidableEq, Repr

/-- The English month names, cut to three letters. -/
def monthNames : List String :=
  ["jan", "feb", "mar", "apr", "may", "jun", "jul", "aug", "sep", "oct", "nov", "dec"]

/-- The number of the month with the given name, in any mix of cases. -/
def monthNumber? (name : List Char) : Option Nat :=
  (monthNames.findIdx? (·.toList == name.map Char.toLower)).map (· + 1)

/-- A year of two digits lies between 1969 and 2068. -/
def fullYear (n : Nat) : Nat :=
  if n < 69 then 2000 + n else 1900 + n

/-- A number of one or two digits. -/
def shortNumber : Reader Nat :=
  orElse (number 2) (number 1)

/-- A month in one or two digits or in three letters. -/
def monthForm : Reader (Option Nat) :=
  orElse (shortNumber >>= fun n => pure (some n)) do
    let a ← one Char.isAlpha
    let b ← one Char.isAlpha
    let c ← one Char.isAlpha
    return monthNumber? [a, b, c]

/-- A time of day in two or three numbers. Blanks may come before it, and it may have a parenthesis
on either side. -/
def timeForm : Reader (Nat × Nat × Nat) := do
  blanks
  let _ ← optional (mark '(')
  let hour ← number 2
  mark ':'
  let minute ← number 2
  let second ← optional (mark ':' >>= fun _ => number 2)
  let _ ← optional (mark ')')
  return (hour, minute, second.getD 0)

/-- Year, month, and perhaps day and time. -/
def yearFirstForm : Reader Parts := do
  let year ← number 4
  mark '-'
  let month ← monthForm
  let day ← optional (mark '-' >>= fun _ => shortNumber)
  let time ← optional timeForm
  let (hour, minute, second) := time.getD (0, 0, 0)
  return ⟨year, month, day.getD 1, hour, minute, second⟩

/-- Perhaps a day, month, a year of four or two digits, and perhaps a time. -/
def dayFirstForm : Reader Parts := do
  let day ← optional (shortNumber >>= fun n => mark '-' >>= fun _ => pure n)
  let month ← monthForm
  mark '-'
  let year ← orElse (number 4) (number 2 >>= fun n => pure (fullYear n))
  let time ← optional timeForm
  let (hour, minute, second) := time.getD (0, 0, 0)
  return ⟨year, month, day.getD 1, hour, minute, second⟩

/-- The date that the parts name, if there is one. -/
def Parts.dateTime? (p : Parts) : Option DateTime := do
  let date ← Date.of? p.year (← p.month) p.day
  let time ← TimeOfDay.of? p.hour p.minute p.second 0
  return ⟨date, time⟩

/-- The parts of a date in one of its written forms. -/
def Parts.ofText? (cs : List Char) : Option Parts :=
  (yearFirstForm.whole? cs).or (dayFirstForm.whole? cs)

/-- The words that stand for the present moment. -/
def clockWords : List String :=
  ["now", "today", ":today", ":now"]

/-- Reads a date. The clock words name the moment `now`; blanks around the text do not count. -/
def readDateTime? (now : DateTime) (cs : List Char) : Option DateTime :=
  let text := trim cs
  if clockWords.any (·.toList == text) then some now
  else (Parts.ofText? text).bind Parts.dateTime?

end ProfileQuery.Calendar
