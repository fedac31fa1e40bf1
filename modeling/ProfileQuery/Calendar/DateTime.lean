import ProfileQuery.Text.Integer

/-!
# Dates and times of day

Dates of the proleptic Gregorian calendar and times of day without a time zone. A value of these
types is always a real date and a real time: the conditions are part of the types, and `Date.of?`
and `TimeOfDay.of?` are the ways to get there from plain numbers.
-/

namespace ProfileQuery.Calendar

open ProfileQuery.Text (padded)

/-- Every fourth year is a leap year, but of the full centuries only every fourth. -/
def isLeapYear (year : Int) : Bool :=
  year % 4 == 0 && (year % 100 != 0 || year % 400 == 0)

/-- The number of days of a month; months outside the year have none. -/
def daysInMonth (year : Int) : Nat → Nat
  | 2 => if isLeapYear year then 29 else 28
  | 4 | 6 | 9 | 11 => 30
  | 1 | 3 | 5 | 7 | 8 | 10 | 12 => 31
  | _ => 0

/-- The first year that can be represented. -/
def firstYear : Int := -262143

/-- The last year that can be represented. -/
def lastYear : Int := 262142

/-- A day of the calendar. -/
structure Date where
  year : Int
  month : Nat
  day : Nat
  year_range : firstYear ≤ year ∧ year ≤ lastYear
  day_range : 1 ≤ day ∧ day ≤ daysInMonth year month
deriving DecidableEq

/-- The date with the given numbers, if the calendar has it. -/
def Date.of? (year : Int) (month day : Nat) : Option Date :=
  if hy : firstYear ≤ year ∧ year ≤ lastYear then
    if hd : 1 ≤ day ∧ day ≤ daysInMonth year month then some ⟨year, month, day, hy, hd⟩ else none
  else none

/-- A thousand million: the nanoseconds of a second. -/
def nanosPerSecond : Nat := 1000000000

/-- A time of day. In the last second of a minute the nanoseconds may run through a second time,
which is the leap second. -/
structure TimeOfDay where
  hour : Nat
  minute : Nat
  second : Nat
  nanos : Nat
  clock_range : hour < 24 ∧ minute < 60 ∧ second < 60
  nanos_range : nanos < nanosPerSecond ∨ (second = 59 ∧ nanos < 2 * nanosPerSecond)
deriving DecidableEq

/-- The time with the given numbers, if a day has it. -/
def TimeOfDay.of? (hour minute second nanos : Nat) : Option TimeOfDay :=
  if hc : hour < 24 ∧ minute < 60 ∧ second < 60 then
    if hn : nanos < nanosPerSecond ∨ (second = 59 ∧ nanos < 2 * nanosPerSecond) then
      some ⟨hour, minute, second, nanos, hc, hn⟩
    else none
  else none

/-- Whether hour, minute and second are all zero. -/
def TimeOfDay.isMidnight (t : TimeOfDay) : Bool :=
  t.hour == 0 && t.minute == 0 && t.second == 0

/-- The second as it is shown: 60 during a leap second. -/
def TimeOfDay.shownSecond (t : TimeOfDay) : Nat :=
  t.second + t.nanos / nanosPerSecond

/-- A date together with a time of day. -/
structure DateTime where
  date : Date
  time : TimeOfDay
deriving DecidableEq

/-! ## Order -/

/-- Earlier dates come first. -/
def Date.compare (a b : Date) : Ordering :=
  (Ord.compare a.year b.year).then ((Ord.compare a.month b.month).then (Ord.compare a.day b.day))

/-- Earlier times come first. -/
def TimeOfDay.compare (a b : TimeOfDay) : Ordering :=
  (Ord.compare a.hour b.hour).then <| (Ord.compare a.minute b.minute).then <|
    (Ord.compare a.second b.second).then (Ord.compare a.nanos b.nanos)

/-- Dates decide, then times of day. -/
def DateTime.compare (a b : DateTime) : Ordering :=
  (a.date.compare b.date).then (a.time.compare b.time)

instance : Hashable DateTime where
  hash d := mixHash (hash d.date.year) <| mixHash (hash (d.date.month, d.date.day)) <|
    hash (d.time.hour, d.time.minute, d.time.second, d.time.nanos)

/-! ## Writing -/

/-- A year in four digits; outside of 0 to 9999 with its sign. -/
def yearText (year : Int) : List Char :=
  if 0 ≤ year ∧ year ≤ 9999 then padded 4 year.natAbs
  else (if year < 0 then '-' else '+') :: padded 4 year.natAbs

/-- Year, month and day, separated by hyphens. -/
def Date.text (d : Date) : List Char :=
  yearText d.year ++ '-' :: padded 2 d.month ++ '-' :: padded 2 d.day

/-- Hour, minute and second, separated by colons. -/
def TimeOfDay.text (t : TimeOfDay) : List Char :=
  padded 2 t.hour ++ ':' :: padded 2 t.minute ++ ':' :: padded 2 t.shownSecond

/-- The date, and after a space the time of day unless it is midnight. -/
def DateTime.text (d : DateTime) : List Char :=
  if d.time.isMidnight then d.date.text else d.date.text ++ ' ' :: d.time.text

end ProfileQuery.Calendar
