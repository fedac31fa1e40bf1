import ProfileQuery.Calendar.DateTime

/-!
# Counting days

Dates as numbers of days, and moments as numbers of seconds, since the start of 1970. Years are
counted from March, so that a leap day is the last day of its year.
-/

namespace ProfileQuery.Calendar

/-- The number of days from the start of 1970 to a date. -/
def Date.dayNumber (d : Date) : Int :=
  -- the year and the month as they count from March
  let year := if d.month ≤ 2 then d.year - 1 else d.year
  let month := if d.month ≤ 2 then d.month + 9 else d.month - 3
  let yearOfEra := year % 400
  let dayOfYear := (153 * (month : Int) + 2) / 5 + d.day - 1
  -- 400 years have 146097 days; the start of 1970 is day 719468 since March of year 0
  year / 400 * 146097 + (yearOfEra * 365 + yearOfEra / 4 - yearOfEra / 100 + dayOfYear) - 719468

/-- The date that is a number of days after the start of 1970. -/
def Date.ofDayNumber? (n : Int) : Option Date :=
  let era := (n + 719468) / 146097
  let dayOfEra := (n + 719468) % 146097
  -- leap days are taken out first: one in 4 years, none in 100, one in 400
  let yearOfEra :=
    (dayOfEra - dayOfEra / 1460 + dayOfEra / 36524 - dayOfEra / 146096) / 365
  let dayOfYear := dayOfEra - (365 * yearOfEra + yearOfEra / 4 - yearOfEra / 100)
  let month := (5 * dayOfYear + 2) / 153
  let day := dayOfYear - (153 * month + 2) / 5 + 1
  let year := yearOfEra + era * 400
  if month < 10 then Date.of? year (month + 3).toNat day.toNat
  else Date.of? (year + 1) (month - 9).toNat day.toNat

/-- The number of seconds from the start of 1970 to a moment. -/
def DateTime.seconds (d : DateTime) : Int :=
  d.date.dayNumber * 86400 + (d.time.hour * 3600 + d.time.minute * 60 + d.time.second : Nat)

/-- The moment that is a number of seconds, and of nanoseconds within the next one, after the start
of 1970. -/
def DateTime.ofSeconds? (n : Int) (nanos : Nat) : Option DateTime := do
  let rest := (n % 86400).toNat
  let date ← Date.ofDayNumber? (n / 86400)
  let time ← TimeOfDay.of? (rest / 3600) (rest / 60 % 60) (rest % 60) nanos
  return ⟨date, time⟩

end ProfileQuery.Calendar
