import ProfileQuery.Proofs.Calendar.DateForm

/-!
# Spelled dates

A `DateSpelling` is a date as it may be spelled: which parts it has, and the characters of each. The
readers of the written forms find exactly the spelled dates (`mem_yearFirstForm_iff`,
`mem_dayFirstForm_iff`).
-/

namespace ProfileQuery.Calendar

open ProfileQuery.Text

/-! ## Spellings -/

/-- A number of decimal digits between two bounds. -/
structure Digits (least most : Nat) where
  chars : List Char
  length : least ≤ chars.length ∧ chars.length ≤ most
  digit : ∀ c ∈ chars, isDigit c = true

/-- The number that some digits stand for. -/
def Digits.value {least most : Nat} (w : Digits least most) : Nat :=
  Nat.ofDigitChars 10 w.chars 0

/-- A mark, if it is there. -/
def markText (c : Char) (present : Bool) : List Char :=
  if present then [c] else []

/-- Digits behind a mark, if there are any. -/
def markedText {least most : Nat} (c : Char) : Option (Digits least most) → List Char
  | none => []
  | some w => c :: w.chars

/-- A day and the hyphen behind it, if there is one. -/
def dayText : Option (Digits 1 2) → List Char
  | none => []
  | some w => w.chars ++ ['-']

/-- The months by their English names, cut to three letters. -/
def monthTable : List (String × Nat) :=
  [("jan", 1), ("feb", 2), ("mar", 3), ("apr", 4), ("may", 5), ("jun", 6), ("jul", 7), ("aug", 8),
    ("sep", 9), ("oct", 10), ("nov", 11), ("dec", 12)]

/-- What may stand in the place of a month. -/
inductive MonthSpelling where
  | number (w : Digits 1 2)
  | letters (w : List Char) (length : w.length = 3) (letter : ∀ c ∈ w, c.isAlpha = true)

namespace MonthSpelling

def text : MonthSpelling → List Char
  | number w => w.chars
  | letters w _ _ => w

/-- The number of a month; three letters name one in any mix of cases, or none. -/
def number? : MonthSpelling → Option Nat
  | number w => some w.value
  | letters w _ _ => (monthTable.find? (·.1.toList == w.map Char.toLower)).map (·.2)

end MonthSpelling

/-- A year behind the month, in full or without its century. -/
inductive YearSpelling where
  | full (w : Digits 4 4)
  | short (w : Digits 2 2)

namespace YearSpelling

def text : YearSpelling → List Char
  | full w => w.chars
  | short w => w.chars

/-- A year without its century lies between 1969 and 2068. -/
def value : YearSpelling → Nat
  | full w => w.value
  | short w => if w.value < 69 then 2000 + w.value else 1900 + w.value

end YearSpelling

/-- A time of day. Any blanks may come before it, and it may have a parenthesis on either side. -/
structure TimeSpelling where
  blanks : List Char
  blank : ∀ c ∈ blanks, isBlank c = true
  opened : Bool
  hour : Digits 2 2
  minute : Digits 2 2
  second : Option (Digits 2 2)
  closed : Bool

namespace TimeSpelling

/-- The seconds, if there are any, and the closing parenthesis. -/
def tailText (t : TimeSpelling) : List Char :=
  markedText ':' t.second ++ markText ')' t.closed

/-- The time without the blanks and the opening parenthesis. -/
def clockText (t : TimeSpelling) : List Char :=
  t.hour.chars ++ ':' :: (t.minute.chars ++ t.tailText)

def text (t : TimeSpelling) : List Char :=
  t.blanks ++ (markText '(' t.opened ++ t.clockText)

/-- Hour, minute and second. -/
def numbers (t : TimeSpelling) : Nat × Nat × Nat :=
  (t.hour.value, t.minute.value, (t.second.map Digits.value).getD 0)

end TimeSpelling

/-- Year, month, and perhaps day and time. -/
structure YearFirst where
  year : Digits 4 4
  month : MonthSpelling
  day : Option (Digits 1 2)
  time : Option TimeSpelling

/-- Perhaps a day, month, a year of two or four digits, and perhaps a time. -/
structure DayFirst where
  day : Option (Digits 1 2)
  month : MonthSpelling
  year : YearSpelling
  time : Option TimeSpelling

/-- The text of a time, if there is one. -/
def timeText : Option TimeSpelling → List Char
  | none => []
  | some t => t.text

/-- The parts with a day and a time where none is spelled. -/
def spelledParts (year : Nat) (month : MonthSpelling) (day : Option (Digits 1 2))
    (time : Option TimeSpelling) : Parts :=
  let (hour, minute, second) := (time.map TimeSpelling.numbers).getD (0, 0, 0)
  ⟨year, month.number?, (day.map Digits.value).getD 1, hour, minute, second⟩

namespace YearFirst

/-- What follows the month. -/
def tailText (s : YearFirst) : List Char :=
  markedText '-' s.day ++ timeText s.time

def text (s : YearFirst) : List Char :=
  s.year.chars ++ '-' :: (s.month.text ++ s.tailText)

def parts (s : YearFirst) : Parts :=
  spelledParts s.year.value s.month s.day s.time

end YearFirst

namespace DayFirst

/-- What follows the day. -/
def tailText (s : DayFirst) : List Char :=
  s.month.text ++ '-' :: (s.year.text ++ timeText s.time)

def text (s : DayFirst) : List Char :=
  dayText s.day ++ s.tailText

def parts (s : DayFirst) : Parts :=
  spelledParts s.year.value s.month s.day s.time

end DayFirst

/-- A date in one of its forms. -/
inductive DateSpelling where
  | yearFirst (s : YearFirst)
  | dayFirst (s : DayFirst)

namespace DateSpelling

def text : DateSpelling → List Char
  | yearFirst s => s.text
  | dayFirst s => s.text

def parts : DateSpelling → Parts
  | yearFirst s => s.parts
  | dayFirst s => s.parts

end DateSpelling

/-! ## What the readers find -/

namespace Reader

theorem mem_one_iff {p : Char → Bool} {c : Char} {cs rest : List Char} :
    (c, rest) ∈ one p cs ↔ cs = c :: rest ∧ p c = true := by
  constructor
  · exact mem_one
  · rintro ⟨rfl, hc⟩
    simp [one, hc]

theorem mem_mark_iff {c : Char} {cs rest : List Char} :
    ((), rest) ∈ mark c cs ↔ cs = c :: rest := by
  constructor
  · intro h
    obtain ⟨d, mid, hd, h⟩ := mem_bind.mp h
    obtain ⟨-, rfl⟩ := mem_pure.mp h
    obtain ⟨rfl, heq⟩ := mem_one_iff.mp hd
    rw [eq_of_beq heq]
  · rintro rfl
    exact mem_bind.mpr ⟨c, rest, mem_one_iff.mpr ⟨rfl, beq_self_eq_true c⟩, mem_pure.mpr ⟨rfl, rfl⟩⟩

theorem mem_optional_iff {α : Type} {r : Reader α} {o : Option α} {cs rest : List Char} :
    (o, rest) ∈ optional r cs ↔ (∃ a, o = some a ∧ (a, rest) ∈ r cs) ∨ (o = none ∧ rest = cs) := by
  rw [optional, mem_orElse, mem_bind, mem_pure]
  refine or_congr ⟨?_, ?_⟩ Iff.rfl
  · rintro ⟨a, mid, ha, h⟩
    obtain ⟨rfl, rfl⟩ := mem_pure.mp h
    exact ⟨a, rfl, ha⟩
  · rintro ⟨a, rfl, ha⟩
    exact ⟨a, rest, ha, mem_pure.mpr ⟨rfl, rfl⟩⟩

theorem mem_blanks_iff {cs rest : List Char} :
    ((), rest) ∈ blanks cs ↔ ∃ bs, (∀ c ∈ bs, isBlank c = true) ∧ cs = bs ++ rest := by
  induction cs with
  | nil =>
    constructor
    · intro h
      obtain rfl : rest = [] := by simpa [blanks] using h
      exact ⟨[], by simp, rfl⟩
    · rintro ⟨bs, -, heq⟩
      obtain ⟨-, rfl⟩ := List.append_eq_nil_iff.mp heq.symm
      simp [blanks]
  | cons c cs ih =>
    rw [blanks]
    cases hc : isBlank c with
    | false =>
      constructor
      · intro h
        obtain rfl : rest = c :: cs := by simpa using h
        exact ⟨[], by simp, rfl⟩
      · rintro ⟨bs, hbs, heq⟩
        cases bs with
        | nil => simp [heq]
        | cons b bs =>
          obtain ⟨rfl, -⟩ := List.cons.inj heq
          have := hbs c List.mem_cons_self
          rw [hc] at this
          cases this
    | true =>
      rw [if_pos rfl, List.mem_append, ih, List.mem_singleton]
      constructor
      · rintro (⟨bs, hbs, rfl⟩ | h)
        · exact ⟨c :: bs, List.forall_mem_cons.mpr ⟨hc, hbs⟩, rfl⟩
        · obtain ⟨-, rfl⟩ := Prod.mk.inj h
          exact ⟨[], by simp, rfl⟩
      · rintro ⟨bs, hbs, heq⟩
        cases bs with
        | nil => exact .inr (by rw [heq]; rfl)
        | cons b bs =>
          obtain ⟨rfl, rfl⟩ := List.cons.inj heq
          exact .inl ⟨bs, (List.forall_mem_cons.mp hbs).2, rfl⟩

theorem mem_digits_iff {n : Nat} {w cs rest : List Char} :
    (w, rest) ∈ digits n cs ↔ w.length = n ∧ cs = w ++ rest ∧ ∀ c ∈ w, isDigit c = true := by
  refine ⟨mem_digits, ?_⟩
  rintro ⟨rfl, rfl, hw⟩
  obtain ⟨others, heq⟩ := first_iff.mp (first_digits hw rest)
  rw [heq]
  exact List.mem_cons_self

theorem mem_number_iff {n a : Nat} {cs rest : List Char} :
    (a, rest) ∈ number n cs ↔ ∃ w : Digits n n, cs = w.chars ++ rest ∧ a = w.value := by
  rw [number, mem_bind]
  constructor
  · rintro ⟨w, mid, hw, h⟩
    obtain ⟨rfl, rfl⟩ := mem_pure.mp h
    obtain ⟨hlen, rfl, hdigit⟩ := mem_digits_iff.mp hw
    exact ⟨⟨w, ⟨hlen.ge, hlen.le⟩, hdigit⟩, rfl, digitsValue_eq hdigit⟩
  · rintro ⟨w, rfl, rfl⟩
    refine ⟨w.chars, rest, ?_, mem_pure.mpr ⟨(digitsValue_eq w.digit).symm, rfl⟩⟩
    exact mem_digits_iff.mpr ⟨Nat.le_antisymm w.length.2 w.length.1, rfl, w.digit⟩

end Reader

open Reader

variable {cs rest : List Char}

/-- Digits as they stand, with other bounds for their number. -/
def Digits.bounded {least most : Nat} (w : Digits least most) (least' most' : Nat)
    (h : least' ≤ w.chars.length ∧ w.chars.length ≤ most') : Digits least' most' :=
  ⟨w.chars, h, w.digit⟩

theorem mem_shortNumber_iff {a : Nat} :
    (a, rest) ∈ shortNumber cs ↔ ∃ w : Digits 1 2, cs = w.chars ++ rest ∧ a = w.value := by
  rw [shortNumber, mem_orElse, mem_number_iff, mem_number_iff]
  constructor
  · rintro (⟨w, hcs, ha⟩ | ⟨w, hcs, ha⟩)
    · exact ⟨w.bounded 1 2 ⟨by have := w.length; omega, w.length.2⟩, hcs, ha⟩
    · exact ⟨w.bounded 1 2 ⟨w.length.1, by have := w.length; omega⟩, hcs, ha⟩
  · rintro ⟨w, hcs, ha⟩
    have hlength := w.length
    rcases (by omega : w.chars.length = 2 ∨ w.chars.length = 1) with htwo | hone
    · exact .inl ⟨w.bounded 2 2 ⟨htwo.ge, htwo.le⟩, hcs, ha⟩
    · exact .inr ⟨w.bounded 1 1 ⟨hone.ge, hone.le⟩, hcs, ha⟩

theorem findIdx?_eq_find? {α : Type} (p : α → Bool) (xs : List α) (start : Nat) :
    (xs.findIdx? p).map (· + start) = ((xs.zipIdx start).find? (p ·.1)).map (·.2) := by
  induction xs generalizing start with
  | nil => rfl
  | cons x xs ih =>
    rw [List.findIdx?_cons, List.zipIdx_cons, List.find?_cons]
    cases p x with
    | true => simp
    | false =>
      simp only [Bool.false_eq_true, if_false, ← ih, Option.map_map]
      congr 1
      funext n
      show n + 1 + start = n + (start + 1)
      omega

/-- The months by name are those of the table. -/
theorem monthNumber?_eq (w : List Char) :
    monthNumber? w = (monthTable.find? (·.1.toList == w.map Char.toLower)).map (·.2) :=
  findIdx?_eq_find? _ monthNames 1

theorem mem_monthForm_iff {month : Option Nat} :
    (month, rest) ∈ monthForm cs ↔ ∃ m : MonthSpelling, cs = m.text ++ rest ∧ month = m.number? := by
  rw [monthForm, mem_orElse, mem_bind]
  constructor
  · rintro (⟨n, mid, hn, h⟩ | h)
    · obtain ⟨rfl, rfl⟩ := mem_pure.mp h
      obtain ⟨w, rfl, rfl⟩ := mem_shortNumber_iff.mp hn
      exact ⟨.number w, rfl, rfl⟩
    · obtain ⟨a, mid, ha, h⟩ := mem_bind.mp h
      obtain ⟨b, mid, hb, h⟩ := mem_bind.mp h
      obtain ⟨c, mid, hc, h⟩ := mem_bind.mp h
      obtain ⟨rfl, rfl⟩ := mem_pure.mp h
      obtain ⟨rfl, ha'⟩ := mem_one_iff.mp ha
      obtain ⟨rfl, hb'⟩ := mem_one_iff.mp hb
      obtain ⟨rfl, hc'⟩ := mem_one_iff.mp hc
      exact ⟨.letters [a, b, c] rfl (by simp [ha', hb', hc']), rfl, monthNumber?_eq _⟩
  · rintro ⟨m, rfl, rfl⟩
    cases m with
    | number w =>
      exact .inl ⟨w.value, rest, mem_shortNumber_iff.mpr ⟨w, rfl, rfl⟩, mem_pure.mpr ⟨rfl, rfl⟩⟩
    | letters w length letter =>
      obtain ⟨a, b, c, rfl⟩ := List.length_eq_three.mp length
      simp only [List.forall_mem_cons] at letter
      obtain ⟨ha, hb, hc, -⟩ := letter
      refine .inr (mem_bind.mpr ⟨a, b :: c :: rest, mem_one_iff.mpr ⟨rfl, ha⟩, ?_⟩)
      refine mem_bind.mpr ⟨b, c :: rest, mem_one_iff.mpr ⟨rfl, hb⟩, ?_⟩
      refine mem_bind.mpr ⟨c, rest, mem_one_iff.mpr ⟨rfl, hc⟩, mem_pure.mpr ⟨?_, rfl⟩⟩
      exact (monthNumber?_eq _).symm

theorem mem_optional_mark_iff {c : Char} {o : Option Unit} :
    (o, rest) ∈ optional (mark c) cs ↔ cs = markText c o.isSome ++ rest := by
  rw [mem_optional_iff]
  cases o with
  | none => simp [markText, eq_comm]
  | some u =>
    have hiff : (∃ a, some u = some a ∧ (a, rest) ∈ mark c cs) ↔ cs = c :: rest := by
      rw [← mem_mark_iff]
      exact ⟨fun ⟨_, _, h⟩ => h, fun h => ⟨u, rfl, h⟩⟩
    simpa [markText] using hiff

theorem mem_optional_mark (c : Char) (present : Bool) :
    ((if present then some () else none), rest) ∈ optional (mark c) (markText c present ++ rest) := by
  cases present <;> exact mem_optional_mark_iff.mpr rfl

/-- Something behind a mark. -/
theorem mem_behindMark_iff {α : Type} {r : Reader α} {c : Char} {a : α} :
    (a, rest) ∈ (mark c >>= fun _ => r) cs ↔ ∃ mid, cs = c :: mid ∧ (a, rest) ∈ r mid := by
  rw [mem_bind]
  constructor
  · rintro ⟨_, mid, hmark, h⟩
    exact ⟨mid, mem_mark_iff.mp hmark, h⟩
  · rintro ⟨mid, rfl, h⟩
    exact ⟨(), mid, mem_mark_iff.mpr rfl, h⟩

/-- A number behind a mark, or nothing. -/
theorem mem_optional_number_iff {least most : Nat} {r : Reader Nat} {c : Char} {o : Option Nat}
    (hr : ∀ {a cs}, (a, rest) ∈ r cs ↔
      ∃ w : Digits least most, cs = w.chars ++ rest ∧ a = w.value) :
    (o, rest) ∈ optional (mark c >>= fun _ => r) cs ↔
      ∃ w : Option (Digits least most), cs = markedText c w ++ rest ∧ o = w.map Digits.value := by
  rw [mem_optional_iff]
  constructor
  · rintro (⟨a, rfl, h⟩ | ⟨rfl, rfl⟩)
    · obtain ⟨mid, hcs, hmid⟩ := mem_behindMark_iff.mp h
      obtain ⟨w, rfl, rfl⟩ := hr.mp hmid
      exact ⟨some w, hcs, rfl⟩
    · exact ⟨none, rfl, rfl⟩
  · rintro ⟨_ | w, rfl, rfl⟩
    · exact .inr ⟨rfl, rfl⟩
    · exact .inl ⟨w.value, rfl, mem_behindMark_iff.mpr ⟨_, rfl, hr.mpr ⟨w, rfl, rfl⟩⟩⟩

theorem mem_timeForm_iff {time : Nat × Nat × Nat} :
    (time, rest) ∈ timeForm cs ↔ ∃ t : TimeSpelling, cs = t.text ++ rest ∧ time = t.numbers := by
  constructor
  · intro h
    obtain ⟨_, mid, hblanks, h⟩ := mem_bind.mp h
    obtain ⟨opened, mid₁, hopened, h⟩ := mem_bind.mp h
    obtain ⟨hour, mid₂, hhour, h⟩ := mem_bind.mp h
    obtain ⟨mid₃, hcolon, h⟩ := mem_behindMark_iff.mp h
    obtain ⟨minute, mid₄, hminute, h⟩ := mem_bind.mp h
    obtain ⟨second, mid₅, hsecond, h⟩ := mem_bind.mp h
    obtain ⟨closed, mid₆, hclosed, h⟩ := mem_bind.mp h
    obtain ⟨rfl, rfl⟩ := mem_pure.mp h
    obtain ⟨bs, hbs, rfl⟩ := mem_blanks_iff.mp hblanks
    obtain rfl := mem_optional_mark_iff.mp hopened
    obtain ⟨hour, rfl, rfl⟩ := mem_number_iff.mp hhour
    subst hcolon
    obtain ⟨minute, rfl, rfl⟩ := mem_number_iff.mp hminute
    obtain ⟨second, rfl, rfl⟩ := (mem_optional_number_iff mem_number_iff).mp hsecond
    obtain rfl := mem_optional_mark_iff.mp hclosed
    refine ⟨⟨bs, hbs, opened.isSome, hour, minute, second, closed.isSome⟩, ?_, rfl⟩
    simp [TimeSpelling.text, TimeSpelling.clockText, TimeSpelling.tailText]
  · rintro ⟨⟨bs, hbs, opened, hour, minute, second, closed⟩, rfl, rfl⟩
    simp only [TimeSpelling.text, TimeSpelling.clockText, TimeSpelling.tailText, List.append_assoc,
      List.cons_append]
    refine mem_bind.mpr ⟨(), _, mem_blanks_iff.mpr ⟨bs, hbs, rfl⟩, ?_⟩
    refine mem_bind.mpr ⟨_, _, mem_optional_mark '(' opened, ?_⟩
    refine mem_bind.mpr ⟨hour.value, _, mem_number_iff.mpr ⟨hour, rfl, rfl⟩, ?_⟩
    refine mem_behindMark_iff.mpr ⟨_, rfl, ?_⟩
    refine mem_bind.mpr ⟨minute.value, _, mem_number_iff.mpr ⟨minute, rfl, rfl⟩, ?_⟩
    refine mem_bind.mpr ⟨_, _, (mem_optional_number_iff mem_number_iff).mpr ⟨second, rfl, rfl⟩, ?_⟩
    refine mem_bind.mpr ⟨_, _, mem_optional_mark ')' closed, ?_⟩
    exact mem_pure.mpr ⟨rfl, rfl⟩

/-- A time, or nothing. -/
theorem mem_optional_timeForm_iff {o : Option (Nat × Nat × Nat)} :
    (o, rest) ∈ optional timeForm cs ↔
      ∃ t : Option TimeSpelling, cs = timeText t ++ rest ∧ o = t.map TimeSpelling.numbers := by
  rw [mem_optional_iff]
  constructor
  · rintro (⟨a, rfl, h⟩ | ⟨rfl, rfl⟩)
    · obtain ⟨t, rfl, rfl⟩ := mem_timeForm_iff.mp h
      exact ⟨some t, rfl, rfl⟩
    · exact ⟨none, rfl, rfl⟩
  · rintro ⟨_ | t, rfl, rfl⟩
    · exact .inr ⟨rfl, rfl⟩
    · exact .inl ⟨t.numbers, rfl, mem_timeForm_iff.mpr ⟨t, rfl, rfl⟩⟩

theorem mem_yearFirstForm_iff {p : Parts} :
    (p, rest) ∈ yearFirstForm cs ↔ ∃ s : YearFirst, cs = s.text ++ rest ∧ p = s.parts := by
  constructor
  · intro h
    obtain ⟨year, mid, hyear, h⟩ := mem_bind.mp h
    obtain ⟨mid₁, hmark, h⟩ := mem_behindMark_iff.mp h
    obtain ⟨month, mid₂, hmonth, h⟩ := mem_bind.mp h
    obtain ⟨day, mid₃, hday, h⟩ := mem_bind.mp h
    obtain ⟨time, mid₄, htime, h⟩ := mem_bind.mp h
    obtain ⟨rfl, rfl⟩ := mem_pure.mp h
    obtain ⟨year, rfl, rfl⟩ := mem_number_iff.mp hyear
    subst hmark
    obtain ⟨month, rfl, rfl⟩ := mem_monthForm_iff.mp hmonth
    obtain ⟨day, rfl, rfl⟩ := (mem_optional_number_iff mem_shortNumber_iff).mp hday
    obtain ⟨time, rfl, rfl⟩ := mem_optional_timeForm_iff.mp htime
    exact ⟨⟨year, month, day, time⟩, by simp [YearFirst.text, YearFirst.tailText], rfl⟩
  · rintro ⟨⟨year, month, day, time⟩, rfl, rfl⟩
    simp only [YearFirst.text, YearFirst.tailText, List.append_assoc, List.cons_append]
    refine mem_bind.mpr ⟨year.value, _, mem_number_iff.mpr ⟨year, rfl, rfl⟩, ?_⟩
    refine mem_behindMark_iff.mpr ⟨_, rfl, ?_⟩
    refine mem_bind.mpr ⟨month.number?, _, mem_monthForm_iff.mpr ⟨month, rfl, rfl⟩, ?_⟩
    refine mem_bind.mpr ⟨_, _, (mem_optional_number_iff mem_shortNumber_iff).mpr ⟨day, rfl, rfl⟩, ?_⟩
    refine mem_bind.mpr ⟨_, _, mem_optional_timeForm_iff.mpr ⟨time, rfl, rfl⟩, ?_⟩
    exact mem_pure.mpr ⟨rfl, rfl⟩

theorem mem_optional_day_iff {o : Option Nat} :
    (o, rest) ∈ optional (shortNumber >>= fun n => mark '-' >>= fun _ => pure n) cs ↔
      ∃ w : Option (Digits 1 2), cs = dayText w ++ rest ∧ o = w.map Digits.value := by
  rw [mem_optional_iff]
  constructor
  · rintro (⟨a, rfl, h⟩ | ⟨rfl, rfl⟩)
    · obtain ⟨n, mid, hn, h⟩ := mem_bind.mp h
      obtain ⟨mid₁, hmark, h⟩ := mem_behindMark_iff.mp h
      obtain ⟨rfl, rfl⟩ := mem_pure.mp h
      obtain ⟨w, rfl, rfl⟩ := mem_shortNumber_iff.mp hn
      exact ⟨some w, by simp [dayText, hmark], rfl⟩
    · exact ⟨none, rfl, rfl⟩
  · rintro ⟨_ | w, rfl, rfl⟩
    · exact .inr ⟨rfl, rfl⟩
    · have hw : dayText (some w) ++ rest = w.chars ++ '-' :: rest := by simp [dayText]
      refine .inl ⟨w.value, rfl, mem_bind.mpr ⟨w.value, _, mem_shortNumber_iff.mpr ⟨w, hw, rfl⟩, ?_⟩⟩
      exact mem_behindMark_iff.mpr ⟨rest, rfl, mem_pure.mpr ⟨rfl, rfl⟩⟩

theorem mem_year_iff {y : Nat} :
    (y, rest) ∈ orElse (number 4) (number 2 >>= fun n => pure (fullYear n)) cs ↔
      ∃ w : YearSpelling, cs = w.text ++ rest ∧ y = w.value := by
  rw [mem_orElse, mem_bind]
  constructor
  · rintro (h | ⟨n, mid, hn, h⟩)
    · obtain ⟨w, rfl, rfl⟩ := mem_number_iff.mp h
      exact ⟨.full w, rfl, rfl⟩
    · obtain ⟨rfl, rfl⟩ := mem_pure.mp h
      obtain ⟨w, rfl, rfl⟩ := mem_number_iff.mp hn
      exact ⟨.short w, rfl, rfl⟩
  · rintro ⟨w | w, rfl, rfl⟩
    · exact .inl (mem_number_iff.mpr ⟨w, rfl, rfl⟩)
    · exact .inr ⟨w.value, rest, mem_number_iff.mpr ⟨w, rfl, rfl⟩, mem_pure.mpr ⟨rfl, rfl⟩⟩

theorem mem_dayFirstForm_iff {p : Parts} :
    (p, rest) ∈ dayFirstForm cs ↔ ∃ s : DayFirst, cs = s.text ++ rest ∧ p = s.parts := by
  constructor
  · intro h
    obtain ⟨day, mid, hday, h⟩ := mem_bind.mp h
    obtain ⟨month, mid₁, hmonth, h⟩ := mem_bind.mp h
    obtain ⟨mid₂, hmark, h⟩ := mem_behindMark_iff.mp h
    obtain ⟨year, mid₃, hyear, h⟩ := mem_bind.mp h
    obtain ⟨time, mid₄, htime, h⟩ := mem_bind.mp h
    obtain ⟨rfl, rfl⟩ := mem_pure.mp h
    obtain ⟨day, rfl, rfl⟩ := mem_optional_day_iff.mp hday
    obtain ⟨month, rfl, rfl⟩ := mem_monthForm_iff.mp hmonth
    subst hmark
    obtain ⟨year, rfl, rfl⟩ := mem_year_iff.mp hyear
    obtain ⟨time, rfl, rfl⟩ := mem_optional_timeForm_iff.mp htime
    exact ⟨⟨day, month, year, time⟩, by simp [DayFirst.text, DayFirst.tailText], rfl⟩
  · rintro ⟨⟨day, month, year, time⟩, rfl, rfl⟩
    simp only [DayFirst.text, DayFirst.tailText, List.append_assoc, List.cons_append]
    refine mem_bind.mpr ⟨_, _, mem_optional_day_iff.mpr ⟨day, rfl, rfl⟩, ?_⟩
    refine mem_bind.mpr ⟨month.number?, _, mem_monthForm_iff.mpr ⟨month, rfl, rfl⟩, ?_⟩
    refine mem_behindMark_iff.mpr ⟨_, rfl, ?_⟩
    refine mem_bind.mpr ⟨year.value, _, mem_year_iff.mpr ⟨year, rfl, rfl⟩, ?_⟩
    refine mem_bind.mpr ⟨_, _, mem_optional_timeForm_iff.mpr ⟨time, rfl, rfl⟩, ?_⟩
    exact mem_pure.mpr ⟨rfl, rfl⟩

end ProfileQuery.Calendar
