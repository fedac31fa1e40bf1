import ProfileQuery.Proofs.Calendar.Unambiguous

/-!
# The dates that are read

A text that is no clock word is read as a date exactly where it spells one that the calendar has, and
then as the moment that its parts name (`readDateTime?_spelled`).
-/

namespace ProfileQuery.Calendar

open ProfileQuery.Text

/-! ## Parts that name a moment -/

/-- The calendar has the date of the parts, and the day has their time. -/
structure Parts.Valid (p : Parts) : Prop where
  date : ∃ month, p.month = some month ∧ (1 ≤ month ∧ month ≤ 12) ∧
    1 ≤ p.day ∧ p.day ≤ daysInMonth p.year month
  time : p.hour < 24 ∧ p.minute < 60 ∧ p.second < 60

namespace Parts

variable {p : Parts} {d d' : DateTime}

theorem Names.valid (h : p.Names d) : p.Valid := by
  constructor
  · refine ⟨d.date.month, h.month, d.date.month_range, ?_⟩
    rw [← h.year, ← h.day]
    exact d.date.day_range
  · obtain ⟨hhour, hminute, hsecond⟩ := h.time
    rw [← hhour, ← hminute, ← hsecond]
    exact d.time.clock_range

/-- Of the years that are written all valid parts name a moment. -/
theorem Valid.exists_names (h : p.Valid) (hyear : p.year ≤ 9999) : ∃ d, p.Names d := by
  obtain ⟨month, hmonth, -, hday⟩ := h.date
  have hrange : firstYear ≤ (p.year : Int) ∧ (p.year : Int) ≤ lastYear := by
    unfold firstYear lastYear
    omega
  let date : Date := ⟨p.year, month, p.day, hrange, hday⟩
  let time : TimeOfDay := ⟨p.hour, p.minute, p.second, 0, h.time, .inl (by decide)⟩
  exact ⟨⟨date, time⟩, rfl, hmonth, rfl, ⟨rfl, rfl, rfl⟩, rfl⟩

end Parts

theorem DateSpelling.year_le (s : DateSpelling) : s.parts.year ≤ 9999 :=
  year_of_ofText? (Parts.ofText?_eq_some_iff.mpr ⟨s, rfl, rfl⟩)

/-! ## Texts that are no clock words -/

section

variable {now d : DateTime} {cs : List Char}

theorem readDateTime?_of_not_mem (h : trim cs ∉ clockWords.map String.toList) :
    readDateTime? now cs = (Parts.ofText? (trim cs)).bind Parts.dateTime? := by
  have hword : clockWords.any (·.toList == trim cs) = false := by
    rw [List.any_eq_false]
    intro word hmem heq
    exact h (List.mem_map.mpr ⟨word, hmem, eq_of_beq heq⟩)
  unfold readDateTime?
  simp only [hword, Bool.false_eq_true, if_false]

theorem readDateTime?_eq_some_iff_names (h : trim cs ∉ clockWords.map String.toList) :
    readDateTime? now cs = some d ↔
      ∃ s : DateSpelling, s.text = trim cs ∧ s.parts.Names d := by
  simp only [readDateTime?_of_not_mem h, Option.bind_eq_some_iff, Parts.ofText?_eq_some_iff,
    Parts.dateTime?_eq_some_iff]
  constructor
  · rintro ⟨-, ⟨s, htext, rfl⟩, hd⟩
    exact ⟨s, htext, hd⟩
  · rintro ⟨s, htext, hd⟩
    exact ⟨s.parts, ⟨s, htext, rfl⟩, hd⟩

end

/-- A text that is no clock word is read as the moment that its parts name, if it spells a date; it
is read at all exactly where these parts are valid. However a text may be divided, the parts are the
same. -/
theorem readDateTime?_spelled (now : DateTime) (cs : List Char)
    (h : trim cs ∉ clockWords.map String.toList) :
    (∀ d, readDateTime? now cs = some d ↔
      ∃ s : DateSpelling, s.text = trim cs ∧ s.parts.Names d) ∧
    ((∃ d, readDateTime? now cs = some d) ↔
      ∃ s : DateSpelling, s.text = trim cs ∧ s.parts.Valid) ∧
    ∀ s s' : DateSpelling, s.text = trim cs → s'.text = trim cs → s.parts = s'.parts := by
  refine ⟨fun d => readDateTime?_eq_some_iff_names h, ?_, fun s s' htext htext' =>
    DateSpelling.parts_eq_of_text (htext.trans htext'.symm)⟩
  simp only [readDateTime?_eq_some_iff_names h]
  constructor
  · rintro ⟨d, s, htext, hd⟩
    exact ⟨s, htext, hd.valid⟩
  · rintro ⟨s, htext, hvalid⟩
    obtain ⟨d, hd⟩ := hvalid.exists_names s.year_le
    exact ⟨d, s, htext, hd⟩

/-- A number of two digits. -/
def twoDigits (a b : Char) (h : [a, b].all isDigit = true) : Digits 2 2 :=
  ⟨[a, b], ⟨Nat.le_refl 2, Nat.le_refl 2⟩, List.all_eq_true.mp h⟩

/-- The last day of a February and a time right behind the year: four digits follow the hyphen, of
which only two are the year. -/
theorem exists_glued (year : Digits 2 2) : ∃ s : DateSpelling,
    s.text = "29-FeB-".toList ++ (year.chars ++ "12:30:59)".toList) ∧
      s.parts = ⟨(YearSpelling.short year).value, some 2, 29, 12, 30, 59⟩ := by
  refine ⟨.dayFirst
    { day := some ((twoDigits '2' '9' rfl).bounded 1 2 (by decide))
      month := .letters ['F', 'e', 'B'] rfl (List.all_eq_true.mp rfl)
      year := .short year
      time := some
        { blanks := []
          blank := List.forall_mem_nil _
          opened := false
          hour := twoDigits '1' '2' rfl
          minute := twoDigits '3' '0' rfl
          second := some (twoDigits '5' '9' rfl)
          closed := true } }, rfl, rfl⟩

/-- A moment of an evening. -/
def evening : DateTime :=
  ⟨⟨1987, 3, 5, by decide, by decide⟩, ⟨18, 45, 7, 11, by decide, by decide⟩⟩

/-- The day is read in a leap year and not in the year before it. -/
theorem readDateTime?_spelled_glued :
    (∃ d, readDateTime? evening " 29-FeB-0412:30:59)\n".toList = some d ∧
      d.text = "2004-02-29 12:30:59".toList) ∧
    ¬ ∃ d, readDateTime? evening "29-FeB-0312:30:59)".toList = some d := by
  constructor
  · obtain ⟨s, htext, hparts⟩ := exists_glued (twoDigits '0' '4' rfl)
    obtain ⟨hread, -, -⟩ :=
      readDateTime?_spelled evening " 29-FeB-0412:30:59)\n".toList (by decide)
    refine ⟨⟨⟨2004, 2, 29, by decide, by decide⟩, ⟨12, 30, 59, 0, by decide, by decide⟩⟩,
      (hread _).mpr ⟨s, htext.trans (by decide), ?_⟩, by decide⟩
    rw [hparts]
    exact ⟨by decide, rfl, rfl, ⟨rfl, rfl, rfl⟩, rfl⟩
  · obtain ⟨s, htext, hparts⟩ := exists_glued (twoDigits '0' '3' rfl)
    obtain ⟨-, hread, hsame⟩ :=
      readDateTime?_spelled evening "29-FeB-0312:30:59)".toList (by decide)
    rw [hread]
    rintro ⟨s', htext', hvalid⟩
    rw [hsame s' s htext' (htext.trans (by decide)), hparts] at hvalid
    obtain ⟨month, hmonth, -, -, hday⟩ := hvalid.date
    obtain rfl : 2 = month := Option.some.inj hmonth
    exact absurd hday (by decide)

end ProfileQuery.Calendar
