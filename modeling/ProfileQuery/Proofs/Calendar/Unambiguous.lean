import ProfileQuery.Proofs.Calendar.Spelling

/-!
# Spelled dates are unambiguous

Where digits are followed by more text, that text tells how many of them belong together (`Tail`). So
a text spells one date at most (`DateSpelling.parts_eq_of_text`), and the parts that are read of a
text are those that it spells (`Parts.ofText?_eq_some_iff`).
-/

namespace ProfileQuery.Calendar

open ProfileQuery.Text
open Reader

variable {cs : List Char}

/-! ## One date at most -/

/-- Text that may follow digits: it starts with two more where a colon stands behind them, which are
the hour of a time, and else with none. -/
def Tail (cs : List Char) : Prop :=
  (cs.takeWhile isDigit).length = if (cs.dropWhile isDigit).head? = some ':' then 2 else 0

theorem Tail.eq_nil {w t : List Char} (h : Tail (w ++ t)) (ht : Tail t)
    (hw : ∀ c ∈ w, isDigit c = true) : w = [] := by
  unfold Tail at h ht
  rw [List.takeWhile_append_of_pos hw, List.dropWhile_append_of_pos hw, List.length_append] at h
  exact List.length_eq_zero_iff.mp (by omega)

/-- Digits end where a tail begins. -/
theorem digits_of_append {u v t t' : List Char} (hu : ∀ c ∈ u, isDigit c = true)
    (hv : ∀ c ∈ v, isDigit c = true) (ht : Tail t) (ht' : Tail t') (h : u ++ t = v ++ t') :
    u = v ∧ t = t' := by
  rcases List.append_eq_append_iff.mp h with ⟨w, rfl, rfl⟩ | ⟨w, rfl, rfl⟩
  · have hw : w = [] := ht.eq_nil ht' fun c hc => hv c (List.mem_append_right u hc)
    subst hw
    simp
  · have hw : w = [] := ht'.eq_nil ht fun c hc => hu c (List.mem_append_right v hc)
    subst hw
    simp

/-- A tail without digits in front. -/
theorem tail_mark {c : Char} (hdigit : isDigit c = false) (hcolon : c ≠ ':') (cs : List Char) :
    Tail (c :: cs) := by
  simp [Tail, hdigit, hcolon]

theorem isDigit_of_isBlank {c : Char} (h : isBlank c = true) : isDigit c = false ∧ c ≠ ':' := by
  constructor
  · by_contra hc
    rw [isBlank_of_isDigit (Bool.not_eq_false _ ▸ hc)] at h
    cases h
  · rintro rfl
    cases h

theorem toNat_of_isAlpha {c : Char} (h : c.isAlpha = true) :
    65 ≤ c.toNat ∧ c.toNat ≤ 90 ∨ 97 ≤ c.toNat ∧ c.toNat ≤ 122 := by
  rcases Bool.or_eq_true_iff.mp h with hupper | hlower
  · exact .inl (of_decide_eq_true hupper)
  · obtain ⟨hleast, hmost⟩ := Bool.and_eq_true_iff.mp hlower
    exact .inr ⟨of_decide_eq_true hleast, of_decide_eq_true hmost⟩

theorem isDigit_of_isAlpha {c : Char} (h : c.isAlpha = true) : isDigit c = false := by
  have hletter := toNat_of_isAlpha h
  by_contra hc
  have hdigit := isDigit_iff.mp (Bool.not_eq_false _ ▸ hc)
  omega

theorem isBlank_of_isAlpha {c : Char} (h : c.isAlpha = true) : isBlank c = false := by
  have hletter := toNat_of_isAlpha h
  simp only [isBlank, Bool.or_eq_false_iff, Bool.and_eq_false_iff, decide_eq_false_iff_not,
    beq_eq_false_iff_ne, ne_eq]
  omega

namespace TimeSpelling

theorem tail_clockText (t : TimeSpelling) : Tail t.clockText := by
  have hhour := t.hour.length
  have hdigit : ∀ c ∈ t.hour.chars, isDigit c = true := t.hour.digit
  have hcolon : isDigit ':' = false := rfl
  unfold Tail clockText
  rw [List.takeWhile_append_of_pos hdigit, List.dropWhile_append_of_pos hdigit]
  simp [hcolon]
  omega

theorem tail_text (t : TimeSpelling) : Tail t.text := by
  unfold text
  cases hblanks : t.blanks with
  | nil =>
    cases t.opened with
    | false => exact t.tail_clockText
    | true => exact tail_mark rfl (by decide) _
  | cons b bs =>
    have hb := isDigit_of_isBlank (t.blank b (hblanks ▸ List.mem_cons_self))
    exact tail_mark hb.1 hb.2 _

end TimeSpelling

theorem Digits.append_inj {n : Nat} {w w' : Digits n n} {t t' : List Char}
    (h : w.chars ++ t = w'.chars ++ t') : w.value = w'.value ∧ t = t' := by
  have hlength : w.chars.length = w'.chars.length := by
    have := w.length
    have := w'.length
    omega
  obtain ⟨hchars, ht⟩ := List.append_inj h hlength
  exact ⟨congrArg (Nat.ofDigitChars 10 · 0) hchars, ht⟩

theorem Digits.exists_cons {least most : Nat} (w : Digits least most) (hleast : 0 < least) :
    ∃ c cs, w.chars = c :: cs ∧ isDigit c = true := by
  cases hw : w.chars with
  | nil =>
    have := w.length
    simp only [hw, List.length_nil] at this
    omega
  | cons c cs => exact ⟨c, cs, rfl, w.digit c (hw ▸ List.mem_cons_self)⟩

theorem Digits.append_tail {least most least' most' : Nat} {w : Digits least most}
    {w' : Digits least' most'} {t t' : List Char} (ht : Tail t) (ht' : Tail t')
    (h : w.chars ++ t = w'.chars ++ t') : w.chars = w'.chars ∧ w.value = w'.value ∧ t = t' := by
  obtain ⟨hchars, ht⟩ := digits_of_append w.digit w'.digit ht ht' h
  exact ⟨hchars, congrArg (Nat.ofDigitChars 10 · 0) hchars, ht⟩

theorem markedText_append_inj {least most : Nat} {w w' : Option (Digits least most)} {c : Char}
    {t t' : List Char} (ht : Tail t ∧ ∀ cs, t ≠ c :: cs) (ht' : Tail t' ∧ ∀ cs, t' ≠ c :: cs)
    (h : markedText c w ++ t = markedText c w' ++ t') :
    w.map Digits.value = w'.map Digits.value ∧ t = t' := by
  cases w with
  | none =>
    cases w' with
    | none => exact ⟨rfl, h⟩
    | some w' => exact absurd h (ht.2 _)
  | some w =>
    cases w' with
    | none => exact absurd h.symm (ht'.2 _)
    | some w' =>
      obtain ⟨-, hvalue, hrest⟩ := Digits.append_tail ht.1 ht'.1 (List.cons.inj h).2
      exact ⟨congrArg some hvalue, hrest⟩

namespace TimeSpelling

variable {t t' : TimeSpelling}

/-- A time without the blanks and the parenthesis in front of it starts with its hour. -/
theorem clockText_of_text (t : TimeSpelling) :
    (t.text.dropWhile isBlank).dropWhile (· == '(') = t.clockText := by
  obtain ⟨c, cs, hhour, hc⟩ := t.hour.exists_cons (by decide)
  have hclock : t.clockText = c :: (cs ++ ':' :: (t.minute.chars ++ t.tailText)) := by
    rw [clockText, hhour]
    rfl
  have hopen : (c == '(') = false := by
    rw [beq_eq_false_iff_ne]
    rintro rfl
    cases hc
  have hblank := isBlank_of_isDigit hc
  unfold text
  rw [List.dropWhile_append_of_pos t.blank, hclock]
  cases t.opened with
  | false => simp [markText, hblank, hopen]
  | true => simp [markText, hopen, show isBlank '(' = false from rfl]

theorem second_of_tailText (h : t.tailText = t'.tailText) :
    t.second.map Digits.value = t'.second.map Digits.value := by
  have hclosed (present : Bool) : Tail (markText ')' present) ∧
      ∀ cs, markText ')' present ≠ ':' :: cs := by
    cases present with
    | false => exact ⟨rfl, by simp [markText]⟩
    | true => exact ⟨rfl, by simp [markText]⟩
  exact (markedText_append_inj (hclosed _) (hclosed _) h).1

theorem numbers_eq (h : t.text = t'.text) : t.numbers = t'.numbers := by
  have hclock := congrArg (fun cs => (cs.dropWhile isBlank).dropWhile (· == '(')) h
  simp only [clockText_of_text] at hclock
  obtain ⟨hhour, hrest⟩ := Digits.append_inj hclock
  obtain ⟨hminute, htail⟩ := Digits.append_inj (List.cons.inj hrest).2
  simp only [numbers, hhour, hminute, second_of_tailText htail]

theorem text_ne_nil (t : TimeSpelling) : t.text ≠ [] := by
  simp [text, clockText]

end TimeSpelling

/-- A time of day may follow digits and does not start with a hyphen. -/
theorem tail_timeText (time : Option TimeSpelling) :
    Tail (timeText time) ∧ ∀ cs, timeText time ≠ '-' :: cs := by
  cases time with
  | none => exact ⟨rfl, fun cs => (List.cons_ne_nil _ _).symm⟩
  | some t =>
    refine ⟨t.tail_text, fun cs h => ?_⟩
    have hclock := t.clockText_of_text
    obtain ⟨c, cs', hhour, hc⟩ := t.hour.exists_cons (by decide)
    rw [show t.text = '-' :: cs from h, TimeSpelling.clockText, hhour] at hclock
    obtain ⟨rfl, -⟩ := List.cons.inj hclock
    cases hc

theorem numbers_of_timeText {time time' : Option TimeSpelling} (h : timeText time = timeText time') :
    time.map TimeSpelling.numbers = time'.map TimeSpelling.numbers := by
  cases time with
  | none =>
    cases time' with
    | none => rfl
    | some t' => exact absurd h.symm t'.text_ne_nil
  | some t =>
    cases time' with
    | none => exact absurd h t.text_ne_nil
    | some t' => exact congrArg some (TimeSpelling.numbers_eq h)

namespace MonthSpelling

variable {m m' : MonthSpelling} {t t' : List Char}

/-- Three letters are not digits. -/
theorem letters_ne_digits {v : List Char} (length : v.length = 3)
    (letter : ∀ c ∈ v, c.isAlpha = true) {least most : Nat} {w : Digits least most}
    (hleast : 0 < least) : v ++ t ≠ w.chars ++ t' := by
  intro h
  obtain ⟨a, b, c, rfl⟩ := List.length_eq_three.mp length
  obtain ⟨d, ds, hw, hd⟩ := w.exists_cons hleast
  rw [hw] at h
  obtain ⟨rfl, -⟩ := List.cons.inj h
  rw [isDigit_of_isAlpha (letter a List.mem_cons_self)] at hd
  cases hd

/-- Digits are found in the place of a month only if it is spelled by them. -/
theorem eq_digits_of_append {least most : Nat} {w : Digits least most} (hleast : 0 < least)
    (ht : Tail t) (ht' : Tail t') (h : m.text ++ t = w.chars ++ t') :
    m.text.length ≤ 2 ∧ m.text = w.chars ∧ t = t' := by
  cases m with
  | number v =>
    obtain ⟨hchars, -, hrest⟩ := Digits.append_tail ht ht' h
    exact ⟨v.length.2, hchars, hrest⟩
  | letters v length letter => exact absurd h (letters_ne_digits length letter hleast)

theorem append_inj (ht : Tail t) (ht' : Tail t') (h : m.text ++ t = m'.text ++ t') :
    m.number? = m'.number? ∧ t = t' := by
  cases m with
  | number w =>
    cases m' with
    | number w' =>
      obtain ⟨-, hvalue, hrest⟩ := Digits.append_tail ht ht' h
      exact ⟨congrArg some hvalue, hrest⟩
    | letters v' length letter => exact absurd h.symm (letters_ne_digits length letter (by decide))
  | letters v length letter =>
    cases m' with
    | number w' => exact absurd h (letters_ne_digits length letter (by decide))
    | letters v' length' letter' =>
      obtain ⟨rfl, rfl⟩ := List.append_inj h (length.trans length'.symm)
      exact ⟨rfl, rfl⟩

end MonthSpelling

theorem YearSpelling.exists_digits (y : YearSpelling) : ∃ w : Digits 2 4, w.chars = y.text := by
  cases y with
  | full w => exact ⟨w.bounded 2 4 ⟨by have := w.length; omega, w.length.2⟩, rfl⟩
  | short w => exact ⟨w.bounded 2 4 ⟨w.length.1, by have := w.length; omega⟩, rfl⟩

theorem YearSpelling.append_inj {y y' : YearSpelling} {t t' : List Char} (ht : Tail t)
    (ht' : Tail t') (h : y.text ++ t = y'.text ++ t') : y.value = y'.value ∧ t = t' := by
  -- a full year is twice as long as a short one
  have hlength (w : Digits 4 4) (w' : Digits 2 2) : w.chars ≠ w'.chars := by
    intro heq
    have := congrArg List.length heq
    have := w.length
    have := w'.length
    omega
  cases y with
  | full w =>
    cases y' with
    | full w' => exact Digits.append_inj h
    | short w' => exact absurd (Digits.append_tail ht ht' h).1 (hlength w w')
  | short w =>
    cases y' with
    | full w' => exact absurd (Digits.append_tail ht ht' h).1.symm (hlength w' w)
    | short w' =>
      obtain ⟨hvalue, hrest⟩ := Digits.append_inj h
      exact ⟨by simp only [value, hvalue], hrest⟩

/-- What follows the month of a date with the year first may follow digits. -/
theorem YearFirst.tail_tailText (s : YearFirst) : Tail s.tailText := by
  unfold tailText
  cases s.day with
  | none => exact (tail_timeText s.time).1
  | some w => exact tail_mark rfl (by decide) _

theorem YearFirst.parts_eq {s s' : YearFirst} (h : s.text = s'.text) : s.parts = s'.parts := by
  obtain ⟨hyear, hrest⟩ := Digits.append_inj h
  obtain ⟨hmonth, hrest⟩ :=
    MonthSpelling.append_inj s.tail_tailText s'.tail_tailText (List.cons.inj hrest).2
  obtain ⟨hday, htime⟩ := markedText_append_inj (tail_timeText _) (tail_timeText _) hrest
  simp only [parts, spelledParts, hyear, hmonth, hday, numbers_of_timeText htime]

theorem tail_hyphen (cs : List Char) : Tail ('-' :: cs) :=
  tail_mark rfl (by decide) cs

namespace DayFirst

variable {s s' : DayFirst}

theorem text_of_day {w : Digits 1 2} (h : s.day = some w) :
    s.text = w.chars ++ '-' :: s.tailText := by
  simp [text, dayText, h]

theorem text_of_no_day (h : s.day = none) : s.text = s.tailText := by
  simp [text, dayText, h]

theorem tailText_inj (h : s.tailText = s'.tailText) : s.month.number? = s'.month.number? ∧
    s.year.value = s'.year.value ∧ timeText s.time = timeText s'.time := by
  obtain ⟨hmonth, hrest⟩ := MonthSpelling.append_inj (tail_hyphen _) (tail_hyphen _) h
  obtain ⟨hyear, htime⟩ := YearSpelling.append_inj (tail_timeText _).1 (tail_timeText _).1
    (List.cons.inj hrest).2
  exact ⟨hmonth, hyear, htime⟩

/-- Where one text has a day in front the other one has it too: else the year of the other would
stand in the place of the month, and no hyphen behind it. -/
theorem day_of_text {w : Digits 1 2} (hs : s.day = some w) (h : s.text = s'.text) :
    s'.day ≠ none := by
  intro hs'
  rw [text_of_day hs, text_of_no_day hs'] at h
  obtain ⟨-, -, hrest⟩ :=
    MonthSpelling.eq_digits_of_append (by decide) (tail_hyphen _) (tail_hyphen _) h.symm
  obtain ⟨-, hrest⟩ := List.cons.inj hrest
  obtain ⟨year, hyear⟩ := s'.year.exists_digits
  rw [← hyear] at hrest
  obtain ⟨-, -, htime⟩ := MonthSpelling.eq_digits_of_append (by decide) (tail_hyphen _)
    (tail_timeText _).1 hrest.symm
  exact (tail_timeText _).2 _ htime.symm

theorem parts_eq (h : s.text = s'.text) : s.parts = s'.parts := by
  suffices hday : s.day.map Digits.value = s'.day.map Digits.value ∧ s.tailText = s'.tailText by
    obtain ⟨hmonth, hyear, htime⟩ := tailText_inj hday.2
    simp only [parts, spelledParts, hyear, hmonth, hday.1, numbers_of_timeText htime]
  cases hs : s.day with
  | none =>
    cases hs' : s'.day with
    | none => exact ⟨rfl, by rwa [text_of_no_day hs, text_of_no_day hs'] at h⟩
    | some w' => exact absurd hs (day_of_text hs' h.symm)
  | some w =>
    cases hs' : s'.day with
    | none => exact absurd hs' (day_of_text hs h)
    | some w' =>
      rw [text_of_day hs, text_of_day hs'] at h
      obtain ⟨-, hvalue, hrest⟩ := Digits.append_tail (tail_hyphen _) (tail_hyphen _) h
      exact ⟨congrArg some hvalue, (List.cons.inj hrest).2⟩

/-- The first hyphen tells the forms apart: no more than three characters are before it. -/
theorem text_ne_yearFirst (s : DayFirst) (s' : YearFirst) : s.text ≠ s'.text := by
  intro h
  have hyear := s'.year.length
  cases hs : s.day with
  | none =>
    rw [text_of_no_day hs] at h
    obtain ⟨hlength, htext, -⟩ :=
      MonthSpelling.eq_digits_of_append (by decide) (tail_hyphen _) (tail_hyphen _) h
    rw [htext] at hlength
    omega
  | some w =>
    rw [text_of_day hs] at h
    have hchars := (Digits.append_tail (tail_hyphen _) (tail_hyphen _) h).1
    have := w.length
    rw [hchars] at this
    omega

end DayFirst

/-- A text spells one date at most. -/
theorem DateSpelling.parts_eq_of_text {s s' : DateSpelling} (h : s.text = s'.text) :
    s.parts = s'.parts := by
  cases s with
  | yearFirst s =>
    cases s' with
    | yearFirst s' => exact YearFirst.parts_eq h
    | dayFirst s' => exact absurd h.symm (s'.text_ne_yearFirst s)
  | dayFirst s =>
    cases s' with
    | yearFirst s' => exact absurd h (s.text_ne_yearFirst s')
    | dayFirst s' => exact DayFirst.parts_eq h

/-! ## The parts of a text -/

theorem Reader.whole?_isSome {α : Type} {r : Reader α} {a : α} (h : (a, []) ∈ r cs) :
    (r.whole? cs).isSome = true := by
  rw [whole?, Option.isSome_map, List.find?_isSome]
  exact ⟨(a, []), h, rfl⟩

/-- The parts that are read are spelled. -/
theorem Parts.exists_spelling {p : Parts} (h : Parts.ofText? cs = some p) :
    ∃ s : DateSpelling, s.text = cs ∧ s.parts = p := by
  rcases Option.or_eq_some_iff.mp h with h | ⟨-, h⟩
  · obtain ⟨s, rfl, rfl⟩ := mem_yearFirstForm_iff.mp (Reader.mem_of_whole? h)
    exact ⟨.yearFirst s, (List.append_nil _).symm, rfl⟩
  · obtain ⟨s, rfl, rfl⟩ := mem_dayFirstForm_iff.mp (Reader.mem_of_whole? h)
    exact ⟨.dayFirst s, (List.append_nil _).symm, rfl⟩

/-- A spelled date is read, and with the parts that are spelled. -/
theorem Parts.ofText?_eq_some_iff {p : Parts} :
    Parts.ofText? cs = some p ↔ ∃ s : DateSpelling, s.text = cs ∧ s.parts = p := by
  refine ⟨exists_spelling, ?_⟩
  rintro ⟨s, rfl, rfl⟩
  have hsome : (Parts.ofText? s.text).isSome = true := by
    rw [Parts.ofText?, Option.isSome_or, Bool.or_eq_true]
    cases s with
    | yearFirst s =>
      have hread : (s.parts, []) ∈ yearFirstForm s.text :=
        mem_yearFirstForm_iff.mpr ⟨s, (List.append_nil _).symm, rfl⟩
      exact .inl (Reader.whole?_isSome hread)
    | dayFirst s =>
      have hread : (s.parts, []) ∈ dayFirstForm s.text :=
        mem_dayFirstForm_iff.mpr ⟨s, (List.append_nil _).symm, rfl⟩
      exact .inr (Reader.whole?_isSome hread)
  obtain ⟨p, hp⟩ := Option.isSome_iff_exists.mp hsome
  obtain ⟨s', htext, rfl⟩ := exists_spelling hp
  rw [hp, DateSpelling.parts_eq_of_text htext]

/-- The parts name a date: all of them are its own. -/
structure Parts.Names (p : Parts) (d : DateTime) : Prop where
  year : d.date.year = p.year
  month : p.month = some d.date.month
  day : d.date.day = p.day
  time : d.time.hour = p.hour ∧ d.time.minute = p.minute ∧ d.time.second = p.second
  nanos : d.time.nanos = 0

theorem Parts.dateTime?_eq_some_iff {p : Parts} {d : DateTime} :
    p.dateTime? = some d ↔ p.Names d := by
  simp only [Parts.dateTime?, Option.bind_eq_bind, Option.pure_def, Option.bind_eq_some_iff,
    Date.of?_eq_some_iff, TimeOfDay.of?_eq_some_iff]
  constructor
  · rintro ⟨month, hmonth, date, ⟨hyear, rfl, hday⟩, time, ⟨htime, hnanos⟩, hd⟩
    obtain rfl := Option.some.inj hd
    exact ⟨hyear, hmonth, hday, htime, hnanos⟩
  · intro h
    exact ⟨d.date.month, h.month, d.date, ⟨h.year, rfl, h.day⟩, d.time, ⟨h.time, h.nanos⟩, rfl⟩

/-! ## Blanks around a date -/

theorem Digits.bare {least most : Nat} (w : Digits least most) : Bare w.chars :=
  fun c hc => isBlank_of_isDigit (w.digit c hc)

theorem MonthSpelling.bare : ∀ m : MonthSpelling, Bare m.text
  | number w => w.bare
  | letters _ _ letter => fun c hc => isBlank_of_isAlpha (letter c hc)

theorem YearSpelling.bare : ∀ y : YearSpelling, Bare y.text
  | full w => w.bare
  | short w => w.bare

theorem bare_markedText {least most : Nat} {c : Char} (hc : isBlank c = false) :
    ∀ w : Option (Digits least most), Bare (markedText c w)
  | none => List.forall_mem_nil _
  | some w => List.forall_mem_cons.mpr ⟨hc, w.bare⟩

theorem bare_markText {c : Char} (hc : isBlank c = false) : ∀ present, Bare (markText c present)
  | false => List.forall_mem_nil _
  | true => List.forall_mem_singleton.mpr hc

theorem TimeSpelling.bare_clockText (t : TimeSpelling) : Bare t.clockText := by
  have htail : Bare t.tailText :=
    List.forall_mem_append.mpr ⟨bare_markedText rfl t.second, bare_markText rfl t.closed⟩
  refine List.forall_mem_append.mpr ⟨t.hour.bare, List.forall_mem_cons.mpr ⟨rfl, ?_⟩⟩
  exact List.forall_mem_append.mpr ⟨t.minute.bare, htail⟩

/-- The only blanks of a date are in front of its time. -/
theorem trimmed_timeText {front : List Char} (h : Bare front) (hne : front ≠ [])
    (time : Option TimeSpelling) : Trimmed (front ++ timeText time) := by
  cases time with
  | none =>
    rw [timeText, List.append_nil]
    exact h.trimmed
  | some t =>
    have hback : Bare (markText '(' t.opened ++ t.clockText) :=
      List.forall_mem_append.mpr ⟨bare_markText rfl t.opened, t.bare_clockText⟩
    rw [timeText, TimeSpelling.text, ← List.append_assoc]
    exact h.trimmed.append hback.trimmed hne (by simp [TimeSpelling.clockText]) t.blanks

namespace DateSpelling

theorem trimmed (s : DateSpelling) : Trimmed s.text := by
  cases s with
  | yearFirst s =>
    have hfront : Bare (s.year.chars ++ '-' :: (s.month.text ++ markedText '-' s.day)) := by
      refine List.forall_mem_append.mpr ⟨s.year.bare, List.forall_mem_cons.mpr ⟨rfl, ?_⟩⟩
      exact List.forall_mem_append.mpr ⟨s.month.bare, bare_markedText rfl s.day⟩
    have := trimmed_timeText hfront (by simp) s.time
    simpa [text, YearFirst.text, YearFirst.tailText] using this
  | dayFirst s =>
    have hday : Bare (dayText s.day) := by
      cases s.day with
      | none => exact List.forall_mem_nil _
      | some w => exact List.forall_mem_append.mpr ⟨w.bare, List.forall_mem_singleton.mpr rfl⟩
    have hfront : Bare (dayText s.day ++ (s.month.text ++ '-' :: s.year.text)) := by
      refine List.forall_mem_append.mpr ⟨hday, List.forall_mem_append.mpr ⟨s.month.bare, ?_⟩⟩
      exact List.forall_mem_cons.mpr ⟨rfl, s.year.bare⟩
    have := trimmed_timeText hfront (by simp) s.time
    simpa [text, DayFirst.text, DayFirst.tailText] using this

theorem hyphen_mem (s : DateSpelling) : '-' ∈ s.text := by
  cases s with
  | yearFirst s => simp [text, YearFirst.text]
  | dayFirst s => simp [text, DayFirst.text, DayFirst.tailText]

/-- A spelled date stands for the moment that its parts name. -/
theorem readDateTime?_eq_some_iff (s : DateSpelling) {now d : DateTime} :
    readDateTime? now s.text = some d ↔ s.parts.Names d := by
  have hparts : Parts.ofText? s.text = some s.parts := Parts.ofText?_eq_some_iff.mpr ⟨s, rfl, rfl⟩
  simp only [readDateTime?, s.trimmed.trim_eq, not_clockWord s.hyphen_mem, hparts,
    Bool.false_eq_true, if_false, Option.bind_some, Parts.dateTime?_eq_some_iff]

end DateSpelling

end ProfileQuery.Calendar
