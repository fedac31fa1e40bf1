import Mathlib.Data.List.Basic
import Mathlib.Data.List.TakeWhile
import ProfileQuery.Calendar.DateForm
import ProfileQuery.Proofs.Text.Blank
import ProfileQuery.Proofs.Text.Integer

/-!
# Reading written dates

The text that is written for a date of the years 0 to 9999 reads as that date
(`readDateTime?_text`), and nothing else than such a date is ever read from a text that names it by
its parts (`written_of_readDateTime?`).
-/

namespace ProfileQuery.Calendar

open ProfileQuery.Text

namespace Reader

/-! ## Readers one after another -/

theorem bind_apply {α β : Type} (r : Reader α) (f : α → Reader β) (cs : List Char) :
    (r >>= f) cs = (r cs).flatMap fun x => f x.1 x.2 :=
  rfl

theorem mem_bind {α β : Type} {r : Reader α} {f : α → Reader β} {b : β} {cs rest : List Char} :
    (b, rest) ∈ (r >>= f) cs ↔ ∃ a mid, (a, mid) ∈ r cs ∧ (b, rest) ∈ f a mid := by
  rw [bind_apply, List.mem_flatMap]
  constructor
  · rintro ⟨⟨a, mid⟩, hr, hf⟩
    exact ⟨a, mid, hr, hf⟩
  · rintro ⟨a, mid, hr, hf⟩
    exact ⟨(a, mid), hr, hf⟩

theorem mem_pure {α : Type} {a b : α} {cs rest : List Char} :
    (b, rest) ∈ (pure a : Reader α) cs ↔ b = a ∧ rest = cs := by
  show (b, rest) ∈ [(a, cs)] ↔ _
  simp

theorem mem_orElse {α : Type} {r s : Reader α} {x : α × List Char} {cs : List Char} :
    x ∈ orElse r s cs ↔ x ∈ r cs ∨ x ∈ s cs :=
  List.mem_append

/-- The way of reading that comes first. -/
def First {α : Type} (r : Reader α) (cs : List Char) (a : α) (rest : List Char) : Prop :=
  (r cs).head? = some (a, rest)

theorem first_iff {α : Type} {r : Reader α} {cs : List Char} {a : α} {rest : List Char} :
    First r cs a rest ↔ ∃ others, r cs = (a, rest) :: others := by
  unfold First
  cases r cs with
  | nil => simp
  | cons x xs => simp

theorem First.bind {α β : Type} {r : Reader α} {f : α → Reader β} {a : α} {b : β}
    {cs mid rest : List Char} (hr : First r cs a mid) (hf : First (f a) mid b rest) :
    First (r >>= f) cs b rest := by
  obtain ⟨others, hr⟩ := first_iff.mp hr
  obtain ⟨others', hf⟩ := first_iff.mp hf
  refine first_iff.mpr ⟨others' ++ others.flatMap fun x => f x.1 x.2, ?_⟩
  rw [bind_apply, hr, List.flatMap_cons, hf]
  rfl

theorem first_pure {α : Type} (a : α) (cs : List Char) : First (pure a : Reader α) cs a cs := rfl

theorem First.orElse_left {α : Type} {r s : Reader α} {cs : List Char} {a : α} {rest : List Char}
    (h : First r cs a rest) : First (orElse r s) cs a rest := by
  obtain ⟨others, h⟩ := first_iff.mp h
  exact first_iff.mpr ⟨others ++ s cs, by rw [orElse, h]; rfl⟩

theorem First.optional {α : Type} {r : Reader α} {cs : List Char} {a : α} {rest : List Char}
    (h : First r cs a rest) : First (optional r) cs (some a) rest := by
  have hsome : First (r >>= fun a => pure (some a)) cs (some a) rest := h.bind (first_pure _ _)
  exact hsome.orElse_left

/-- Where nothing can be read, an optional part is absent. -/
theorem first_optional_none {α : Type} {r : Reader α} {cs : List Char} (h : r cs = []) :
    First (optional r) cs none cs := by
  refine first_iff.mpr ⟨[], ?_⟩
  show (r >>= fun a => pure (some a)) cs ++ [(none, cs)] = _
  rw [bind_apply, h]
  rfl

theorem bind_eq_nil {α β : Type} {r : Reader α} {f : α → Reader β} {cs : List Char}
    (h : r cs = []) : (r >>= f) cs = [] := by
  rw [bind_apply, h]
  rfl

/-- The first way counts for the whole text if it uses it up. -/
theorem First.whole? {α : Type} {r : Reader α} {cs : List Char} {a : α} (h : First r cs a []) :
    r.whole? cs = some a := by
  obtain ⟨others, h⟩ := first_iff.mp h
  rw [Reader.whole?, h, List.find?_cons_of_pos rfl]
  rfl

/-! ## Characters and numbers -/

theorem first_mark (c : Char) (rest : List Char) : First (mark c) (c :: rest) () rest := by
  have hone : First (one (· == c)) (c :: rest) c rest := by simp [First, one]
  exact hone.bind (first_pure () rest)

/-- A reader behind a mark. -/
theorem First.behindMark {α : Type} {r : Reader α} {cs : List Char} {a : α} {rest : List Char}
    (h : First r cs a rest) (c : Char) : First (mark c >>= fun _ => r) (c :: cs) a rest :=
  (first_mark c cs).bind h

theorem mark_eq_nil {c : Char} {cs : List Char} (h : cs.head? ≠ some c) : mark c cs = [] := by
  apply bind_eq_nil
  cases cs with
  | nil => rfl
  | cons d cs =>
    have hne : (d == c) = false := by simpa using h
    simp [one, hne]

theorem first_digits {cs : List Char} (h : ∀ c ∈ cs, isDigit c = true) (rest : List Char) :
    First (digits cs.length) (cs ++ rest) cs rest := by
  induction cs with
  | nil => exact first_pure [] rest
  | cons c cs ih =>
    obtain ⟨hc, hcs⟩ := List.forall_mem_cons.mp h
    have hone : First (one isDigit) (c :: cs ++ rest) c (cs ++ rest) := by simp [First, one, hc]
    exact hone.bind ((ih hcs).bind (first_pure _ _))

/-- A padded number is read as its value. -/
theorem first_number {width n : Nat} (hwidth : 0 < width) (h : n < 10 ^ width) (rest : List Char) :
    First (number width) (padded width n ++ rest) n rest := by
  have hpadded : ∀ c ∈ padded width n, isDigit c = true := fun c hc => isDigit_of_mem_padded hc
  have hdigits := first_digits hpadded rest
  rw [length_padded hwidth h] at hdigits
  have hvalue : First (number width) (padded width n ++ rest)
      (digitsValue (padded width n)) rest := hdigits.bind (first_pure _ rest)
  rwa [digitsValue_padded] at hvalue

theorem mem_one {p : Char → Bool} {c : Char} {cs rest : List Char} (h : (c, rest) ∈ one p cs) :
    cs = c :: rest ∧ p c = true := by
  cases cs with
  | nil => cases h
  | cons d cs =>
    cases hd : p d with
    | false => simp [one, hd] at h
    | true =>
      simp only [one, hd, if_true, List.mem_singleton, Prod.mk.injEq] at h
      obtain ⟨rfl, rfl⟩ := h
      exact ⟨rfl, hd⟩

theorem mem_digits {n : Nat} {w cs rest : List Char} (h : (w, rest) ∈ digits n cs) :
    w.length = n ∧ cs = w ++ rest ∧ ∀ c ∈ w, isDigit c = true := by
  induction n generalizing w cs with
  | zero =>
    obtain ⟨rfl, rfl⟩ := mem_pure.mp h
    simp
  | succ n ih =>
    obtain ⟨c, mid, hc, h⟩ := mem_bind.mp h
    obtain ⟨v, mid', hv, h⟩ := mem_bind.mp h
    obtain ⟨rfl, rfl⟩ := mem_pure.mp h
    obtain ⟨hlen, rfl, hdigit⟩ := ih hv
    obtain ⟨rfl, hd⟩ := mem_one hc
    exact ⟨by rw [List.length_cons, hlen], rfl, List.forall_mem_cons.mpr ⟨hd, hdigit⟩⟩

theorem mem_number {n a : Nat} {cs rest : List Char} (h : (a, rest) ∈ number n cs) :
    a < 10 ^ n := by
  obtain ⟨w, mid, hw, h⟩ := mem_bind.mp h
  obtain ⟨rfl, rfl⟩ := mem_pure.mp h
  obtain ⟨rfl, -, hdigit⟩ := mem_digits hw
  exact digitsValue_lt hdigit

end Reader

open Reader

/-! ## Dates and times of day -/

theorem Date.of?_self (d : Date) : Date.of? d.year d.month d.day = some d := by
  unfold Date.of?
  rw [dif_pos d.year_range, dif_pos d.day_range]

theorem TimeOfDay.of?_self (t : TimeOfDay) :
    TimeOfDay.of? t.hour t.minute t.second t.nanos = some t := by
  unfold TimeOfDay.of?
  rw [dif_pos t.clock_range, dif_pos t.nanos_range]

theorem Date.of?_eq_some_iff {year : Int} {month day : Nat} {d : Date} :
    Date.of? year month day = some d ↔ d.year = year ∧ d.month = month ∧ d.day = day := by
  constructor
  · intro h
    unfold Date.of? at h
    split at h
    · split at h
      · obtain rfl := Option.some.inj h
        exact ⟨rfl, rfl, rfl⟩
      · cases h
    · cases h
  · rintro ⟨rfl, rfl, rfl⟩
    exact d.of?_self

theorem TimeOfDay.of?_eq_some_iff {hour minute second nanos : Nat} {t : TimeOfDay} :
    TimeOfDay.of? hour minute second nanos = some t ↔
      (t.hour = hour ∧ t.minute = minute ∧ t.second = second) ∧ t.nanos = nanos := by
  constructor
  · intro h
    unfold TimeOfDay.of? at h
    split at h
    · split at h
      · obtain rfl := Option.some.inj h
        exact ⟨⟨rfl, rfl, rfl⟩, rfl⟩
      · cases h
    · cases h
  · rintro ⟨⟨rfl, rfl, rfl⟩, rfl⟩
    exact t.of?_self

theorem daysInMonth_le (year : Int) (month : Nat) :
    daysInMonth year month ≤ 31 ∧ (12 < month → daysInMonth year month = 0) := by
  unfold daysInMonth
  split <;> first | omega | (split <;> omega)

theorem Date.month_range (d : Date) : 1 ≤ d.month ∧ d.month ≤ 12 := by
  have hday := d.day_range
  obtain ⟨-, hlate⟩ := daysInMonth_le d.year d.month
  constructor
  · by_contra hzero
    obtain hzero : d.month = 0 := by omega
    rw [hzero, show daysInMonth d.year 0 = 0 from rfl] at hday
    omega
  · by_contra hmonth
    have := hlate (by omega)
    omega

theorem Date.month_lt (d : Date) : d.month < 100 := by
  have := d.month_range
  omega

theorem Date.day_lt (d : Date) : d.day < 100 := by
  obtain ⟨-, hday⟩ := d.day_range
  obtain ⟨hle, -⟩ := daysInMonth_le d.year d.month
  omega

/-! ## Written dates -/

/-- The dates that can be written in a query: of the years 0 to 9999, to the second. -/
structure DateTime.Written (d : DateTime) : Prop where
  year : 0 ≤ d.date.year ∧ d.date.year ≤ 9999
  nanos : d.time.nanos = 0

theorem DateTime.Written.year_lt {d : DateTime} (h : d.Written) :
    d.date.year.natAbs < 10 ^ 4 := by
  have := h.year
  omega

theorem TimeOfDay.hour_lt (t : TimeOfDay) : t.hour < 10 ^ 2 := by
  have := t.clock_range
  omega

theorem TimeOfDay.minute_lt (t : TimeOfDay) : t.minute < 10 ^ 2 := by
  have := t.clock_range
  omega

theorem TimeOfDay.second_lt (t : TimeOfDay) : t.second < 10 ^ 2 := by
  have := t.clock_range
  omega

theorem first_shortNumber {n : Nat} (h : n < 100) (rest : List Char) :
    First shortNumber (padded 2 n ++ rest) n rest :=
  (first_number (by decide) h rest).orElse_left

theorem first_monthForm {n : Nat} (h : n < 100) (rest : List Char) :
    First monthForm (padded 2 n ++ rest) (some n) rest :=
  ((first_shortNumber h rest).bind (first_pure (some n) rest)).orElse_left

/-- A padded number has a digit in front. -/
theorem exists_padded {width n : Nat} (hwidth : 0 < width) (h : n < 10 ^ width)
    (rest : List Char) : ∃ c cs, padded width n ++ rest = c :: cs ∧ isDigit c = true := by
  have hlen := length_padded hwidth h
  cases hpadded : padded width n with
  | nil =>
    rw [hpadded] at hlen
    simp only [List.length_nil] at hlen
    omega
  | cons c cs =>
    exact ⟨c, cs ++ rest, rfl, isDigit_of_mem_padded (hpadded ▸ List.mem_cons_self)⟩

theorem isBlank_of_isDigit {c : Char} (h : isDigit c = true) : isBlank c = false := by
  obtain ⟨hzero, hnine⟩ := isDigit_iff.mp h
  simp only [isBlank, Bool.or_eq_false_iff, Bool.and_eq_false_iff, decide_eq_false_iff_not,
    beq_eq_false_iff_ne, ne_eq]
  omega

theorem first_blanks {c : Char} (h : isBlank c = false) (cs : List Char) :
    First blanks (' ' :: c :: cs) () (c :: cs) := by
  simp [First, blanks, h, show isBlank ' ' = true from rfl]

theorem TimeOfDay.text_eq {t : TimeOfDay} (h : t.nanos = 0) :
    t.text = padded 2 t.hour ++ ':' :: (padded 2 t.minute ++ ':' :: (padded 2 t.second ++ [])) := by
  have hshown : t.shownSecond = t.second := by
    simp [TimeOfDay.shownSecond, h]
  rw [TimeOfDay.text, hshown, List.append_nil]
  simp

theorem first_timeForm {t : TimeOfDay} (h : t.nanos = 0) :
    First timeForm (' ' :: t.text) (t.hour, t.minute, t.second) [] := by
  rw [TimeOfDay.text_eq h]
  obtain ⟨c, cs, hcs, hdigit⟩ := exists_padded (by decide : 0 < 2) t.hour_lt
    (':' :: (padded 2 t.minute ++ ':' :: (padded 2 t.second ++ [])))
  have hopen : (c :: cs).head? ≠ some '(' := by
    intro heq
    obtain rfl := Option.some.inj heq
    exact absurd hdigit (by decide)
  unfold timeForm
  rw [hcs]
  apply (first_blanks (isBlank_of_isDigit hdigit) cs).bind
  apply (first_optional_none (mark_eq_nil hopen)).bind
  rw [← hcs]
  apply (first_number (by decide) t.hour_lt _).bind
  apply (first_mark _ _).bind
  apply (first_number (by decide) t.minute_lt _).bind
  apply ((first_number (by decide) t.second_lt _).behindMark ':').optional.bind
  apply (first_optional_none (mark_eq_nil (by simp))).bind
  exact first_pure _ _

/-- The parts that are written for a date. -/
def DateTime.parts (d : DateTime) : Parts :=
  ⟨d.date.year.natAbs, some d.date.month, d.date.day, d.time.hour, d.time.minute, d.time.second⟩

/-- The text after the day: nothing at midnight, else the time of day. -/
def DateTime.timeText (d : DateTime) : List Char :=
  if d.time.isMidnight then [] else ' ' :: d.time.text

theorem DateTime.text_eq {d : DateTime} (h : d.Written) :
    d.text = padded 4 d.date.year.natAbs ++ '-' :: (padded 2 d.date.month ++
      '-' :: (padded 2 d.date.day ++ d.timeText)) := by
  unfold DateTime.text DateTime.timeText Date.text yearText
  rw [if_pos h.year]
  split <;> simp

theorem first_time {d : DateTime} (h : d.Written) :
    ∃ time, First (optional timeForm) d.timeText time [] ∧
      time.getD (0, 0, 0) = (d.time.hour, d.time.minute, d.time.second) := by
  unfold DateTime.timeText
  split
  · next hmidnight =>
    simp only [TimeOfDay.isMidnight, Bool.and_eq_true, beq_iff_eq] at hmidnight
    obtain ⟨⟨hhour, hminute⟩, hsecond⟩ := hmidnight
    exact ⟨none, first_optional_none rfl, by rw [hhour, hminute, hsecond]; rfl⟩
  · exact ⟨_, (first_timeForm h.nanos).optional, rfl⟩

theorem first_yearFirstForm {d : DateTime} (h : d.Written) :
    First yearFirstForm d.text d.parts [] := by
  obtain ⟨time, htime, hparts⟩ := first_time h
  rw [DateTime.text_eq h]
  unfold yearFirstForm
  apply (first_number (by decide) h.year_lt _).bind
  apply (first_mark _ _).bind
  apply (first_monthForm d.date.month_lt _).bind
  apply ((first_shortNumber d.date.day_lt _).behindMark '-').optional.bind
  apply htime.bind
  rw [hparts]
  exact first_pure _ _

theorem DateTime.dateTime?_parts {d : DateTime} (h : d.Written) :
    d.parts.dateTime? = some d := by
  have hyear : (d.date.year.natAbs : Int) = d.date.year := Int.natAbs_of_nonneg h.year.1
  have htime := TimeOfDay.of?_self d.time
  rw [h.nanos] at htime
  simp [DateTime.parts, Parts.dateTime?, hyear, Date.of?_self, htime]

/-! ## Blanks and clock words -/

theorem DateTime.Written.mem_hyphen {d : DateTime} (h : d.Written) : '-' ∈ trim d.text := by
  refine mem_trim ?_ (by decide)
  rw [DateTime.text_eq h]
  simp

theorem exists_padded_last {width n : Nat} (hwidth : 0 < width) (h : n < 10 ^ width) :
    ∃ front e, padded width n = front ++ [e] ∧ isDigit e = true := by
  have hlen := length_padded hwidth h
  rcases List.eq_nil_or_concat' (padded width n) with hnil | ⟨front, e, hpadded⟩
  · rw [hnil, List.length_nil] at hlen
    omega
  · have hmem : e ∈ padded width n := by
      rw [hpadded]
      simp
    exact ⟨front, e, hpadded, isDigit_of_mem_padded hmem⟩

/-- The text of a date has digits at both ends. -/
theorem DateTime.exists_text {d : DateTime} (h : d.Written) :
    ∃ c cs front e, d.text = c :: cs ∧ isDigit c = true ∧ d.text = front ++ [e] ∧
      isDigit e = true := by
  obtain ⟨c, cs, hcs, hc⟩ := exists_padded (by decide : 0 < 4) h.year_lt
    ('-' :: (padded 2 d.date.month ++ '-' :: (padded 2 d.date.day ++ d.timeText)))
  rw [DateTime.text_eq h]
  suffices hlast : ∃ front e, padded 2 d.date.day ++ d.timeText = front ++ [e] ∧
      isDigit e = true by
    obtain ⟨front, e, hfront, he⟩ := hlast
    refine ⟨c, cs, padded 4 d.date.year.natAbs ++ '-' :: (padded 2 d.date.month ++ '-' :: front), e,
      hcs, hc, ?_, he⟩
    rw [hfront]
    simp
  -- the last digit is one of the second, or at midnight of the day
  unfold DateTime.timeText
  split
  · rw [List.append_nil]
    exact exists_padded_last (by decide) d.date.day_lt
  · obtain ⟨front, e, hfront, he⟩ := exists_padded_last (by decide) d.time.second_lt
    refine ⟨padded 2 d.date.day ++ ' ' :: (padded 2 d.time.hour ++ ':' ::
      (padded 2 d.time.minute ++ ':' :: front)), e, ?_, he⟩
    rw [TimeOfDay.text_eq h.nanos, List.append_nil, hfront]
    simp

/-- No clock word has a hyphen. -/
theorem not_clockWord {cs : List Char} (h : '-' ∈ cs) :
    clockWords.any (·.toList == cs) = false := by
  have hwords : ∀ word ∈ clockWords, '-' ∉ word.toList := by decide
  rw [List.any_eq_false]
  intro word hword heq
  exact hwords word hword (eq_of_beq heq ▸ h)

/-- The text that is written for a date reads as that date. -/
theorem readDateTime?_text {d : DateTime} (h : d.Written) (now : DateTime) :
    readDateTime? now d.text = some d := by
  obtain ⟨c, cs, front, e, hcs, hc, hfront, he⟩ := DateTime.exists_text h
  have htrimmed : Trimmed d.text := by
    constructor
    · rw [hcs]
      rintro b ⟨⟩
      exact isBlank_of_isDigit hc
    · rw [hfront, List.getLast?_concat]
      rintro b ⟨⟩
      exact isBlank_of_isDigit he
  have hclock : clockWords.any (·.toList == d.text) = false := by
    apply not_clockWord
    rw [DateTime.text_eq h]
    simp
  unfold readDateTime?
  rw [htrimmed.trim_eq]
  simp only [hclock, Bool.false_eq_true, if_false]
  rw [Parts.ofText?, (first_yearFirstForm h).whole?]
  exact DateTime.dateTime?_parts h

/-! ## Dates that are read -/

theorem Reader.mem_of_whole? {α : Type} {r : Reader α} {cs : List Char} {a : α}
    (h : r.whole? cs = some a) : (a, []) ∈ r cs := by
  obtain ⟨⟨b, rest⟩, hfind, rfl⟩ := Option.map_eq_some_iff.mp h
  have hempty := List.find?_some hfind
  obtain rfl : rest = [] := List.isEmpty_iff.mp hempty
  exact List.mem_of_find?_eq_some hfind

theorem year_of_yearFirstForm {p : Parts} {cs rest : List Char}
    (h : (p, rest) ∈ yearFirstForm cs) : p.year ≤ 9999 := by
  obtain ⟨year, cs, hyear, h⟩ := mem_bind.mp h
  obtain ⟨-, cs, -, h⟩ := mem_bind.mp h
  obtain ⟨month, cs, -, h⟩ := mem_bind.mp h
  obtain ⟨day, cs, -, h⟩ := mem_bind.mp h
  obtain ⟨time, cs, -, h⟩ := mem_bind.mp h
  obtain ⟨rfl, -⟩ := mem_pure.mp h
  exact Nat.le_of_lt_succ (mem_number hyear)

theorem fullYear_le {n : Nat} (h : n < 100) : fullYear n ≤ 9999 := by
  unfold fullYear
  split <;> omega

theorem year_of_dayFirstForm {p : Parts} {cs rest : List Char}
    (h : (p, rest) ∈ dayFirstForm cs) : p.year ≤ 9999 := by
  obtain ⟨day, cs, -, h⟩ := mem_bind.mp h
  obtain ⟨month, cs, -, h⟩ := mem_bind.mp h
  obtain ⟨-, cs, -, h⟩ := mem_bind.mp h
  obtain ⟨year, cs, hyear, h⟩ := mem_bind.mp h
  obtain ⟨time, cs, -, h⟩ := mem_bind.mp h
  obtain ⟨rfl, -⟩ := mem_pure.mp h
  rcases mem_orElse.mp hyear with hyear | hyear
  · exact Nat.le_of_lt_succ (mem_number hyear)
  · obtain ⟨n, cs, hn, hyear⟩ := mem_bind.mp hyear
    obtain ⟨rfl, -⟩ := mem_pure.mp hyear
    exact fullYear_le (mem_number hn)

theorem year_of_ofText? {cs : List Char} {p : Parts} (h : Parts.ofText? cs = some p) :
    p.year ≤ 9999 := by
  rcases Option.or_eq_some_iff.mp h with h | ⟨-, h⟩
  · exact year_of_yearFirstForm (mem_of_whole? h)
  · exact year_of_dayFirstForm (mem_of_whole? h)

theorem Parts.written_of_dateTime? {p : Parts} {d : DateTime} (h : p.dateTime? = some d)
    (hyear : p.year ≤ 9999) : d.Written := by
  unfold Parts.dateTime? at h
  simp only [Option.bind_eq_bind, Option.bind_eq_some_iff] at h
  obtain ⟨month, -, date, hdate, time, htime, h⟩ := h
  obtain rfl := Option.some.inj h
  have hdate := (Date.of?_eq_some_iff.mp hdate).1
  refine ⟨?_, (TimeOfDay.of?_eq_some_iff.mp htime).2⟩
  show 0 ≤ date.year ∧ date.year ≤ 9999
  omega

/-- A date that is read from a text other than a clock word can be written in a query. -/
theorem written_of_not_clockWord {now d : DateTime} {cs : List Char}
    (hword : clockWords.any (·.toList == trim cs) = false) (h : readDateTime? now cs = some d) :
    d.Written := by
  unfold readDateTime? at h
  simp only [hword, Bool.false_eq_true, if_false] at h
  obtain ⟨p, hp, hd⟩ := Option.bind_eq_some_iff.mp h
  exact Parts.written_of_dateTime? hd (year_of_ofText? hp)

/-- A date that is read from a text with a hyphen can be written in a query. -/
theorem written_of_readDateTime? {now d : DateTime} {cs : List Char} (hhyphen : '-' ∈ cs)
    (h : readDateTime? now cs = some d) : d.Written :=
  written_of_not_clockWord (not_clockWord (mem_trim hhyphen (by decide))) h

end ProfileQuery.Calendar
