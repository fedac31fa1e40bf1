import ProfileQuery.Proofs.Calendar.Unambiguous
import ProfileQuery.Proofs.Query.FirstFault
import ProfileQuery.Proofs.Query.LeadingWord
import ProfileQuery.Proofs.Text.Numeral

/-!
# Literals and cells

The literals of a query are told apart by the shapes of their tokens, and have their values by the
readers of cells. Every date token is a spelled date (`exists_spelling`), and every integer token is
a sign and digits, whose number is read wherever it is in range (`readInteger_eq`). So a literal has
no value only where its number or its date does not exist, and where it has one, it is that of a cell
with the same text (`Select.literals_of_cells`).
-/

namespace ProfileQuery.Query

open Calendar
open Shape
open Text

variable {w : List Char}

/-! ## Date tokens -/

theorem exists_digits {n : Nat} (h : (times n digitShape).Matches w) :
    ∃ d : Digits n n, w = d.chars := by
  induction n generalizing w with
  | zero =>
    obtain rfl := matches_nothing_iff.mp h
    exact ⟨⟨[], ⟨Nat.le_refl _, Nat.le_refl _⟩, List.forall_mem_nil _⟩, rfl⟩
  | succ n ih =>
    obtain ⟨u, v, rfl, hu, hv⟩ := matches_inOrder_cons_iff.mp h
    obtain ⟨c, rfl, hc⟩ := matches_one_iff.mp hu
    obtain ⟨d, rfl⟩ := ih hv
    have hlength := d.length
    refine ⟨⟨c :: d.chars, ?_, List.forall_mem_cons.mpr ⟨hc, d.digit⟩⟩, rfl⟩
    rw [List.length_cons]
    omega

/-- One digit and then another one, or not. -/
theorem exists_shortNumber {u v : List Char} (hu : digitShape.Matches u)
    (hv : (optional digitShape).Matches v) : ∃ d : Digits 1 2, u ++ v = d.chars := by
  obtain ⟨a, rfl, ha⟩ := matches_one_iff.mp hu
  rcases matches_optional_iff.mp hv with hv | rfl
  · obtain ⟨b, rfl, hb⟩ := matches_one_iff.mp hv
    exact ⟨⟨[a, b], by simp, by simp [ha, hb]⟩, rfl⟩
  · exact ⟨⟨[a], by simp, by simp [ha]⟩, rfl⟩

theorem exists_shortNumber_of_matches (h : shortNumberShape.Matches w) :
    ∃ d : Digits 1 2, w = d.chars := by
  rcases matches_either_iff.mp h with h | h
  · obtain ⟨d, rfl⟩ := exists_digits h
    exact ⟨d.bounded 1 2 ⟨by have := d.length; omega, d.length.2⟩, rfl⟩
  · have := exists_shortNumber h (matches_optional_iff.mpr (.inr rfl))
    rwa [List.append_nil] at this

/-- The month of a date token has a number. -/
theorem exists_month (h : monthShape.Matches w) :
    ∃ m : MonthSpelling, w = m.text ∧ m.number? ≠ none := by
  rcases matches_either_iff.mp h with h | h
  · obtain ⟨u, v, rfl, hu, hv⟩ := matches_next_iff.mp h
    obtain ⟨d, hd⟩ := exists_shortNumber hu hv
    exact ⟨.number d, hd, Option.some_ne_none _⟩
  · obtain ⟨word, hword, rfl⟩ := matches_anyWord_iff.mp h
    have hwords : ∀ word ∈ monthNames, word.toList.length = 3 ∧
        (∀ c ∈ word.toList, c.isAlpha = true) ∧ word.toList.map Char.toLower = word.toList := by
      simp [monthNames]
    obtain ⟨length, letter, hlower⟩ := hwords word hword
    refine ⟨.letters word.toList length letter, rfl, ?_⟩
    have hfound : (monthNumber? word.toList).isSome = true := by
      rw [monthNumber?, Option.isSome_map, List.findIdx?_isSome, hlower]
      exact List.any_eq_true.mpr ⟨word, hword, beq_self_eq_true _⟩
    rw [MonthSpelling.number?, ← monthNumber?_eq]
    exact Option.isSome_iff_ne_none.mp hfound

/-- Something behind a mark, or nothing. -/
theorem exists_marked {least most : Nat} {s : Shape} {c : Char}
    (hs : ∀ {w}, s.Matches w → ∃ d : Digits least most, w = d.chars)
    (h : (optional (next (char c) s)).Matches w) :
    ∃ o : Option (Digits least most), w = markedText c o := by
  rcases matches_optional_iff.mp h with h | rfl
  · obtain ⟨u, v, rfl, hu, hv⟩ := matches_next_iff.mp h
    obtain rfl := matches_char_iff.mp hu
    obtain ⟨d, rfl⟩ := hs hv
    exact ⟨some d, rfl⟩
  · exact ⟨none, rfl⟩

theorem exists_clock (h : clockShape.Matches w) :
    ∃ (hour minute : Digits 2 2) (second : Option (Digits 2 2)),
      w = hour.chars ++ ':' :: (minute.chars ++ markedText ':' second) := by
  obtain ⟨_, _, rfl, hhour, h⟩ := matches_inOrder_cons_iff.mp h
  obtain ⟨_, _, rfl, hcolon, h⟩ := matches_inOrder_cons_iff.mp h
  obtain ⟨_, _, rfl, hminute, h⟩ := matches_inOrder_cons_iff.mp h
  obtain ⟨_, _, rfl, hsecond, hnil⟩ := matches_inOrder_cons_iff.mp h
  obtain rfl := matches_nothing_iff.mp hnil
  obtain ⟨hour, rfl⟩ := exists_digits hhour
  obtain rfl := matches_char_iff.mp hcolon
  obtain ⟨minute, rfl⟩ := exists_digits hminute
  obtain ⟨second, rfl⟩ := exists_marked exists_digits hsecond
  exact ⟨hour, minute, second, by simp⟩

theorem isBlank_of_isSpacing {c : Char} (h : isSpacing c = true) : isBlank c = true := by
  rw [isSpacing, Bool.or_eq_true, beq_iff_eq, beq_iff_eq] at h
  rcases h with rfl | rfl <;> rfl

/-- A time of a date token has both of its parentheses, or blanks in front of it. -/
theorem exists_time (h : (optional timeShape).Matches w) :
    ∃ time : Option TimeSpelling, w = timeText time := by
  rcases matches_optional_iff.mp h with h | rfl
  rotate_left
  · exact ⟨none, rfl⟩
  rcases matches_either_iff.mp h with h | h
  · obtain ⟨blanks, _, rfl, hblanks, h⟩ := matches_inOrder_cons_iff.mp h
    obtain ⟨_, _, rfl, hopen, h⟩ := matches_inOrder_cons_iff.mp h
    obtain ⟨_, _, rfl, hclock, h⟩ := matches_inOrder_cons_iff.mp h
    obtain ⟨_, _, rfl, hclose, hnil⟩ := matches_inOrder_cons_iff.mp h
    obtain rfl := matches_nothing_iff.mp hnil
    obtain rfl := matches_char_iff.mp hopen
    obtain rfl := matches_char_iff.mp hclose
    obtain ⟨hour, minute, second, rfl⟩ := exists_clock hclock
    have hblank c (hc : c ∈ blanks) := isBlank_of_isSpacing (matches_run_iff.mp hblanks c hc)
    refine ⟨some ⟨blanks, hblank, true, hour, minute, second, true⟩, ?_⟩
    simp [timeText, TimeSpelling.text, TimeSpelling.clockText, TimeSpelling.tailText, markText]
  · obtain ⟨_, _, rfl, hfirst, h⟩ := matches_inOrder_cons_iff.mp h
    obtain ⟨blanks, _, rfl, hblanks, h⟩ := matches_inOrder_cons_iff.mp h
    obtain ⟨_, _, rfl, hclock, hnil⟩ := matches_inOrder_cons_iff.mp h
    obtain rfl := matches_nothing_iff.mp hnil
    obtain ⟨c, rfl, hc⟩ := matches_one_iff.mp hfirst
    obtain ⟨hour, minute, second, rfl⟩ := exists_clock hclock
    have hblank : ∀ d ∈ c :: blanks, isBlank d = true :=
      List.forall_mem_cons.mpr ⟨isBlank_of_isSpacing hc,
        fun d hd => isBlank_of_isSpacing (matches_run_iff.mp hblanks d hd)⟩
    refine ⟨some ⟨c :: blanks, hblank, false, hour, minute, second, false⟩, ?_⟩
    simp [timeText, TimeSpelling.text, TimeSpelling.clockText, TimeSpelling.tailText, markText]

theorem exists_yearFirst (h : yearFirstShape.Matches w) :
    ∃ s : YearFirst, s.text = w ∧ s.month.number? ≠ none := by
  obtain ⟨_, _, rfl, hyear, h⟩ := matches_inOrder_cons_iff.mp h
  obtain ⟨_, _, rfl, hhyphen, h⟩ := matches_inOrder_cons_iff.mp h
  obtain ⟨_, _, rfl, hmonth, h⟩ := matches_inOrder_cons_iff.mp h
  obtain ⟨_, _, rfl, hday, h⟩ := matches_inOrder_cons_iff.mp h
  obtain ⟨_, _, rfl, htime, hnil⟩ := matches_inOrder_cons_iff.mp h
  obtain rfl := matches_nothing_iff.mp hnil
  obtain ⟨year, rfl⟩ := exists_digits hyear
  obtain rfl := matches_char_iff.mp hhyphen
  obtain ⟨month, rfl, hnumber⟩ := exists_month hmonth
  obtain ⟨day, rfl⟩ := exists_marked exists_shortNumber_of_matches hday
  obtain ⟨time, rfl⟩ := exists_time htime
  exact ⟨⟨year, month, day, time⟩, by simp [YearFirst.text, YearFirst.tailText], hnumber⟩

theorem exists_day (h : (optional (next shortNumberShape (char '-'))).Matches w) :
    ∃ day : Option (Digits 1 2), w = dayText day := by
  rcases matches_optional_iff.mp h with h | rfl
  · obtain ⟨u, v, rfl, hu, hv⟩ := matches_next_iff.mp h
    obtain ⟨d, rfl⟩ := exists_shortNumber_of_matches hu
    obtain rfl := matches_char_iff.mp hv
    exact ⟨some d, rfl⟩
  · exact ⟨none, rfl⟩

/-- Two digits, or two more in front of them. -/
theorem exists_year {u v : List Char} (hu : (optional (times 2 digitShape)).Matches u)
    (hv : (times 2 digitShape).Matches v) : ∃ y : YearSpelling, u ++ v = y.text := by
  obtain ⟨back, rfl⟩ := exists_digits hv
  rcases matches_optional_iff.mp hu with hu | rfl
  · obtain ⟨front, rfl⟩ := exists_digits hu
    have hfront := front.length
    have hback := back.length
    have hlength : 4 ≤ (front.chars ++ back.chars).length ∧
        (front.chars ++ back.chars).length ≤ 4 := by
      rw [List.length_append]
      omega
    exact ⟨.full ⟨_, hlength, List.forall_mem_append.mpr ⟨front.digit, back.digit⟩⟩, rfl⟩
  · exact ⟨.short back, rfl⟩

theorem exists_dayFirst (h : dayFirstShape.Matches w) :
    ∃ s : DayFirst, s.text = w ∧ s.month.number? ≠ none := by
  obtain ⟨_, _, rfl, hday, h⟩ := matches_inOrder_cons_iff.mp h
  obtain ⟨_, _, rfl, hmonth, h⟩ := matches_inOrder_cons_iff.mp h
  obtain ⟨_, _, rfl, hhyphen, h⟩ := matches_inOrder_cons_iff.mp h
  obtain ⟨_, _, rfl, hcentury, h⟩ := matches_inOrder_cons_iff.mp h
  obtain ⟨_, _, rfl, hyear, h⟩ := matches_inOrder_cons_iff.mp h
  obtain ⟨_, _, rfl, htime, hnil⟩ := matches_inOrder_cons_iff.mp h
  obtain rfl := matches_nothing_iff.mp hnil
  obtain ⟨day, rfl⟩ := exists_day hday
  obtain ⟨month, rfl, hnumber⟩ := exists_month hmonth
  obtain rfl := matches_char_iff.mp hhyphen
  obtain ⟨year, hyear⟩ := exists_year hcentury hyear
  obtain ⟨time, rfl⟩ := exists_time htime
  refine ⟨⟨day, month, year, time⟩, ?_, hnumber⟩
  simp [DayFirst.text, DayFirst.tailText, ← hyear]

/-- A date token has its date in one of the forms, and the month has a number. -/
theorem exists_spelling {t : Token} (h : Lexeme t.kind t.literal.toList)
    (hkind : t.kind = .yearFirstDate ∨ t.kind = .dayFirstDate) :
    ∃ s : DateSpelling, s.text = t.literal.toList ∧ s.parts.month ≠ none := by
  rcases hkind with hkind | hkind
  · rw [hkind] at h
    obtain ⟨s, htext, hmonth⟩ := exists_yearFirst (h.matches_rule (by decide) rfl)
    exact ⟨.yearFirst s, htext, hmonth⟩
  · rw [hkind] at h
    obtain ⟨s, htext, hmonth⟩ := exists_dayFirst (h.matches_rule (by decide) rfl)
    exact ⟨.dayFirst s, htext, hmonth⟩

/-! ## Integer tokens -/

/-- The number that a sign, if there is one, and digits stand for. -/
def numeral : List Char → Int
  | '-' :: digits => -Nat.ofDigitChars 10 digits 0
  | '+' :: digits => Nat.ofDigitChars 10 digits 0
  | digits => Nat.ofDigitChars 10 digits 0

theorem numeral_text (n : Numeral) : numeral n.text = n.value := by
  obtain ⟨c, cs, hdigits, hplus, hminus⟩ := n.exists_digits
  unfold Numeral.text Numeral.value
  cases hsign : n.sign with
  | none =>
    rw [Sign.text, List.nil_append, hdigits]
    unfold numeral
    split <;> simp_all [signed, Sign.negative]
  | plus => rfl
  | minus => rfl

/-- An integer token is a sign or none, and digits. -/
theorem exists_numeral (h : integerShape.Matches w) : ∃ n : Numeral, w = n.text := by
  obtain ⟨front, _, rfl, hsign, h⟩ := matches_inOrder_cons_iff.mp h
  obtain ⟨_, _, rfl, hfirst, h⟩ := matches_inOrder_cons_iff.mp h
  obtain ⟨digits, _, rfl, hdigits, hnil⟩ := matches_inOrder_cons_iff.mp h
  obtain rfl := matches_nothing_iff.mp hnil
  obtain ⟨c, rfl, hc⟩ := matches_one_iff.mp hfirst
  have hdigit : ∀ d ∈ c :: digits, isDigit d = true :=
    List.forall_mem_cons.mpr ⟨hc, matches_run_iff.mp hdigits⟩
  obtain ⟨sign, rfl⟩ : ∃ sign : Sign, front = sign.text := by
    rcases matches_optional_iff.mp hsign with hsign | rfl
    · obtain ⟨s, rfl, hs⟩ := matches_one_iff.mp hsign
      rw [Bool.or_eq_true, beq_iff_eq, beq_iff_eq] at hs
      rcases hs with rfl | rfl
      · exact ⟨.plus, rfl⟩
      · exact ⟨.minus, rfl⟩
    · exact ⟨.none, rfl⟩
  exact ⟨⟨sign, c :: digits, List.cons_ne_nil _ _, hdigit⟩, by simp [Numeral.text]⟩

/-- An integer token is read as its number wherever that is in range. -/
theorem readInteger_eq (h : integerShape.Matches w) :
    readInteger w = (ranged (numeral w)).map Int64.ofInt := by
  obtain ⟨n, rfl⟩ := exists_numeral h
  rw [numeral_text]
  exact readInteger_text 0 n

/-- There are no blanks in an integer token. -/
theorem bare_integer (h : integerShape.Matches w) : Bare w := by
  obtain ⟨n, rfl⟩ := exists_numeral h
  refine List.forall_mem_append.mpr ⟨?_, fun d hd => isBlank_of_isDigit (n.digit d hd)⟩
  cases n.sign with
  | none => exact List.forall_mem_nil _
  | plus => exact List.forall_mem_singleton.mpr rfl
  | minus => exact List.forall_mem_singleton.mpr rfl

/-! ## Operators -/

theorem exists_operator {t : Token} (h : Lexeme t.kind t.literal.toList)
    (hkind : t.kind = .comparison) : ∃ op, Operator.ofSymbol? t.literal = some op := by
  rw [hkind] at h
  obtain ⟨word, hword, hliteral⟩ := matches_anyWord_iff.mp (h.matches_rule (by decide) rfl)
  obtain hliteral : t.literal = word := String.toList_inj.mp hliteral
  have hwords : ∀ word ∈ ["==", "=", "!=", "~", "!~", "<=", "<", ">=", ">"],
      (Operator.ofSymbol? word).isSome = true := by decide
  exact Option.isSome_iff_exists.mp (hliteral ▸ hwords word hword)

/-! ## Values -/

/-- An integer token whose number is out of range. -/
def Token.OutOfRange (t : Token) : Prop :=
  t.kind = .integer ∧
    ¬ (minInteger ≤ numeral t.literal.toList ∧ numeral t.literal.toList ≤ maxInteger)

/-- A date token whose year, month, day and time no moment has. -/
def Token.NamesNoMoment (t : Token) : Prop :=
  (t.kind = .yearFirstDate ∨ t.kind = .dayFirstDate) ∧
    ∃ s : DateSpelling, s.text = t.literal.toList ∧ ∀ d, ¬ s.parts.Names d

section

variable {now : DateTime} {t : Token}

theorem matches_integerShape (hkind : t.kind = .integer) (h : Lexeme t.kind t.literal.toList) :
    integerShape.Matches t.literal.toList := by
  rw [hkind] at h
  exact h.matches_rule (by decide) rfl

theorem outOfRange_of_refused {fault : LiteralFault} (hkind : t.kind = .integer)
    (h : Lexeme t.kind t.literal.toList)
    (hfault : literalValue now t = .error (.invalidLiteral fault t)) : t.OutOfRange := by
  refine ⟨hkind, fun hrange => ?_⟩
  simp only [literalValue, hkind, readInteger_eq (matches_integerShape hkind h),
    ranged_eq_ok hrange.1 hrange.2] at hfault
  cases hfault

theorem literalValue_date_eq (hkind : t.kind = .yearFirstDate ∨ t.kind = .dayFirstDate) :
    literalValue now t = match Value.ofCell now .date t.literal with
      | .ok value => .ok value
      | .error fault => .error (.invalidLiteral (.date fault) t) := by
  cases hvalue : Value.ofCell now .date t.literal <;>
    rcases hkind with hkind | hkind <;> simp only [literalValue, hkind, hvalue]

theorem namesNoMoment_of_refused {fault : LiteralFault}
    (hkind : t.kind = .yearFirstDate ∨ t.kind = .dayFirstDate)
    (h : Lexeme t.kind t.literal.toList)
    (hfault : literalValue now t = .error (.invalidLiteral fault t)) : t.NamesNoMoment := by
  obtain ⟨s, htext, -⟩ := exists_spelling h hkind
  refine ⟨hkind, s, htext, fun d hd => ?_⟩
  rw [literalValue_date_eq hkind, Value.ofCell, ← htext, trim_isEmpty s.hyphen_mem,
    s.readDateTime?_eq_some_iff.mpr hd] at hfault
  cases hfault

/-- Only numbers that are out of range and dates that do not exist are refused. -/
theorem cause_of_refused {fault : LiteralFault} (h : Lexeme t.kind t.literal.toList)
    (hrefused : Refused now fault t) : t.OutOfRange ∨ t.NamesNoMoment := by
  rcases hrefused with ⟨hkind, hnone⟩ | ⟨⟨op, htakes⟩, hfault⟩
  · obtain ⟨op, hop⟩ := exists_operator h hkind
    rw [hop] at hnone
    cases hnone
  have hkinds : t.kind = .integer ∨ (t.kind = .yearFirstDate ∨ t.kind = .dayFirstDate) ∨
      t.kind = .clockWord ∨ t.kind = .doubleQuoted ∨ t.kind = .singleQuoted := by
    cases op <;> simp only [Operator.Takes, Kind.IsChecked, Kind.IsString, Kind.IsDate] at htakes <;>
      tauto
  rcases hkinds with hkind | hkind | hkind | hkind | hkind
  · exact .inl (outOfRange_of_refused hkind h hfault)
  · exact .inr (namesNoMoment_of_refused hkind h hfault)
  · rw [literalValue_clockWord hkind (hkind ▸ h)] at hfault
    cases hfault
  all_goals
    simp only [literalValue, hkind] at hfault
    cases hfault

/-- An integer token has the value of a cell with the same text. -/
theorem toOption_literalValue_integer (hkind : t.kind = .integer)
    (h : Lexeme t.kind t.literal.toList) (now' : DateTime) :
    (literalValue now t).toOption = (Value.ofCell now' .integer t.literal).toOption := by
  have htrim := (bare_integer (matches_integerShape hkind h)).trimmed.trim_eq
  obtain ⟨c, cs, hliteral⟩ := List.exists_cons_of_ne_nil h.ne_nil
  rw [hliteral] at htrim
  simp only [literalValue, hkind, Value.ofCell, hliteral, htrim]
  cases readInteger (c :: cs) <;> rfl

/-- A date token has the value of a cell with the same text. -/
theorem toOption_literalValue_date (hkind : t.kind = .yearFirstDate ∨ t.kind = .dayFirstDate)
    (h : Lexeme t.kind t.literal.toList) (now' : DateTime) :
    (literalValue now t).toOption = (Value.ofCell now' .date t.literal).toOption := by
  rw [literalValue_date_eq hkind, ofCell_eq_of_date h hkind now now']
  cases Value.ofCell now' .date t.literal <;> rfl

end

/-! ## Queries -/

/-- What is reported as invalid is a token of the text that is refused. -/
theorem refused_of_readBody {now : DateTime} {text : String} {ts : List Token}
    {fault : LiteralFault} {t : Token} (hend : ∃ t ∈ ts, t.kind = .endOfInput)
    (h : readBody now text ts = .error (.invalidLiteral fault t)) :
    t ∈ ts ∧ Refused now fault t :=
  justified_readBody hend _ h

theorem refused_of_ofBody {now : DateTime} {text : String} {fault : LiteralFault} {t : Token}
    (h : Select.ofBody now text = .error (.invalidLiteral fault t)) :
    t ∈ scan text ∧ Refused now fault t := by
  obtain ⟨ts, place, hscan, -⟩ := exists_scan text
  exact refused_of_readBody ⟨.atEnd place, by simp [hscan], rfl⟩ h

theorem refused_of_ofText {now : DateTime} {text : String} {fault : LiteralFault} {t : Token}
    (h : Select.ofText now text = .error (.invalidLiteral fault t)) :
    t ∈ scan text ∧ Refused now fault t := by
  simp only [Select.ofText] at h
  split at h
  · cases h
  · next hname =>
    split at h
    · -- the end of the input is marked behind the word as well
      obtain ⟨ts, place, hscan, -⟩ := exists_scan text
      rw [hscan] at h hname ⊢
      cases ts with
      | nil => cases hname
      | cons first ts =>
        obtain ⟨hmem, hrefused⟩ := refused_of_readBody ⟨.atEnd place, by simp, rfl⟩ h
        exact ⟨List.mem_of_mem_tail hmem, hrefused⟩
    · cases h
  · cases h

theorem Refused.kind_ne_endOfInput {now : DateTime} {fault : LiteralFault} {t : Token}
    (h : Refused now fault t) : t.kind ≠ .endOfInput := by
  rcases h with ⟨hkind, -⟩ | ⟨⟨op, htakes⟩, -⟩
  · simp [hkind]
  · intro hkind
    rw [hkind] at htakes
    cases op <;> simp [Operator.Takes, Kind.IsChecked, Kind.IsString, Kind.IsDate] at htakes

/-- Literals are read as cells are. A token that is reported as an invalid literal is an integer out
of range or a date that does not exist; the operators and the dates of a text are recognised, the
latter with a month that exists by name; and integers and dates have the value of a cell with the
same text, or none where that has none. -/
theorem Select.literals_of_cells (now : DateTime) (text : String) :
    (∀ fault t, Select.ofText now text = .error (.invalidLiteral fault t) ∨
        Select.ofBody now text = .error (.invalidLiteral fault t) →
      t ∈ scan text ∧ (t.OutOfRange ∨ t.NamesNoMoment)) ∧
    ∀ t ∈ scan text,
      (t.kind = .comparison → ∃ op, Operator.ofSymbol? t.literal = some op) ∧
      (t.kind = .yearFirstDate ∨ t.kind = .dayFirstDate → ∃ s : DateSpelling,
        s.text = t.literal.toList ∧ s.parts.month ≠ none ∧
        Parts.ofText? (trim t.literal.toList) = some s.parts ∧
        ∀ now' d, readDateTime? now' t.literal.toList = some d ↔ s.parts.Names d) ∧
      ∀ now',
        (t.kind = .integer →
          (literalValue now t).toOption = (Value.ofCell now' .integer t.literal).toOption) ∧
        (t.kind = .yearFirstDate ∨ t.kind = .dayFirstDate →
          (literalValue now t).toOption = (Value.ofCell now' .date t.literal).toOption) := by
  constructor
  · intro fault t h
    obtain ⟨hmem, hrefused⟩ := h.elim refused_of_ofText refused_of_ofBody
    exact ⟨hmem, cause_of_refused (lexeme_of_mem_scan hmem hrefused.kind_ne_endOfInput) hrefused⟩
  · intro t hmem
    have hlexeme (kind : Kind) (hkind : t.kind = kind) (hne : kind ≠ .endOfInput) :
        Lexeme t.kind t.literal.toList := lexeme_of_mem_scan hmem (hkind ▸ hne)
    have hdate (hkind : t.kind = .yearFirstDate ∨ t.kind = .dayFirstDate) :
        Lexeme t.kind t.literal.toList :=
      hkind.elim (hlexeme _ · (by decide)) (hlexeme _ · (by decide))
    refine ⟨fun hkind => exists_operator (hlexeme _ hkind (by decide)) hkind, ?_, fun now' => ?_⟩
    · intro hkind
      obtain ⟨s, htext, hmonth⟩ := exists_spelling (hdate hkind) hkind
      refine ⟨s, htext, hmonth, ?_, fun now' d => ?_⟩
      · exact Parts.ofText?_eq_some_iff.mpr ⟨s, by rw [← htext, s.trimmed.trim_eq], rfl⟩
      · rw [← htext, s.readDateTime?_eq_some_iff]
    · exact ⟨fun hkind => toOption_literalValue_integer hkind (hlexeme _ hkind (by decide)) now',
        fun hkind => toOption_literalValue_date hkind (hdate hkind) now'⟩

/-- The number behind the largest is out of range. -/
theorem Select.literals_of_cells_large :
    Select.ofBody leapDay "a from r where a<9223372036854775808" = .error (.invalidLiteral
      (.integer .tooLarge) ⟨.integer, "9223372036854775808", ⟨1, 18⟩⟩) ∧
    Token.OutOfRange ⟨.integer, "9223372036854775808", ⟨1, 18⟩⟩ := by
  have h : Select.ofBody leapDay "a from r where a<9223372036854775808" = .error (.invalidLiteral
      (.integer .tooLarge) ⟨.integer, "9223372036854775808", ⟨1, 18⟩⟩) := by cbv
  obtain ⟨-, hrange | hmoment⟩ := (Select.literals_of_cells leapDay _).1 _ _ (.inr h)
  · exact ⟨h, hrange⟩
  · rcases hmoment.1 with hkind | hkind <;> cases hkind

end ProfileQuery.Query
