import ProfileQuery.Proofs.Calendar.DateForm
import ProfileQuery.Proofs.Query.Lexicon
import ProfileQuery.Query.ConditionReader

/-!
# Literals

Integers and dates are written as single tokens of their kinds (`lexeme_integer`, `lexeme_date`),
which have the values that were written (`literalValue_integer`, `literalValue_date`). The dates
that tokens have as values, the clock words aside, can all be written
(`written_of_literalValue`).
-/

namespace ProfileQuery.Query

open Calendar (DateTime)
open Shape
open Text (isBlank isDigit padded writeInteger)

/-! ## Digits -/

/-- The digits. -/
def digitChars : List Char := ['0', '1', '2', '3', '4', '5', '6', '7', '8', '9']

theorem mem_digitChars {c : Char} (h : isDigit c = true) : c ∈ digitChars := by
  obtain ⟨hzero, hnine⟩ := Text.isDigit_iff.mp h
  have hall : ∀ n < 10, Char.ofNat (48 + n) ∈ digitChars := by decide
  have := hall (c.toNat - 48) (by omega)
  rwa [Nat.add_sub_cancel' hzero, Char.ofNat_toNat] at this

/-- No rule before the dates, nor the one for clock words, takes a text that starts with a digit or
a minus sign. -/
theorem starts_eq_false {rule : Kind × Shape}
    (hrule : rule ∈ lexicon.take 13 ∨ rule = (.clockWord, anyWord [":today", "now"])) {c : Char}
    (hc : isDigit c = true ∨ c = '-') : rule.2.starts c = false := by
  have hall : ('-' :: digitChars).all (fun c =>
      ((.clockWord, anyWord [":today", "now"]) :: lexicon.take 13).all fun rule =>
        !rule.2.starts c) = true := by decide
  have hmem : c ∈ '-' :: digitChars := by
    rcases hc with hc | rfl
    · exact List.mem_cons_of_mem _ (mem_digitChars hc)
    · exact List.mem_cons_self
  have hmem' : rule ∈ (.clockWord, anyWord [":today", "now"]) :: lexicon.take 13 := by
    rcases hrule with hrule | rfl
    · exact List.mem_cons_of_mem _ hrule
    · exact List.mem_cons_self
  have := List.all_eq_true.mp (List.all_eq_true.mp hall c hmem) rule hmem'
  simpa using this

theorem isSpacing_of_isDigit {c : Char} (h : isDigit c = true) : isSpacing c = false := by
  have hspace : c ≠ ' ' := fun hc => absurd (hc ▸ h) (by decide)
  have htab : c ≠ '\t' := fun hc => absurd (hc ▸ h) (by decide)
  simp [isSpacing, hspace, htab]

theorem isBlank_of_number {c : Char} (hc : isDigit c = true ∨ c = '-') : isBlank c = false := by
  rcases hc with hc | rfl
  · exact Calendar.isBlank_of_isDigit hc
  · decide

/-! ## Integers -/

/-- A sign, or none. -/
def signShape : Shape := optional (one fun c => c == '+' || c == '-')

/-- The shape of an integer. -/
def integerShape : Shape := inOrder [signShape, digitShape, run isDigit]

/-- A run of digits is taken whole, with a minus sign in front or without. -/
theorem takes_integerShape {sign : List Char} {c : Char} {cs : List Char}
    (hsign : sign = ['-'] ∨ sign = []) (hc : isDigit c = true)
    (hcs : ∀ d ∈ cs, isDigit d = true) : integerShape.Takes (sign ++ c :: cs) [] := by
  have hdigits : (inOrder [digitShape, run isDigit]).Takes ([c] ++ cs) [] := by
    refine Takes.next (takes_one hc _) (Takes.inOrder_singleton (takes_run hcs ?_))
    simp
  refine Takes.next ?_ hdigits
  rcases hsign with rfl | rfl
  · exact (takes_one (by decide) _).left
  · refine takes_optional_none rfl fun d hd => ?_
    obtain rfl : c = d := by simpa using hd
    have hplus : c ≠ '+' := fun h => absurd (h ▸ hc) (by decide)
    have hminus : c ≠ '-' := fun h => absurd (h ▸ hc) (by decide)
    simp [Shape.starts, hplus, hminus]

/-- No date has its only hyphen in front. -/
theorem not_date_of_digits {w : List Char} (h : ∀ d ∈ w.tail, isDigit d = true) :
    ¬ ∃ front back, w = front ++ '-' :: back ∧ front ≠ [] := by
  rintro ⟨front, back, rfl, hne⟩
  cases front with
  | nil => exact hne rfl
  | cons c front => exact absurd (h '-' (by simp)) (by decide)

theorem lexicon_split_integer : lexicon = (lexicon.take 13 ++ [(.yearFirstDate, yearFirstShape),
    (.dayFirstDate, dayFirstShape), (.clockWord, anyWord [":today", "now"])]) ++
      (.integer, integerShape) :: lexicon.drop 17 :=
  rfl

/-- A run of digits is an integer, with a minus sign in front or without. -/
theorem lexeme_of_digits {sign : List Char} {c : Char} {cs : List Char}
    (hsign : sign = ['-'] ∨ sign = []) (hc : isDigit c = true)
    (hcs : ∀ d ∈ cs, isDigit d = true) : Lexeme .integer (sign ++ c :: cs) := by
  obtain ⟨first, rest, hliteral, hfirst, hrest⟩ : ∃ first rest, sign ++ c :: cs = first :: rest ∧
      (isDigit first = true ∨ first = '-') ∧ ∀ d ∈ rest, isDigit d = true := by
    rcases hsign with rfl | rfl
    · exact ⟨'-', c :: cs, rfl, .inr rfl, List.forall_mem_cons.mpr ⟨hc, hcs⟩⟩
    · exact ⟨c, cs, rfl, .inl hc, hcs⟩
  refine lexeme_of_rule lexicon_split_integer (takes_integerShape hsign hc hcs).firstCut? ?_
    ⟨first, rest, hliteral, isBlank_of_number hfirst⟩
  intro other hother hmatches
  rw [hliteral] at hmatches
  have hnodate := not_date_of_digits (w := first :: rest) hrest
  simp only [List.mem_append, List.mem_cons, List.not_mem_nil, or_false] at hother
  rcases hother with hother | rfl | rfl | rfl
  · have := hmatches.starts
    rw [starts_eq_false (.inl hother) hfirst] at this
    cases this
  · exact hnodate (hyphen_of_yearFirstShape hmatches)
  · exact hnodate (hyphen_of_dayFirstShape hmatches)
  · have := hmatches.starts
    rw [starts_eq_false (.inr rfl) hfirst] at this
    cases this

/-- The text of an integer is an integer token. -/
theorem lexeme_integer (n : Int) : Lexeme .integer (writeInteger n).toList := by
  obtain ⟨c, cs, hdigits, hc, hcs⟩ := Text.exists_toDigits n.natAbs
  unfold writeInteger
  rw [String.toList_ofList, hdigits]
  split
  · exact lexeme_of_digits (.inl rfl) hc hcs
  · exact lexeme_of_digits (.inr rfl) hc hcs

theorem literalValue_integer (now : DateTime) (n : Int64) (place : Position) :
    literalValue now ⟨.integer, writeInteger n.toInt, place⟩ = .ok (.integer n) := by
  simp only [literalValue, Text.readInteger_writeInteger]

/-! ## Dates -/

theorem takes_padded {width n : Nat} (hwidth : 0 < width) (h : n < 10 ^ width)
    (rest : List Char) : (times width digitShape).Takes (padded width n) rest := by
  have hdigit : ∀ c ∈ padded width n, isDigit c = true := fun c hc => Text.isDigit_of_mem_padded hc
  have := takes_times hdigit rest
  rwa [Text.length_padded hwidth h] at this

theorem takes_shortNumberShape {n : Nat} (h : n < 100) (rest : List Char) :
    shortNumberShape.Takes (padded 2 n) rest :=
  (takes_padded (by decide) h rest).left

theorem takes_monthShape {n : Nat} (h : n < 100) (rest : List Char) :
    monthShape.Takes (padded 2 n) rest := by
  obtain ⟨a, b, hpadded⟩ := List.length_eq_two.mp (Text.length_padded (by decide : 0 < 2) h)
  have hdigit : ∀ c ∈ padded 2 n, isDigit c = true := fun c hc => Text.isDigit_of_mem_padded hc
  rw [hpadded] at hdigit ⊢
  have hb : (optional digitShape).Takes [b] rest := (takes_one (hdigit b (by simp)) rest).left
  exact ((takes_one (hdigit a (by simp)) _).next hb).left

theorem takes_clockShape {t : Calendar.TimeOfDay} (h : t.nanos = 0) :
    clockShape.Takes t.text [] := by
  rw [Calendar.TimeOfDay.text_eq h, List.append_nil]
  apply Takes.next (takes_padded (by decide) t.hour_lt _)
  apply Takes.next (takes_char ':' _)
  apply Takes.next (takes_padded (by decide) t.minute_lt _)
  refine Takes.inOrder_singleton (Takes.left ?_)
  exact (takes_char ':' _).next (takes_padded (by decide) t.second_lt _)

/-- A time of day in parentheses does not start with a space and a digit. -/
theorem cuts_parenthesized {c : Char} (hc : isDigit c = true) (cs : List Char) (n : Nat) :
    (inOrder [run isSpacing, char '(', clockShape, char ')']).cuts ⟨n, ' ' :: c :: cs⟩ = [] := by
  refine List.eq_nil_iff_forall_not_mem.mpr fun cut hcut => ?_
  obtain ⟨w, rest, hw, -, hmatches⟩ := (mem_cuts_iff _ n _ cut).mp hcut
  obtain ⟨spacing, v, rfl, hspacing, hmatches⟩ := matches_inOrder_cons_iff.mp hmatches
  obtain ⟨mark, v, rfl, hmark, -⟩ := matches_inOrder_cons_iff.mp hmatches
  rw [matches_char_iff.mp hmark, List.append_assoc] at hw
  -- the spacing would have to hold the digit, or the parenthesis to be one
  cases spacing with
  | nil => exact absurd (List.cons.inj hw).1 (by decide)
  | cons a spacing =>
    obtain ⟨-, hw⟩ := List.cons.inj hw
    cases spacing with
    | nil =>
      obtain ⟨rfl, -⟩ := List.cons.inj hw
      exact absurd hc (by decide)
    | cons b spacing =>
      obtain ⟨rfl, -⟩ := List.cons.inj hw
      have := matches_run_iff.mp hspacing c (by simp)
      rw [isSpacing_of_isDigit hc] at this
      cases this

theorem takes_timeShape {t : Calendar.TimeOfDay} (h : t.nanos = 0) :
    timeShape.Takes (' ' :: t.text) [] := by
  obtain ⟨c, cs, hcs, hdigit⟩ : ∃ c cs, t.text = c :: cs ∧ isDigit c = true := by
    rw [Calendar.TimeOfDay.text_eq h]
    exact Calendar.exists_padded (by decide) t.hour_lt _
  refine Takes.right ?_ fun n => ?_
  · apply Takes.next (takes_one (by decide) _)
    have hrun : (run isSpacing).Takes [] (t.text ++ []) := by
      refine takes_run (by simp) fun d hd => ?_
      rw [hcs] at hd
      obtain rfl : c = d := by simpa using hd
      exact isSpacing_of_isDigit hdigit
    exact hrun.next (Takes.inOrder_singleton (takes_clockShape h))
  · rw [hcs, List.append_nil]
    exact cuts_parenthesized hdigit cs n

theorem takes_yearFirstShape {d : DateTime} (h : d.Written) : yearFirstShape.Takes d.text [] := by
  rw [DateTime.text_eq h]
  apply Takes.next (takes_padded (by decide) h.year_lt _)
  apply Takes.next (takes_char '-' _)
  apply Takes.next (takes_monthShape d.date.month_lt _)
  rw [← List.cons_append]
  apply Takes.next ((takes_char '-' _).next (takes_shortNumberShape d.date.day_lt _)).left
  apply Takes.inOrder_singleton
  unfold DateTime.timeText
  split
  · exact takes_optional_none rfl (by simp)
  · exact (takes_timeShape h.nanos).left

theorem lexicon_split_date : lexicon = lexicon.take 13 ++
    (.yearFirstDate, yearFirstShape) :: lexicon.drop 14 :=
  rfl

/-- The text of a date is a date token with the year in front. -/
theorem lexeme_date {d : DateTime} (h : d.Written) : Lexeme .yearFirstDate d.text := by
  obtain ⟨c, cs, -, -, hcs, hc, -⟩ := DateTime.exists_text h
  refine lexeme_of_rule lexicon_split_date (takes_yearFirstShape h).firstCut? ?_
    ⟨c, cs, hcs, isBlank_of_number (.inl hc)⟩
  intro other hother hmatches
  rw [hcs] at hmatches
  have := hmatches.starts
  rw [starts_eq_false (.inl hother) (.inl hc)] at this
  cases this

theorem trim_isEmpty {cs : List Char} (h : '-' ∈ cs) : (Text.trim cs).isEmpty = false := by
  rw [List.isEmpty_eq_false_iff]
  exact List.ne_nil_of_mem (Text.mem_trim h (by decide))

theorem literalValue_date (now : DateTime) {d : DateTime} (h : d.Written) (place : Position) :
    literalValue now ⟨.yearFirstDate, String.ofList d.text, place⟩ = .ok (.date d) := by
  have hhyphen : '-' ∈ d.text := by
    rw [DateTime.text_eq h]
    simp
  simp only [literalValue, Value.ofCell, String.toList_ofList, trim_isEmpty hhyphen,
    Calendar.readDateTime?_text h now, Bool.false_eq_true, if_false]

/-- A token of a date has a hyphen. -/
theorem mem_hyphen {kind : Kind} {literal : List Char} (h : Lexeme kind literal)
    (hkind : kind = .yearFirstDate ∨ kind = .dayFirstDate) : '-' ∈ literal := by
  have hsplit : ∃ front back, literal = front ++ '-' :: back ∧ front ≠ [] := by
    rcases hkind with rfl | rfl
    · exact hyphen_of_yearFirstShape (h.matches_rule (by decide) rfl)
    · exact hyphen_of_dayFirstShape (h.matches_rule (by decide) rfl)
  obtain ⟨front, back, rfl, -⟩ := hsplit
  simp

/-- Only clock words have another value at another moment. -/
theorem ofCell_eq_of_date {kind : Kind} {literal : String} (h : Lexeme kind literal.toList)
    (hkind : kind = .yearFirstDate ∨ kind = .dayFirstDate) (now now' : DateTime) :
    Value.ofCell now .date literal = Value.ofCell now' .date literal := by
  have hhyphen := Text.mem_trim (mem_hyphen h hkind) (by decide)
  simp only [Value.ofCell, Calendar.readDateTime?, Calendar.not_clockWord hhyphen,
    Bool.false_eq_true, if_false]

/-- The value of a token of a date can be written. -/
theorem written_of_literalValue {now : DateTime} {t : Token} {v : Value}
    (ht : Lexeme t.kind t.literal.toList)
    (hkind : t.kind = .yearFirstDate ∨ t.kind = .dayFirstDate)
    (h : literalValue now t = .ok v) : ∃ d : DateTime, v = .date d ∧ d.Written := by
  have hhyphen := mem_hyphen ht hkind
  have hcell : Value.ofCell now .date t.literal = .ok v := by
    cases hcell : Value.ofCell now .date t.literal with
    | ok w => rcases hkind with hkind | hkind <;> simpa [literalValue, hkind, hcell] using h
    | error fault => rcases hkind with hkind | hkind <;> simp [literalValue, hkind, hcell] at h
  simp only [Value.ofCell, trim_isEmpty hhyphen, Bool.false_eq_true, if_false] at hcell
  cases hread : Calendar.readDateTime? now t.literal.toList with
  | none =>
    rw [hread] at hcell
    cases hcell
  | some d =>
    rw [hread] at hcell
    obtain rfl := Except.ok.inj hcell
    exact ⟨d, rfl, Calendar.written_of_readDateTime? hhyphen hread⟩

end ProfileQuery.Query
