import ProfileQuery.Cell
import ProfileQuery.Proofs.Calendar.Unambiguous
import ProfileQuery.Proofs.Text.Numeral

/-!
# Reading cells

A cell of an integer column is missing when it is blank, and an integer when one numeral stands in it
(`Value.IntegerCell`). What is read beyond that are numerals with a sign that has further plus signs
in front of it, and nothing else (`Value.ofCell_integer_iff`). Whatever is read, the clock words
aside, is read again from its own text (`Value.ofCell_render`).
-/

namespace ProfileQuery

open Calendar (DateTime clockWords readDateTime?)
open Text

namespace Value

variable {now : DateTime} {datatype : DataType} {raw : String} {v : Value}

/-! ## Integers -/

/-- What an integer column is to hold for a text: nothing for a blank one, else the number of the
numeral that stands between blanks. -/
inductive IntegerCell (raw : List Char) : Value → Prop where
  | null (blank : ∀ c ∈ raw, isBlank c = true) : IntegerCell raw .null
  | integer (w : Numeral) (n : Int64) (text : trim raw = w.text) (value : w.value = n.toInt) :
      IntegerCell raw (.integer n)

/-- What an integer column does hold for a text: plus signs in front of the numeral do not count. -/
inductive PlussedCell (raw : List Char) : Value → Prop where
  | null (blank : ∀ c ∈ raw, isBlank c = true) : PlussedCell raw .null
  | integer (plus : Nat) (w : Numeral) (n : Int64)
      (text : trim raw = List.replicate plus '+' ++ w.text) (value : w.value = n.toInt) :
      PlussedCell raw (.integer n)

theorem ofCell_integer_of_blank (h : trim raw.toList = []) :
    ofCell now .integer raw = .ok .null := by
  simp only [ofCell, h]

theorem ofCell_integer_of_ne_nil (h : trim raw.toList ≠ []) :
    (ofCell now .integer raw = .ok v ↔
      ∃ n, readInteger (trim raw.toList) = .ok n ∧ v = .integer n) ∧
    ∀ fault, ofCell now .integer raw = .error fault →
      ∃ reason, fault = .notInteger raw reason := by
  obtain ⟨c, cs, hcs⟩ := List.exists_cons_of_ne_nil h
  simp only [ofCell, hcs]
  cases readInteger (c :: cs) with
  | ok n => simp [eq_comm]
  | error reason => simp [eq_comm]

theorem ofCell_integer_eq_ok_iff :
    ofCell now .integer raw = .ok v ↔ PlussedCell raw.toList v := by
  by_cases hblank : trim raw.toList = []
  · rw [ofCell_integer_of_blank hblank]
    constructor
    · intro h
      obtain rfl := Except.ok.inj h
      exact .null (trim_eq_nil_iff.mp hblank)
    · rintro (_ | ⟨plus, w, n, htext, -⟩)
      · rfl
      · rw [htext, List.append_eq_nil_iff] at hblank
        exact absurd hblank.2 w.text_ne_nil
  · rw [(ofCell_integer_of_ne_nil hblank).1]
    constructor
    · rintro ⟨n, hread, rfl⟩
      obtain ⟨plus, w, htext, hvalue⟩ := readInteger_eq_ok_iff.mp hread
      exact .integer plus w n htext hvalue
    · rintro (hnone | ⟨plus, w, n, htext, hvalue⟩)
      · exact absurd (trim_eq_nil_iff.mpr hnone) hblank
      · exact ⟨n, readInteger_eq_ok_iff.mpr ⟨plus, w, htext, hvalue⟩, rfl⟩

/-- A text that is no integer is refused as such. -/
theorem ofCell_integer_eq_error {fault : CellFault} (h : ofCell now .integer raw = .error fault) :
    ∃ reason, fault = .notInteger raw reason := by
  by_cases hblank : trim raw.toList = []
  · rw [ofCell_integer_of_blank hblank] at h
    cases h
  · exact (ofCell_integer_of_ne_nil (v := .null) hblank).2 fault h

/-- A numeral behind plus signs stands alone, unless it has a sign of its own. -/
theorem PlussedCell.integerCell {raw : List Char} (h : PlussedCell raw v)
    (hsingle : ¬ ∃ (plus : Nat) (w : Numeral), w.sign ≠ .none ∧ w.InRange ∧
      trim raw = List.replicate (plus + 1) '+' ++ w.text) : IntegerCell raw v := by
  cases h with
  | null blank => exact .null blank
  | integer plus w n text value =>
    have hrange : w.InRange :=
      ⟨value ▸ n.le_toInt, value ▸ Int.le_of_lt_add_one n.toInt_lt⟩
    cases plus with
    | zero => exact .integer w n text value
    | succ plus =>
      cases hsign : w.sign with
      | plus => exact absurd ⟨plus, w, by simp [hsign], hrange, text⟩ hsingle
      | minus => exact absurd ⟨plus, w, by simp [hsign], hrange, text⟩ hsingle
      | none =>
        -- the last of the plus signs is the sign of the digits
        let w' : Numeral := ⟨.plus, w.digits, w.ne_nil, w.digit⟩
        have htext' : trim raw = List.replicate plus '+' ++ w'.text := by
          rw [text, List.replicate_succ', List.append_assoc, Numeral.text, hsign]
          rfl
        have hvalue' : w'.value = n.toInt := by
          rw [← value, Numeral.value, Numeral.value, hsign]
          rfl
        cases plus with
        | zero => exact .integer w' n htext' hvalue'
        | succ plus =>
          refine absurd ⟨plus, w', by simp [w'], ?_, htext'⟩ hsingle
          exact ⟨hvalue' ▸ n.le_toInt, hvalue' ▸ Int.le_of_lt_add_one n.toInt_lt⟩

theorem IntegerCell.plussedCell {raw : List Char} (h : IntegerCell raw v) : PlussedCell raw v := by
  cases h with
  | null blank => exact .null blank
  | integer w n text value => exact .integer 0 w n text value

/-- An integer cell holds the number of the numeral in it, where plus signs in front do not count, or
nothing if it is blank; any other text is refused. A single sign is all that is read except where a
numeral in range has a sign and plus signs stand before it. -/
theorem ofCell_integer_iff (now : DateTime) (raw : String) :
    (∀ v, ofCell now .integer raw = .ok v ↔ PlussedCell raw.toList v) ∧
      (∀ fault, ofCell now .integer raw = .error fault →
        ∃ reason, fault = .notInteger raw reason) ∧
      ((∀ v, ofCell now .integer raw = .ok v ↔ IntegerCell raw.toList v) ↔
        ¬ ∃ (plus : Nat) (w : Numeral), w.sign ≠ .none ∧ w.InRange ∧
          trim raw.toList = List.replicate (plus + 1) '+' ++ w.text) := by
  refine ⟨fun v => ofCell_integer_eq_ok_iff, fun fault => ofCell_integer_eq_error, ?_⟩
  simp only [ofCell_integer_eq_ok_iff]
  constructor
  · rintro hsame ⟨plus, w, hsign, ⟨hmin, hmax⟩, htext⟩
    have hvalue : w.value = (Int64.ofInt w.value).toInt :=
      (Int64.toInt_ofInt_of_le hmin (Int.lt_add_one_of_le hmax)).symm
    cases (hsame _).mp (.integer (plus + 1) w _ htext hvalue) with
    | integer w' _ htext' _ => exact w'.text_ne_cons_plus w hsign plus (htext'.symm.trans htext)
  · exact fun hsingle v => ⟨fun h => h.integerCell hsingle, fun h => h.plussedCell⟩

/-- A moment at which cells are read. -/
def yearEnd : DateTime :=
  ⟨⟨1999, 12, 31, by decide, by decide⟩, ⟨23, 59, 59, 0, by decide, by decide⟩⟩

/-- Two plus signs are read over, and a minus sign counts behind a plus sign. -/
theorem ofCell_integer_signs :
    (ofCell yearEnd .integer "++5" = .ok (.integer 5) ∧ ∀ v, ¬ IntegerCell "++5".toList v) ∧
      (ofCell yearEnd .integer "+-5" = .ok (.integer (-5)) ∧ ∀ v, ¬ IntegerCell "+-5".toList v) := by
  have refused : ∀ (w' : Numeral), w'.sign ≠ .none → ∀ raw : List Char,
      trim raw = '+' :: w'.text → ∀ v, ¬ IntegerCell raw v := by
    intro w' hsign raw htext v h
    cases h with
    | null blank =>
      rw [trim_eq_nil_iff.mpr blank] at htext
      cases htext
    | integer w n text value => exact w.text_ne_cons_plus w' hsign 0 (text.symm.trans htext)
  let five (sign : Sign) : Numeral := ⟨sign, ['5'], by simp, List.all_eq_true.mp rfl⟩
  refine ⟨⟨?_, refused (five .plus) (by simp [five]) _ rfl⟩,
    ⟨?_, refused (five .minus) (by simp [five]) _ rfl⟩⟩
  · exact ofCell_integer_eq_ok_iff.mpr (.integer 1 (five .plus) 5 rfl rfl)
  · exact ofCell_integer_eq_ok_iff.mpr (.integer 1 (five .minus) (-5) rfl rfl)

/-! ## All datatypes -/

theorem bare_writeInteger (n : Int) : Bare (writeInteger n).toList := by
  have hdigits : Bare (Nat.toDigits 10 n.natAbs) := fun c hc =>
    Calendar.isBlank_of_isDigit (isDigit_of_mem_toDigits hc)
  unfold writeInteger
  rw [String.toList_ofList]
  split
  · exact List.forall_mem_cons.mpr ⟨rfl, hdigits⟩
  · exact hdigits

/-- Whether a text stands for the present moment. -/
def NamesNow (cs : List Char) : Prop :=
  ∃ word ∈ clockWords, trim cs = word.toList

/-- The values that cells of a datatype can have, the clock words aside. -/
def Writable (datatype : DataType) : Value → Prop
  | null => datatype = .integer ∨ datatype = .date
  | integer _ => datatype = .integer
  | date d => datatype = .date ∧ d.Written
  | text _ => datatype ≠ .integer ∧ datatype ≠ .date

theorem writable_of_ofCell (hnow : datatype = .date → ¬ NamesNow raw.toList)
    (h : ofCell now datatype raw = .ok v) : v.Writable datatype := by
  cases datatype with
  | integer =>
    cases ofCell_integer_eq_ok_iff.mp h with
    | null => exact .inl rfl
    | integer => rfl
  | date =>
    have hword : clockWords.any (·.toList == trim raw.toList) = false := by
      rw [List.any_eq_false]
      exact fun word hword heq => hnow rfl ⟨word, hword, (eq_of_beq heq).symm⟩
    simp only [ofCell] at h
    split at h
    · exact Except.ok.inj h ▸ .inr rfl
    · split at h
      · next d hread =>
        obtain rfl := Except.ok.inj h
        exact ⟨rfl, Calendar.written_of_not_clockWord hword hread⟩
      · cases h
  | string => exact Except.ok.inj h ▸ ⟨by simp, by simp⟩
  | other tag => exact Except.ok.inj h ▸ ⟨by simp, by simp⟩

/-- No date is written as a clock word. -/
theorem not_namesNow_render (h : v.Writable .date) : ¬ NamesNow v.render.toList := by
  rintro ⟨word, hword, htrim⟩
  cases v with
  | null =>
    revert word
    decide
  | integer n => cases h
  | date d =>
    rw [render, String.toList_ofList] at htrim
    have hclock := Calendar.not_clockWord (h.2.mem_hyphen)
    rw [List.any_eq_false] at hclock
    exact hclock word hword (beq_iff_eq.mpr htrim.symm)
  | text s => exact h.2 rfl

/-- The text of a value is read as the value. -/
theorem ofCell_render_of_writable (now : DateTime) (h : v.Writable datatype) :
    ofCell now datatype v.render = .ok v := by
  cases v with
  | null => rcases h with rfl | rfl <;> rfl
  | integer n =>
    obtain rfl : datatype = .integer := h
    obtain ⟨plus, w, htext, hvalue⟩ := readInteger_eq_ok_iff.mp (readInteger_writeInteger n)
    rw [← (bare_writeInteger n.toInt).trimmed.trim_eq] at htext
    exact ofCell_integer_eq_ok_iff.mpr (.integer plus w n htext hvalue)
  | date d =>
    obtain ⟨rfl, hwritten⟩ := h
    have hempty : (trim d.text).isEmpty = false :=
      List.isEmpty_eq_false_iff.mpr (List.ne_nil_of_mem hwritten.mem_hyphen)
    simp only [ofCell, render, String.toList_ofList, hempty, Bool.false_eq_true, if_false,
      Calendar.readDateTime?_text hwritten]
  | text s =>
    cases datatype with
    | integer => exact absurd rfl h.1
    | date => exact absurd rfl h.2
    | string => rfl
    | other tag => rfl

/-- The values that are read, the clock words aside, are the writable ones. -/
theorem exists_ofCell_iff (now : DateTime) :
    (∃ raw, (datatype = .date → ¬ NamesNow raw.toList) ∧ ofCell now datatype raw = .ok v) ↔
      v.Writable datatype := by
  constructor
  · rintro ⟨raw, hnow, h⟩
    exact writable_of_ofCell hnow h
  · intro h
    refine ⟨v.render, ?_, ofCell_render_of_writable now h⟩
    rintro rfl
    exact not_namesNow_render h

/-- Reading is canonical: a value that is read from a text other than a clock word is read from its
own text, at any moment. The values of which this is said are all integers, all dates of the years 0
to 9999 to the second, all texts, and the missing value where blank cells have one. -/
theorem ofCell_render (hnow : datatype = .date → ¬ NamesNow raw.toList)
    (h : ofCell now datatype raw = .ok v) :
    v.Writable datatype ∧ ∀ now', ofCell now' datatype v.render = .ok v :=
  have hwritable := writable_of_ofCell hnow h
  ⟨hwritable, fun now' => ofCell_render_of_writable now' hwritable⟩

/-- A year below 1000, a month by its name and an open parenthesis. -/
def oldDate : Calendar.DateSpelling :=
  .dayFirst ⟨some ⟨['7'], by decide, List.all_eq_true.mp rfl⟩,
    .letters ['O', 'C', 'T'] rfl (List.all_eq_true.mp rfl),
    .full ⟨['0', '0', '6', '8'], by decide, List.all_eq_true.mp rfl⟩,
    some ⟨[], by simp, true, ⟨['2', '3'], by decide, List.all_eq_true.mp rfl⟩,
      ⟨['5', '9'], by decide, List.all_eq_true.mp rfl⟩, none, false⟩⟩

theorem ofCell_render_oldDate :
    (DataType.date = .date → ¬ NamesNow "7-OCT-0068(23:59".toList) ∧
      ofCell yearEnd .date "7-OCT-0068(23:59" =
        .ok (.date ⟨⟨68, 10, 7, by decide, by decide⟩, ⟨23, 59, 0, 0, by decide, by decide⟩⟩) ∧
      ofCell yearEnd .date "0068-10-07 23:59:00" =
        .ok (.date ⟨⟨68, 10, 7, by decide, by decide⟩, ⟨23, 59, 0, 0, by decide, by decide⟩⟩) := by
  have hnow : DataType.date = .date → ¬ NamesNow "7-OCT-0068(23:59".toList := by
    rintro - ⟨word, hword, htrim⟩
    revert word
    decide
  have hread : readDateTime? yearEnd "7-OCT-0068(23:59".toList =
      some ⟨⟨68, 10, 7, by decide, by decide⟩, ⟨23, 59, 0, 0, by decide, by decide⟩⟩ :=
    oldDate.readDateTime?_eq_some_iff.mpr ⟨rfl, rfl, rfl, ⟨rfl, rfl, rfl⟩, rfl⟩
  have h : ofCell yearEnd .date "7-OCT-0068(23:59" =
      .ok (.date ⟨⟨68, 10, 7, by decide, by decide⟩, ⟨23, 59, 0, 0, by decide, by decide⟩⟩) := by
    simp only [ofCell, hread]
    rfl
  exact ⟨hnow, h, (ofCell_render hnow h).2 yearEnd⟩

end Value

end ProfileQuery
