import Mathlib.Algebra.Group.Nat.Defs
import ProfileQuery.Text.Integer

/-!
# Written integers

The decimal text of an integer reads back as that integer (`readInteger_writeInteger`), and the
padded text of a number has the width that was asked for and the number as its value
(`length_padded`, `digitsValue_padded`).
-/

namespace ProfileQuery.Text

/-! ## Digits -/

theorem isDigit_iff {c : Char} : isDigit c = true ↔ 48 ≤ c.toNat ∧ c.toNat ≤ 57 := by
  rw [isDigit, Bool.and_eq_true, decide_eq_true_eq, decide_eq_true_eq]
  rfl

theorem digit?_of_isDigit {c : Char} (h : isDigit c = true) :
    digit? c = some (c.toNat - '0'.toNat) := by
  unfold digit?
  exact if_pos (by simpa [isDigit] using h)

theorem isDigit_of_mem_toDigits {c : Char} {n : Nat} (h : c ∈ Nat.toDigits 10 n) :
    isDigit c = true := by
  have := Nat.isDigit_of_mem_toDigits (by decide) (Nat.le_refl 10) h
  simpa [isDigit, Char.isDigit, Char.le_def] using this

theorem le_ofDigitChars (cs : List Char) (value : Nat) : value ≤ Nat.ofDigitChars 10 cs value := by
  induction cs generalizing value with
  | nil => simp
  | cons c cs ih =>
    rw [Nat.ofDigitChars_cons]
    have := ih (10 * value + (c.toNat - '0'.toNat))
    omega

theorem digitsValue_eq {cs : List Char} (h : ∀ c ∈ cs, isDigit c = true) :
    digitsValue cs = Nat.ofDigitChars 10 cs 0 := by
  suffices onto : ∀ value, cs.foldl (fun value c => value * 10 + (digit? c).getD 0) value =
      Nat.ofDigitChars 10 cs value from onto 0
  induction cs with
  | nil => simp
  | cons c cs ih =>
    intro value
    obtain ⟨hc, hcs⟩ := List.forall_mem_cons.mp h
    rw [List.foldl_cons, ih hcs, digit?_of_isDigit hc, Nat.ofDigitChars_cons, Nat.mul_comm]
    rfl

theorem ofDigitChars_lt {cs : List Char} (h : ∀ c ∈ cs, isDigit c = true) (value : Nat) :
    Nat.ofDigitChars 10 cs value < 10 ^ cs.length * (value + 1) := by
  induction cs generalizing value with
  | nil => simp
  | cons c cs ih =>
    obtain ⟨hc, hcs⟩ := List.forall_mem_cons.mp h
    rw [Nat.ofDigitChars_cons, List.length_cons, Nat.pow_succ, Nat.mul_assoc]
    refine Nat.lt_of_lt_of_le (ih hcs _) (Nat.mul_le_mul_left _ ?_)
    have hzero : '0'.toNat = 48 := rfl
    have := (isDigit_iff.mp hc).2
    omega

/-- A run of digits has a value below the power of ten of its length. -/
theorem digitsValue_lt {cs : List Char} (h : ∀ c ∈ cs, isDigit c = true) :
    digitsValue cs < 10 ^ cs.length := by
  rw [digitsValue_eq h]
  simpa using ofDigitChars_lt h 0

/-! ## Integers -/

/-- A number with a minus sign or without. -/
def signed (negative : Bool) (n : Nat) : Int := if negative then -n else n

/-- A number, if it is one of the machine. -/
def ranged (n : Int) : Except IntegerFault Int :=
  if maxInteger < n then .error .tooLarge
  else if n < minInteger then .error .tooSmall
  else .ok n

theorem ranged_eq_ok {n : Int} (hmin : minInteger ≤ n) (hmax : n ≤ maxInteger) :
    ranged n = .ok n := by
  rw [ranged, if_neg (by omega), if_neg (by omega)]

/-- A number that is out of range stays so as it grows, and on the same side. -/
theorem ranged_signed_le {negative : Bool} {m n : Nat} (h : m ≤ n) {fault : IntegerFault}
    (hm : ranged (signed negative m) = .error fault) :
    ranged (signed negative n) = .error fault := by
  unfold ranged signed at *
  cases negative
  · simp only [Bool.false_eq_true, if_false] at *
    have hsmall (k : Nat) : ¬ (k : Int) < minInteger := by
      unfold minInteger
      omega
    rw [if_neg (hsmall m)] at hm
    split at hm
    · rwa [if_pos (by omega)]
    · cases hm
  · simp only [if_true] at *
    have hlarge (k : Nat) : ¬ maxInteger < (-k : Int) := by
      unfold maxInteger
      omega
    rw [if_neg (hlarge m)] at hm
    rw [if_neg (hlarge n)]
    split at hm
    · rwa [if_pos (by omega)]
    · cases hm

/-- Digits are read onto the value of the digits before them, as long as it is in range. -/
theorem readDigits_eq {negative : Bool} {cs : List Char} (h : ∀ c ∈ cs, isDigit c = true)
    {value : Nat} (hvalue : ranged (signed negative value) = .ok (signed negative value)) :
    readDigits negative (signed negative value) cs =
      ranged (signed negative (Nat.ofDigitChars 10 cs value)) := by
  induction cs generalizing value with
  | nil => simp [readDigits, hvalue]
  | cons c cs ih =>
    obtain ⟨hc, hcs⟩ := List.forall_mem_cons.mp h
    have hnext : (if negative then signed negative value * 10 - (c.toNat - '0'.toNat : Nat)
          else signed negative value * 10 + (c.toNat - '0'.toNat : Nat)) =
        signed negative (10 * value + (c.toNat - '0'.toNat)) := by
      unfold signed
      cases negative
      · simp
        omega
      · simp
        omega
    rw [readDigits, digit?_of_isDigit hc, Nat.ofDigitChars_cons]
    simp only [hnext]
    -- the values grow towards the last one
    have hgrow := le_ofDigitChars cs (10 * value + (c.toNat - '0'.toNat))
    split
    · next hlarge => rw [ranged_signed_le hgrow (if_pos hlarge)]
    · next hlarge =>
      split
      · next hsmall =>
        rw [ranged_signed_le hgrow ((if_neg hlarge).trans (if_pos hsmall))]
      · next hsmall => exact ih hcs (ranged_eq_ok (by omega) (by omega))

theorem readDigits_zero (negative : Bool) {cs : List Char} (h : ∀ c ∈ cs, isDigit c = true) :
    readDigits negative 0 cs = ranged (signed negative (Nat.ofDigitChars 10 cs 0)) := by
  have hzero : signed negative 0 = 0 := by cases negative <;> rfl
  have := readDigits_eq h (hzero ▸ rfl : ranged (signed negative 0) = .ok (signed negative 0))
  rwa [hzero] at this

/-- The digits of a number read as that number, with a minus sign or without. -/
theorem readDigits_toDigits {negative : Bool} {n : Nat} (hmin : minInteger ≤ signed negative n)
    (hmax : signed negative n ≤ maxInteger) :
    readDigits negative 0 (Nat.toDigits 10 n) = .ok (signed negative n) := by
  have hvalue : Nat.ofDigitChars 10 (Nat.toDigits 10 n) 0 = n := Nat.ofDigitChars_ten_toDigits
  have hread := readDigits_zero negative fun c hc => isDigit_of_mem_toDigits (n := n) hc
  rwa [hvalue, ranged_eq_ok hmin hmax] at hread

theorem exists_toDigits (n : Nat) :
    ∃ c cs, Nat.toDigits 10 n = c :: cs ∧ isDigit c = true ∧ ∀ d ∈ cs, isDigit d = true := by
  cases h : Nat.toDigits 10 n with
  | nil => exact absurd h Nat.toDigits_ne_nil
  | cons c cs =>
    have hdigit : ∀ d ∈ c :: cs, isDigit d = true := fun d hd =>
      isDigit_of_mem_toDigits (h ▸ hd)
    exact ⟨c, cs, rfl, List.forall_mem_cons.mp hdigit⟩

/-- The text of an integer reads as that integer. -/
theorem readInteger_writeInteger (n : Int64) :
    readInteger (writeInteger n.toInt).toList = .ok n := by
  have hmin : minInteger ≤ n.toInt := n.le_toInt
  have hmax : n.toInt ≤ maxInteger := Int.le_of_lt_add_one n.toInt_lt
  -- no plus sign is written, and the bounds are those of the machine integer
  suffices h : readSigned ((writeInteger n.toInt).toList.dropWhile (· == '+')) = .ok n.toInt by
    rw [readInteger, h]
    exact congrArg Except.ok n.ofInt_toInt
  obtain ⟨c, cs, hdigits, hc, -⟩ := exists_toDigits n.toInt.natAbs
  unfold writeInteger
  rw [String.toList_ofList]
  split
  · next hneg =>
    have hsigned : signed true n.toInt.natAbs = n.toInt := by
      simp only [signed, if_true]
      omega
    rw [List.dropWhile_cons_of_neg (by decide), hdigits, readSigned, ← hdigits,
      readDigits_toDigits (by rwa [hsigned]) (by rwa [hsigned]), hsigned]
    simp
  · next hneg =>
    have hsigned : signed false n.toInt.natAbs = n.toInt := by
      simp only [signed, Bool.false_eq_true, if_false]
      omega
    have hplus : c ≠ '+' := by
      rintro rfl
      exact absurd hc (by decide)
    have hminus : c ≠ '-' := by
      rintro rfl
      exact absurd hc (by decide)
    rw [hdigits, List.dropWhile_cons_of_neg (by simpa using hplus)]
    have hread : readSigned (c :: cs) = readDigits false 0 (c :: cs) := by
      unfold readSigned
      split <;> simp_all
    rw [hread, ← hdigits, readDigits_toDigits (by rwa [hsigned]) (by rwa [hsigned]), hsigned]

/-! ## Padded numbers -/

theorem isDigit_of_mem_padded {width n : Nat} {c : Char} (h : c ∈ padded width n) :
    isDigit c = true := by
  rcases List.mem_append.mp h with h | h
  · rw [List.eq_of_mem_replicate h]
    decide
  · exact isDigit_of_mem_toDigits h

theorem length_padded {width n : Nat} (hwidth : 0 < width) (h : n < 10 ^ width) :
    (padded width n).length = width := by
  have := (Nat.length_toDigits_le_iff (by decide) hwidth).mpr h
  unfold padded
  rw [List.length_append, List.length_replicate]
  omega

theorem digitsValue_padded (width n : Nat) : digitsValue (padded width n) = n := by
  rw [digitsValue_eq fun c hc => isDigit_of_mem_padded hc]
  unfold padded
  rw [Nat.ofDigitChars_append, Nat.ofDigitChars_replicate_zero, Nat.mul_zero]
  exact Nat.ofDigitChars_ten_toDigits

end ProfileQuery.Text
