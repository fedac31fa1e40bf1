import Mathlib.Data.List.TakeWhile
import ProfileQuery.Proofs.Outcome
import ProfileQuery.Proofs.Text.Integer

/-!
# Numerals

A `Numeral` is an integer as it is written: one sign or none, and decimal digits. Signed integers are
read from the numerals in range and from no other text (`readSigned_eq_ok_iff`). Where plus signs in
front do not count, further ones may stand before the numeral, also before its own sign
(`readInteger_eq_ok_iff`).
-/

namespace ProfileQuery.Text

/-- What may stand in front of the digits of an integer. -/
inductive Sign where
  | none
  | plus
  | minus
deriving DecidableEq

namespace Sign

def text : Sign → List Char
  | none => []
  | plus => ['+']
  | minus => ['-']

def negative : Sign → Bool
  | minus => true
  | _ => false

end Sign

/-- A written integer: one sign or none, and one or more digits. -/
structure Numeral where
  sign : Sign
  digits : List Char
  ne_nil : digits ≠ []
  digit : ∀ c ∈ digits, isDigit c = true

namespace Numeral

def text (w : Numeral) : List Char := w.sign.text ++ w.digits

/-- The number that is written. -/
def value (w : Numeral) : Int := signed w.sign.negative (Nat.ofDigitChars 10 w.digits 0)

/-- Whether the number is a signed 64-bit integer. -/
def InRange (w : Numeral) : Prop := minInteger ≤ w.value ∧ w.value ≤ maxInteger

variable (w : Numeral)

theorem exists_digits : ∃ c cs, w.digits = c :: cs ∧ c ≠ '+' ∧ c ≠ '-' := by
  obtain ⟨c, cs, hdigits⟩ := List.exists_cons_of_ne_nil w.ne_nil
  have hc : isDigit c = true := w.digit c (hdigits ▸ List.mem_cons_self)
  refine ⟨c, cs, hdigits, ?_, ?_⟩ <;> (rintro rfl; cases hc)

theorem text_ne_nil : w.text ≠ [] := by
  simp [text, w.ne_nil]

/-- A second plus sign is none of the numeral. -/
theorem text_ne_cons_plus (w' : Numeral) (h : w'.sign ≠ .none) (plus : Nat) :
    w.text ≠ List.replicate (plus + 1) '+' ++ w'.text := by
  intro heq
  obtain ⟨c, cs, hdigits, hplus, hminus⟩ := w.exists_digits
  -- behind the first plus sign there is a digit on the left, and a sign on the right
  obtain ⟨sign, rest, hrest, hsign⟩ : ∃ sign rest,
      List.replicate plus '+' ++ w'.text = sign :: rest ∧ (sign = '+' ∨ sign = '-') := by
    cases plus with
    | succ plus => exact ⟨'+', List.replicate plus '+' ++ w'.text, rfl, .inl rfl⟩
    | zero =>
      unfold text
      cases hsign : w'.sign with
      | none => exact absurd hsign h
      | plus => exact ⟨'+', w'.digits, rfl, .inl rfl⟩
      | minus => exact ⟨'-', w'.digits, rfl, .inr rfl⟩
  rw [List.replicate_succ, List.cons_append, hrest, text, hdigits] at heq
  cases hown : w.sign with
  | none =>
    rw [hown] at heq
    exact hplus (List.cons.inj heq).1
  | plus =>
    rw [hown] at heq
    obtain ⟨rfl, -⟩ := List.cons.inj (List.cons.inj heq).2
    exact hsign.elim hplus hminus
  | minus =>
    rw [hown] at heq
    cases (List.cons.inj heq).1

end Numeral

/-! ## Reading -/

theorem ranged_eq_ok_iff {m n : Int} :
    ranged m = .ok n ↔ m = n ∧ minInteger ≤ n ∧ n ≤ maxInteger := by
  constructor
  · intro h
    unfold ranged at h
    split at h
    · cases h
    · split at h
      · cases h
      · obtain rfl := Except.ok.inj h
        exact ⟨rfl, by omega, by omega⟩
  · rintro ⟨rfl, hmin, hmax⟩
    exact ranged_eq_ok hmin hmax

/-- Nothing but digits is read behind the sign. -/
theorem isDigit_of_readDigits {negative : Bool} {value n : Int} {cs : List Char}
    (h : readDigits negative value cs = .ok n) : ∀ c ∈ cs, isDigit c = true := by
  induction cs generalizing value with
  | nil => exact List.forall_mem_nil _
  | cons c cs ih =>
    rw [readDigits] at h
    cases hd : digit? c with
    | none =>
      rw [hd] at h
      cases h
    | some d =>
      have hc : isDigit c = true := by
        unfold digit? at hd
        split at hd
        · next hrange => simpa [isDigit] using hrange
        · cases hd
      rw [hd] at h
      dsimp only at h
      -- which number comes next does not matter here
      generalize (if negative then value * 10 - (d : Int) else value * 10 + d) = next at h
      split at h
      · cases h
      · split at h
        · cases h
        · exact List.forall_mem_cons.mpr ⟨hc, ih h⟩

/-- A numeral reads as its number wherever that is in range. -/
theorem readSigned_text (w : Numeral) : readSigned w.text = ranged w.value := by
  obtain ⟨c, cs, hdigits, hplus, hminus⟩ := w.exists_digits
  have hread (negative : Bool) := readDigits_zero negative w.digit
  unfold Numeral.text Numeral.value
  cases hsign : w.sign with
  | none =>
    have hunsigned : readSigned (c :: cs) = readDigits false 0 (c :: cs) := by
      unfold readSigned
      split <;> simp_all
    rw [Sign.text, List.nil_append, hdigits, hunsigned, ← hdigits, hread]
    rfl
  | plus =>
    show readSigned ('+' :: w.digits) = ranged (signed false _)
    rw [← hread, hdigits]
    rfl
  | minus =>
    show readSigned ('-' :: w.digits) = ranged (signed true _)
    rw [← hread, hdigits]
    rfl

theorem readSigned_eq_ok_iff {cs : List Char} {n : Int} :
    readSigned cs = .ok n ↔ ∃ w : Numeral, cs = w.text ∧ w.value = n ∧ w.InRange := by
  constructor
  · intro h
    -- the text is that of a numeral, which tells what its value is
    obtain ⟨w, rfl⟩ : ∃ w : Numeral, cs = w.text := by
      have hdigits {negative : Bool} {cs : List Char} (h : readDigits negative 0 cs = .ok n) :=
        isDigit_of_readDigits h
      unfold readSigned at h
      split at h
      · cases h
      · cases h
      · cases h
      · next cs hne => exact ⟨⟨.minus, cs, by simpa using hne, hdigits h⟩, rfl⟩
      · next cs hne => exact ⟨⟨.plus, cs, by simpa using hne, hdigits h⟩, rfl⟩
      · next hne _ _ _ _ => exact ⟨⟨.none, cs, hne, hdigits h⟩, rfl⟩
    rw [readSigned_text, ranged_eq_ok_iff] at h
    obtain ⟨rfl, hrange⟩ := h
    exact ⟨w, rfl, rfl, hrange⟩
  · rintro ⟨w, rfl, rfl, hrange⟩
    rw [readSigned_text, ranged_eq_ok_iff]
    exact ⟨rfl, hrange⟩

/-- Without the plus signs in front a numeral is one with the same number. -/
theorem Numeral.exists_dropWhile (w : Numeral) :
    ∃ w' : Numeral, w.text.dropWhile (· == '+') = w'.text ∧ w'.value = w.value := by
  obtain ⟨c, cs, hdigits, hplus, -⟩ := w.exists_digits
  have hdrop : w.digits.dropWhile (· == '+') = w.digits := by
    rw [hdigits]
    exact List.dropWhile_cons_of_neg (by simpa using hplus)
  cases hsign : w.sign with
  | none =>
    refine ⟨w, ?_, rfl⟩
    rw [text, hsign]
    exact hdrop
  | plus =>
    refine ⟨⟨.none, w.digits, w.ne_nil, w.digit⟩, ?_, ?_⟩
    · rw [text, hsign]
      exact hdrop
    · rw [value, value, hsign]
      rfl
  | minus =>
    refine ⟨w, ?_, rfl⟩
    rw [text, hsign]
    rfl

/-- Plus signs before a numeral do not count. -/
theorem readInteger_text (plus : Nat) (w : Numeral) :
    readInteger (List.replicate plus '+' ++ w.text) = (ranged w.value).map Int64.ofInt := by
  obtain ⟨w', hw', hsame⟩ := w.exists_dropWhile
  rw [readInteger, List.dropWhile_append_of_pos (by simp), hw', readSigned_text, hsame]

/-- An integer is read from a numeral, which any number of plus signs may stand before. -/
theorem readInteger_eq_ok_iff {cs : List Char} {n : Int64} :
    readInteger cs = .ok n ↔
      ∃ (plus : Nat) (w : Numeral), cs = List.replicate plus '+' ++ w.text ∧
        w.value = n.toInt := by
  constructor
  · intro h
    obtain ⟨m, hm, rfl⟩ := Outcome.map_eq_ok.mp h
    obtain ⟨w, hw, rfl, hmin, hmax⟩ := readSigned_eq_ok_iff.mp hm
    have hplus : ∀ c ∈ cs.takeWhile (· == '+'), c = '+' := fun c hc => by
      simpa using List.mem_takeWhile_imp hc
    refine ⟨(cs.takeWhile (· == '+')).length, w, ?_, ?_⟩
    · rw [← hw, ← List.eq_replicate_of_mem hplus, List.takeWhile_append_dropWhile]
    · exact (Int64.toInt_ofInt_of_le hmin (Int.lt_add_one_of_le hmax)).symm
  · rintro ⟨plus, w, rfl, hvalue⟩
    have hmin : minInteger ≤ n.toInt := n.le_toInt
    have hmax : n.toInt ≤ maxInteger := Int.le_of_lt_add_one n.toInt_lt
    rw [readInteger_text, hvalue, ranged_eq_ok hmin hmax]
    exact congrArg Except.ok n.ofInt_toInt

end ProfileQuery.Text
