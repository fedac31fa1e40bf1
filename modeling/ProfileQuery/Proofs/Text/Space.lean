import Mathlib.Data.List.TakeWhile
import ProfileQuery.Proofs.Text.Blank

/-!
# Words spread out over a line

A line is cut into the same words however wide the gaps between them are (`words_spread`), and what
is cut into words has them spread out like that (`exists_spread`).
-/

namespace ProfileQuery.Text

variable {cs front back word body : List Char} {ws : List (List Char)}

/-- Blanks that do not end a line. -/
def Space (cs : List Char) : Prop := ∀ c ∈ cs, isBlank c = true ∧ c ≠ '\n'

/-- Words with space in front of each. -/
inductive Spread : List (List Char) → List Char → Prop where
  | nil : Spread [] []
  | cons {ws : List (List Char)} {gap word body : List Char} (space : Space gap) (wide : gap ≠ [])
      (rest : Spread ws body) : Spread (word :: ws) (gap ++ word ++ body)

namespace Space

theorem nil : Space [] := fun _ hc => absurd hc List.not_mem_nil

theorem blank (h : Space cs) : ∀ c ∈ cs, isBlank c = true := fun c hc => (h c hc).1

theorem not_mem {c : Char} (h : Space cs) (hc : isBlank c = false) : c ∉ cs := fun hmem => by
  rw [h.blank c hmem] at hc
  cases hc

theorem ne_newline (h : Space cs) : '\n' ∉ cs := fun hmem => (h _ hmem).2 rfl

theorem append (hfront : Space front) (hback : Space back) : Space (front ++ back) := by
  intro c hc
  rcases List.mem_append.mp hc with hc | hc
  · exact hfront c hc
  · exact hback c hc

theorem of_blank (hblank : ∀ c ∈ cs, isBlank c = true) (hnewline : '\n' ∉ cs) : Space cs :=
  fun c hc => ⟨hblank c hc, fun heq => hnewline (heq ▸ hc)⟩

end Space

namespace Spread

variable {c : Char}

theorem head (h : Spread ws body) : ∀ c ∈ body.head?, isBlank c = true := by
  cases h with
  | nil => simp
  | @cons ws gap word body space wide rest =>
    obtain ⟨d, gap, rfl⟩ := List.exists_cons_of_ne_nil wide
    intro c hc
    obtain rfl : d = c := Option.some.inj hc
    exact space.blank d List.mem_cons_self

/-- Between the words there is nothing but space. -/
theorem of_mem (h : Spread ws body) (hc : c ∈ body) :
    (isBlank c = true ∧ c ≠ '\n') ∨ ∃ word ∈ ws, c ∈ word := by
  induction h with
  | nil => cases hc
  | cons space wide rest ih =>
    rcases List.mem_append.mp hc with hc | hc
    · rcases List.mem_append.mp hc with hc | hc
      · exact .inl (space c hc)
      · exact .inr ⟨_, List.mem_cons_self, hc⟩
    · refine (ih hc).imp_right ?_
      rintro ⟨word, hword, hc⟩
      exact ⟨word, List.mem_cons_of_mem _ hword, hc⟩

end Spread

theorem spread_spaced (ws : List (List Char)) : Spread ws (spaced ws) := by
  induction ws with
  | nil => exact .nil
  | cons word ws ih => exact .cons (by simp [Space, isBlank]) (List.cons_ne_nil ' ' []) ih

/-! ## Trimming -/

theorem trim_blanks_append (hfront : ∀ c ∈ front, isBlank c = true) (cs : List Char) :
    trim (front ++ cs) = trim cs := by
  rw [trim, trimLeft, List.dropWhile_append_of_pos hfront]
  rfl

theorem trim_append_blanks (hback : ∀ c ∈ back, isBlank c = true) (cs : List Char) :
    trim (cs ++ back) = trim cs := by
  have hreverse : ∀ c ∈ back.reverse, isBlank c = true := fun c hc =>
    hback c (List.mem_reverse.mp hc)
  rw [trim, trim, trimLeft, trimLeft, List.dropWhile_append]
  split
  · next hempty =>
    rw [List.isEmpty_iff.mp hempty, List.dropWhile_eq_nil_iff.mpr hback]
  · rw [trimRight, trimRight, List.reverse_append, List.dropWhile_append_of_pos hreverse]

/-- Blanks around trimmed text are cut off. -/
theorem Trimmed.trim_between (h : Trimmed cs) (hfront : ∀ c ∈ front, isBlank c = true)
    (hback : ∀ c ∈ back, isBlank c = true) : trim (front ++ cs ++ back) = cs := by
  rw [trim_append_blanks hback, trim_blanks_append hfront, h.trim_eq]

/-- What trimming cuts off are blanks. -/
theorem exists_trim (cs : List Char) : ∃ front back, cs = front ++ trim cs ++ back ∧
    (∀ c ∈ front, isBlank c = true) ∧ ∀ c ∈ back, isBlank c = true := by
  refine ⟨cs.takeWhile isBlank, ((trimLeft cs).reverse.takeWhile isBlank).reverse, ?_,
    fun c hc => List.mem_takeWhile_imp hc,
    fun c hc => List.mem_takeWhile_imp (List.mem_reverse.mp hc)⟩
  have hright : trim cs ++ ((trimLeft cs).reverse.takeWhile isBlank).reverse = trimLeft cs := by
    rw [trim, trimRight, ← List.reverse_append, List.takeWhile_append_dropWhile,
      List.reverse_reverse]
  rw [List.append_assoc, hright, trimLeft, List.takeWhile_append_dropWhile]

/-! ## Words -/

theorem Bare.length_words_le_one (h : Bare cs) : (words cs).length ≤ 1 := by
  by_cases hne : cs = []
  · simp [hne, words]
  · have hwords : words (cs ++ []) = [cs] := words_append hne h (by simp)
    rw [List.append_nil] at hwords
    simp [hwords]

theorem words_blanks_append (hfront : ∀ c ∈ front, isBlank c = true) (cs : List Char) :
    words (front ++ cs) = words cs := by
  induction front with
  | nil => rfl
  | cons c front ih =>
    rw [List.cons_append, words_cons_blank (hfront c List.mem_cons_self),
      ih fun d hd => hfront d (List.mem_cons_of_mem _ hd)]

theorem words_append_blanks (hback : ∀ c ∈ back, isBlank c = true) (cs : List Char) :
    words (cs ++ back) = words cs := by
  induction cs using words.induct with
  | case1 => exact words_blanks hback
  | case2 c hc => simp [words, words_cons_blank hc, words_blanks hback, hc]
  | case3 c hc =>
    have hbare : Bare [c] := by simpa [Bare] using hc
    rw [words_append (by simp) hbare fun d hd => hback d (List.mem_of_mem_head? hd),
      words_blanks hback, words, if_neg hc]
  | case4 c d cs hc ih =>
    show words (c :: d :: (cs ++ back)) = words (c :: d :: cs)
    rw [words, if_pos hc, words, if_pos hc]
    exact ih
  | case5 c d cs hc hd ih =>
    show words (c :: d :: (cs ++ back)) = words (c :: d :: cs)
    rw [words, if_neg hc, if_pos hd, words, if_neg hc, if_pos hd]
    exact congrArg ([c] :: ·) ih
  | case6 c d cs hc hd ih =>
    show words (c :: d :: (cs ++ back)) = words (c :: d :: cs)
    rw [words, if_neg hc, if_neg hd, words, if_neg hc, if_neg hd]
    exact congrArg (consFirst c) ih

/-- The words of a line, whatever gaps are between them. -/
theorem words_spread (h : Spread ws body) (hwords : ∀ w ∈ ws, w ≠ [] ∧ Bare w) :
    words body = ws := by
  induction h with
  | nil => rfl
  | @cons ws gap word body space wide rest ih =>
    obtain ⟨⟨hne, hbare⟩, hrest⟩ := List.forall_mem_cons.mp hwords
    rw [List.append_assoc, words_blanks_append space.blank, words_append hne hbare rest.head,
      ih hrest]

/-- Text that starts with a character that is not blank starts with a word. -/
theorem exists_word (h : ∀ c ∈ cs.head?, isBlank c = false) (hne : cs ≠ []) :
    ∃ word rest, cs = word ++ rest ∧ word ≠ [] ∧ Bare word ∧ ∀ c ∈ rest.head?, isBlank c = true := by
  refine ⟨cs.takeWhile (!isBlank ·), cs.dropWhile (!isBlank ·),
    List.takeWhile_append_dropWhile.symm, ?_, ?_, ?_⟩
  · obtain ⟨c, cs, rfl⟩ := List.exists_cons_of_ne_nil hne
    rw [List.takeWhile_cons_of_pos (by simp [h c rfl])]
    exact List.cons_ne_nil _ _
  · exact fun c hc => by simpa using List.mem_takeWhile_imp hc
  · intro c hc
    have hnot := List.head?_dropWhile_not (!isBlank ·) cs
    rw [Option.mem_def.mp hc] at hnot
    simpa using hnot

/-- Text that is not blank is a gap, a word and the text of the other words. -/
theorem exists_words_cons (h : ¬ ∀ c ∈ cs, isBlank c = true) : ∃ gap word rest,
    cs = gap ++ word ++ rest ∧ (∀ c ∈ gap, isBlank c = true) ∧ word ≠ [] ∧ Bare word ∧
      (∀ c ∈ rest.head?, isBlank c = true) ∧ words cs = word :: words rest := by
  obtain ⟨word, rest, hcut, hne, hbare, hhead⟩ := exists_word (head_dropWhile_isBlank cs)
    fun hnil => h (List.dropWhile_eq_nil_iff.mp hnil)
  have hgap : ∀ c ∈ cs.takeWhile isBlank, isBlank c = true := fun c hc =>
    List.mem_takeWhile_imp hc
  have hcs : cs = cs.takeWhile isBlank ++ word ++ rest := by
    rw [List.append_assoc, ← hcut, List.takeWhile_append_dropWhile]
  refine ⟨_, word, rest, hcs, hgap, hne, hbare, hhead, ?_⟩
  conv_lhs => rw [hcs]
  rw [List.append_assoc, words_blanks_append hgap, words_append hne hbare hhead]

/-- Text that is not in the middle of a word has its words spread out. -/
theorem exists_spread (hnewline : '\n' ∉ cs) (hhead : ∀ c ∈ cs.head?, isBlank c = true) :
    ∃ body back, cs = body ++ back ∧ Spread (words cs) body ∧ Space back := by
  induction hlength : cs.length using Nat.strong_induction_on generalizing cs with
  | _ length ih =>
    by_cases hblank : ∀ c ∈ cs, isBlank c = true
    · exact ⟨[], cs, rfl, by rw [words_blanks hblank]; exact .nil, .of_blank hblank hnewline⟩
    · obtain ⟨gap, word, rest, rfl, hgap, hne, hbare, hrest, hwords⟩ := exists_words_cons hblank
      have hwide : gap ≠ [] := by
        rintro rfl
        obtain ⟨c, word, rfl⟩ := List.exists_cons_of_ne_nil hne
        have hc := hhead c rfl
        rw [hbare c List.mem_cons_self] at hc
        cases hc
      have hshort : rest.length < length := by
        have := List.length_pos_iff.mpr hwide
        simp only [List.length_append] at hlength
        omega
      have hspace : Space gap := .of_blank hgap fun hmem => hnewline (by simp [hmem])
      have hline : '\n' ∉ rest := fun hmem => hnewline (by simp [hmem])
      obtain ⟨body, back, hcut, hspread, hback⟩ := ih _ hshort hline hrest rfl
      exact ⟨gap ++ word ++ body, back, by rw [hcut, List.append_assoc _ body],
        hwords ▸ .cons hspace hwide hspread, hback⟩

/-- The first word of a text stands behind space, and the others are spread out behind it. -/
theorem exists_spread_of_words_eq_cons (hnewline : '\n' ∉ cs) (h : words cs = word :: ws) :
    ∃ front body back, cs = front ++ word ++ body ++ back ∧ Space front ∧ Spread ws body ∧
      Space back := by
  have hblank : ¬ ∀ c ∈ cs, isBlank c = true := by
    intro hblank
    rw [words_blanks hblank] at h
    cases h
  obtain ⟨front, word', rest, rfl, hfront, -, -, hhead, hwords⟩ := exists_words_cons hblank
  obtain ⟨rfl, rfl⟩ := List.cons.inj (hwords.symm.trans h)
  have hline : '\n' ∉ rest := fun hmem => hnewline (by simp [hmem])
  obtain ⟨body, back, hcut, hspread, hback⟩ := exists_spread hline hhead
  exact ⟨front, body, back, by rw [hcut, List.append_assoc _ body],
    .of_blank hfront fun hmem => hnewline (by simp [hmem]), hspread, hback⟩

end ProfileQuery.Text
