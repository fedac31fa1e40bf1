import Mathlib.Data.List.Basic
import Mathlib.Data.List.TakeWhile
import ProfileQuery.Text.Blank

/-!
# Cutting text at blanks

What is cut off and what stays: trimmed text has no blank at its ends, the words of a text have no
blanks at all, and the lines of a text have no newlines. Text that is put together from such pieces
is cut into the same pieces again.
-/

namespace ProfileQuery.Text

variable {c : Char} {cs rest front back word : List Char} {ws : List (List Char)}

/-- Without blanks. -/
def Bare (cs : List Char) : Prop := ∀ c ∈ cs, isBlank c = false

/-- Without a blank at either end. -/
structure Trimmed (cs : List Char) : Prop where
  head : ∀ c ∈ cs.head?, isBlank c = false
  last : ∀ c ∈ cs.getLast?, isBlank c = false

theorem Bare.ne_newline (h : Bare cs) : '\n' ∉ cs :=
  fun hmem => absurd (h _ hmem) (by decide)

theorem Bare.trimmed (h : Bare cs) : Trimmed cs where
  head c hc := h c (List.mem_of_mem_head? hc)
  last c hc := h c (List.mem_of_mem_getLast? hc)

/-- Between a front and a back with trimmed ends there may be anything. -/
theorem Trimmed.append (hfront : Trimmed front) (hback : Trimmed back) (hne : front ≠ [])
    (hne' : back ≠ []) (middle : List Char) : Trimmed (front ++ middle ++ back) where
  head c hc := by
    obtain ⟨d, front', rfl⟩ := List.exists_cons_of_ne_nil hne
    exact hfront.head c hc
  last c hc := by
    rw [List.getLast?_append_of_ne_nil _ hne'] at hc
    exact hback.last c hc

/-! ## Trimming -/

theorem trim_subset : trim cs ⊆ cs := by
  intro c hc
  have hleft : c ∈ trimLeft cs := by
    have h := (List.dropWhile_suffix isBlank).subset (List.mem_reverse.mp hc)
    exact List.mem_reverse.mp h
  exact (List.dropWhile_suffix isBlank).subset hleft

theorem head_dropWhile_isBlank (cs : List Char) :
    ∀ c ∈ (cs.dropWhile isBlank).head?, isBlank c = false := by
  intro c hc
  have h := List.head?_dropWhile_not isBlank cs
  rw [Option.mem_def.mp hc] at h
  simpa using h

theorem trimRight_prefix (cs : List Char) : trimRight cs <+: cs := by
  have h := List.reverse_prefix.mpr (List.dropWhile_suffix isBlank (l := cs.reverse))
  rwa [List.reverse_reverse] at h

theorem trimmed_trim (cs : List Char) : Trimmed (trim cs) where
  head c hc := by
    -- Trimming behind the text leaves its first character where it is.
    obtain ⟨back, hback⟩ := trimRight_prefix (trimLeft cs)
    apply head_dropWhile_isBlank cs c
    show c ∈ (trimLeft cs).head?
    rw [← hback, Option.mem_def, List.head?_append, show (trimRight (trimLeft cs)).head? = some c
      from hc, Option.some_or]
  last c hc := by
    rw [trim, trimRight, List.getLast?_reverse] at hc
    exact head_dropWhile_isBlank _ c hc

theorem dropWhile_isBlank_eq (h : ∀ c ∈ cs.head?, isBlank c = false) :
    cs.dropWhile isBlank = cs := by
  cases cs with
  | nil => rfl
  | cons c cs =>
    have hc := h c rfl
    exact List.dropWhile_cons_of_neg (by simp [hc])

/-- Trimmed text is left as it is. -/
theorem Trimmed.trim_eq (h : Trimmed cs) : trim cs = cs := by
  have hlast : ∀ c ∈ cs.reverse.head?, isBlank c = false := by
    rw [List.head?_reverse]
    exact h.last
  rw [trim, trimLeft, dropWhile_isBlank_eq h.head, trimRight, dropWhile_isBlank_eq hlast,
    List.reverse_reverse]

/-- Nothing but blanks is cut off. -/
theorem mem_trim (h : c ∈ cs) (hc : isBlank c = false) : c ∈ trim cs := by
  have keep : ∀ ds : List Char, c ∈ ds → c ∈ ds.dropWhile isBlank := by
    intro ds hds
    rw [← List.takeWhile_append_dropWhile (p := isBlank) (l := ds)] at hds
    rcases List.mem_append.mp hds with hds | hds
    · have := List.mem_takeWhile_imp hds
      rw [hc] at this
      cases this
    · exact hds
  rw [trim, trimRight, List.mem_reverse]
  exact keep _ (List.mem_reverse.mpr (keep cs h))

/-- Nothing is left of blanks, and of nothing else. -/
theorem trim_eq_nil_iff : trim cs = [] ↔ ∀ c ∈ cs, isBlank c = true := by
  constructor
  · intro h c hc
    by_contra hblank
    have := mem_trim hc (Bool.eq_false_iff.mpr hblank)
    rw [h] at this
    cases this
  · intro h
    have hleft : trimLeft cs = [] := List.dropWhile_eq_nil_iff.mpr h
    rw [trim, hleft]
    rfl

/-! ## Words -/

theorem words_cons_blank (h : isBlank c = true) : words (c :: cs) = words cs := by
  cases cs with
  | nil => simp [words, h]
  | cons d cs => rw [words, if_pos h]

theorem words_blanks {blanks : List Char} (h : ∀ c ∈ blanks, isBlank c = true) :
    words blanks = [] := by
  induction blanks with
  | nil => rfl
  | cons c blanks ih =>
    rw [words_cons_blank (h c List.mem_cons_self)]
    exact ih fun d hd => h d (List.mem_cons_of_mem _ hd)

/-- A run of characters that are not blank is a word where a blank or nothing follows it. -/
theorem words_append (hne : word ≠ []) (hbare : Bare word)
    (hrest : ∀ c ∈ rest.head?, isBlank c = true) : words (word ++ rest) = word :: words rest := by
  induction word with
  | nil => exact absurd rfl hne
  | cons c word ih =>
    have hc := hbare c List.mem_cons_self
    cases word with
    | nil =>
      cases rest with
      | nil => simp [words, hc]
      | cons d rest => simp [words, hc, hrest d rfl]
    | cons d word =>
      have hd := hbare d (by simp)
      have h := ih (List.cons_ne_nil d word) fun e he => hbare e (List.mem_cons_of_mem _ he)
      show words (c :: d :: (word ++ rest)) = _
      rw [words, if_neg (by simp [hc]), if_neg (by simp [hd])]
      exact congrArg (consFirst c) h

/-- Words with a space in front of each. -/
def spaced (ws : List (List Char)) : List Char := ws.flatMap (' ' :: ·)

/-- A character that joins the first of some pieces stands alone or in front of one of them. -/
theorem of_mem_consFirst {piece : List Char} {pieces : List (List Char)}
    (h : piece ∈ consFirst c pieces) :
    (∃ tail, piece = c :: tail ∧ (tail = [] ∨ tail ∈ pieces)) ∨ piece ∈ pieces := by
  cases pieces with
  | nil =>
    obtain rfl : piece = [c] := by simpa [consFirst] using h
    exact .inl ⟨[], rfl, .inl rfl⟩
  | cons first pieces =>
    rcases List.mem_cons.mp h with rfl | hmem
    · exact .inl ⟨first, rfl, .inr List.mem_cons_self⟩
    · exact .inr (List.mem_cons_of_mem _ hmem)

/-- The words of a text are runs of characters of the text that are not blank. -/
theorem of_mem_words (h : word ∈ words cs) : word ≠ [] ∧ Bare word ∧ word ⊆ cs := by
  induction cs using words.induct generalizing word with
  | case1 => simp [words] at h
  | case2 c hc => simp [words, hc] at h
  | case3 c hc =>
    rw [words, if_neg hc] at h
    obtain rfl := List.mem_singleton.mp h
    exact ⟨by simp, by simpa [Bare] using hc, fun _ hd => hd⟩
  | case4 c d cs hc ih =>
    rw [words, if_pos hc] at h
    obtain ⟨hne, hbare, hsub⟩ := ih h
    exact ⟨hne, hbare, fun e he => List.mem_cons_of_mem _ (hsub he)⟩
  | case5 c d cs hc hd ih =>
    rw [words, if_neg hc, if_pos hd] at h
    rcases List.mem_cons.mp h with rfl | hmem
    · exact ⟨by simp, by simpa [Bare] using hc, by simp⟩
    · obtain ⟨hne, hbare, hsub⟩ := ih hmem
      exact ⟨hne, hbare, fun e he => List.mem_cons_of_mem _ (hsub he)⟩
  | case6 c d cs hc hd ih =>
    rw [words, if_neg hc, if_neg hd] at h
    rcases of_mem_consFirst h with ⟨tail, rfl, rfl | htail⟩ | hmem
    · exact ⟨by simp, by simpa [Bare] using hc, by simp⟩
    · obtain ⟨-, hbare, hsub⟩ := ih htail
      exact ⟨by simp, by simpa [Bare] using ⟨by simpa using hc, hbare⟩, List.cons_subset_cons c hsub⟩
    · obtain ⟨hne, hbare, hsub⟩ := ih hmem
      exact ⟨hne, hbare, fun e he => List.mem_cons_of_mem _ (hsub he)⟩

/-! ## Lines -/

/-- Text without newlines is one line. -/
theorem lines_eq_singleton (h : '\n' ∉ cs) : lines cs = [cs] := by
  induction cs with
  | nil => rfl
  | cons c cs ih =>
    obtain ⟨hc, hcs⟩ := List.ne_and_not_mem_of_not_mem_cons h
    rw [lines, if_neg (Ne.symm hc), ih hcs]
    rfl

/-- A line ends at its newline. -/
theorem lines_append (h : '\n' ∉ front) : lines (front ++ '\n' :: rest) = front :: lines rest := by
  induction front with
  | nil => rw [List.nil_append, lines, if_pos rfl]
  | cons c front ih =>
    obtain ⟨hc, hfront⟩ := List.ne_and_not_mem_of_not_mem_cons h
    rw [List.cons_append, lines, if_neg (Ne.symm hc), ih hfront]
    rfl

theorem newline_not_mem_of_mem_lines {line : List Char} (h : line ∈ lines cs) : '\n' ∉ line := by
  induction cs generalizing line with
  | nil =>
    obtain rfl : line = [] := by simpa [lines] using h
    exact List.not_mem_nil
  | cons c cs ih =>
    unfold lines at h
    split at h
    · rcases List.mem_cons.mp h with rfl | hmem
      · exact List.not_mem_nil
      · exact ih hmem
    · next hc =>
      rcases of_mem_consFirst h with ⟨tail, rfl, rfl | htail⟩ | hmem
      · simp [Ne.symm hc]
      · exact List.not_mem_cons_of_ne_of_not_mem (Ne.symm hc) (ih htail)
      · exact ih hmem

end ProfileQuery.Text
