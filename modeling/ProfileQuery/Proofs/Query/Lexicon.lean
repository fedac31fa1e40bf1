import ProfileQuery.Proofs.Query.Scan

/-!
# Where tokens end

Outside of quotes only a date goes on behind a space, and then with a time of day; and a closing
parenthesis ends a token only if it holds an opening one (`Tame`). So a lexeme stays one where it is
followed by nothing, by a closing parenthesis, or by a space, if it has no hyphen or no time of day
follows (`Lexeme.spelled_quiet`).
-/

namespace ProfileQuery.Query

open Shape
open Text (isBlank isDigit)

/-! ## Dates -/

/-- The class of a character that may stand behind a space within a token. -/
def startsTime (c : Char) : Bool :=
  isSpacing c || c == '(' || isDigit c

/-- Behind every space of a text stands the start of a time of day, and before every closing
parenthesis an opening one. -/
structure Timed (w : List Char) : Prop where
  space : ∀ front back, w = front ++ ' ' :: back → ∃ c rest, back = c :: rest ∧ startsTime c = true
  paren : ∀ front back, w = front ++ ')' :: back → front = [] ∨ '(' ∈ front

/-- Before every space stands a hyphen, too. -/
structure Tame (w : List Char) : Prop extends Timed w where
  hyphen : ∀ front back, w = front ++ ' ' :: back → '-' ∈ front

theorem tame_of_not_mem {w : List Char} (hspace : ' ' ∉ w) (hparen : ')' ∉ w) : Tame w where
  space front back h := by
    rw [h] at hspace
    simp at hspace
  paren front back h := by
    rw [h] at hparen
    simp at hparen
  hyphen front back h := by
    rw [h] at hspace
    simp at hspace

/-- A character that is not in the first of two texts is in the second. -/
theorem split_second {c : Char} {first second front back : List Char}
    (h : first ++ second = front ++ c :: back) (hc : c ∉ first) :
    ∃ front', front = first ++ front' ∧ second = front' ++ c :: back := by
  rcases List.append_eq_append_iff.mp h with ⟨front', rfl, hsecond⟩ | ⟨first', rfl, hfirst⟩
  · exact ⟨front', rfl, hsecond⟩
  · cases first' with
    | nil => exact ⟨[], by simp, hfirst.symm⟩
    | cons d first' =>
      obtain ⟨rfl, -⟩ := List.cons.inj hfirst
      simp at hc

/-- A character that is not in the second of two texts is in the first. -/
theorem split_first {c : Char} {first second front back : List Char}
    (h : first ++ second = front ++ c :: back) (hc : c ∉ second) :
    ∃ back', first = front ++ c :: back' ∧ back = back' ++ second := by
  rcases List.append_eq_append_iff.mp h with ⟨front', -, hsecond⟩ | ⟨first', rfl, hfirst⟩
  · rw [hsecond] at hc
    simp at hc
  · cases first' with
    | nil =>
      rw [List.nil_append] at hfirst
      rw [← hfirst] at hc
      simp at hc
    | cons d first' =>
      obtain ⟨rfl, rfl⟩ := List.cons.inj hfirst
      exact ⟨first', rfl, rfl⟩

/-- A text with a hyphen, and then a time of day. -/
theorem Timed.append {day time : List Char} (h : Timed time) (hspace : ' ' ∉ day)
    (hparen : ')' ∉ day) (hhyphen : '-' ∈ day) (hopen : ∀ back, time ≠ ')' :: back) :
    Tame (day ++ time) where
  space front back hfront := by
    obtain ⟨front', -, htime⟩ := split_second hfront hspace
    exact h.space front' back htime
  paren front back hfront := by
    obtain ⟨front', rfl, htime⟩ := split_second hfront hparen
    rcases h.paren front' back htime with rfl | hmem
    · exact absurd htime (hopen back)
    · exact .inr (List.mem_append_right _ hmem)
  hyphen front back hfront := by
    obtain ⟨front', rfl, -⟩ := split_second hfront hspace
    exact List.mem_append_left _ hhyphen

theorem startsTime_of_isSpacing {c : Char} (h : isSpacing c = true) : startsTime c = true := by
  simp [startsTime, h]

/-- Spacing and then a word without spaces. -/
theorem timed_spacing_append {spacing w : List Char} (hspacing : ∀ c ∈ spacing, isSpacing c = true)
    (hspace : ' ' ∉ w) (hstart : ∃ c rest, w = c :: rest ∧ startsTime c = true)
    (hparen : ')' ∈ w → ∃ rest, w = '(' :: rest) : Timed (spacing ++ w) where
  space front back hfront := by
    obtain ⟨spacing', rfl, rfl⟩ := split_first hfront hspace
    -- what follows is more spacing, or the word
    cases spacing' with
    | nil => exact hstart
    | cons d spacing' => exact ⟨d, _, rfl, startsTime_of_isSpacing (hspacing d (by simp))⟩
  paren front back hfront := by
    have hnot : ')' ∉ spacing := fun hmem => absurd (hspacing _ hmem) (by decide)
    obtain ⟨front', rfl, hw⟩ := split_second hfront hnot
    obtain ⟨rest, rfl⟩ := hparen (by rw [hw]; simp)
    refine .inr (List.mem_append_right _ ?_)
    cases front' with
    | nil =>
      obtain ⟨heq, -⟩ := List.cons.inj hw
      exact absurd heq (by decide)
    | cons c front' =>
      obtain ⟨rfl, -⟩ := List.cons.inj hw
      exact List.mem_cons_self

/-- A word of a shape that does not describe the empty word has a first character. -/
theorem Matches.exists_start {s : Shape} {w : List Char} (h : s.Matches w)
    (hnull : s.nullable = false) : ∃ c rest, w = c :: rest ∧ s.starts c = true := by
  cases w with
  | nil =>
    rw [h.nullable rfl] at hnull
    cases hnull
  | cons c rest => exact ⟨c, rest, rfl, h.starts⟩

theorem starts_clockShape (c : Char) (h : clockShape.starts c = true) : startsTime c = true := by
  have : isDigit c = true := by
    simpa [clockShape, digitShape, times, inOrder, Shape.starts, Shape.nullable, List.replicate]
      using h
  simp [startsTime, this]

/-- What the shape of a time of day describes. -/
theorem timed_timeShape {w : List Char} (h : timeShape.Matches w) :
    Timed w ∧ ∀ back, w ≠ ')' :: back := by
  have hstart : ∀ back, w ≠ ')' :: back := by
    rintro back rfl
    exact absurd h.starts (by decide)
  refine ⟨?_, hstart⟩
  rcases matches_either_iff.mp h with h | h
  · obtain ⟨spacing, rest, rfl, hspacing, h⟩ := matches_inOrder_cons_iff.mp h
    refine timed_spacing_append (matches_run_iff.mp hspacing) (h.not_mem (by decide)) ?_ ?_
    · obtain ⟨u, v, rfl, hu, -⟩ := matches_inOrder_cons_iff.mp h
      rw [matches_char_iff.mp hu]
      exact ⟨'(', v, rfl, by decide⟩
    · obtain ⟨u, v, rfl, hu, -⟩ := matches_inOrder_cons_iff.mp h
      rw [matches_char_iff.mp hu]
      exact fun _ => ⟨v, rfl⟩
  · obtain ⟨first, rest, rfl, hfirst, h⟩ := matches_inOrder_cons_iff.mp h
    obtain ⟨spacing, clock, rfl, hspacing, h⟩ := matches_inOrder_cons_iff.mp h
    have hclock : clockShape.Matches clock := by
      obtain ⟨u, v, rfl, hu, hv⟩ := matches_inOrder_cons_iff.mp h
      rw [matches_nothing_iff.mp hv, List.append_nil]
      exact hu
    rw [← List.append_assoc]
    refine timed_spacing_append ?_ (hclock.not_mem (by decide)) ?_ ?_
    · intro c hc
      rcases List.mem_append.mp hc with hc | hc
      · obtain ⟨d, rfl, hd⟩ := matches_one_iff.mp hfirst
        obtain rfl := List.mem_singleton.mp hc
        exact hd
      · exact matches_run_iff.mp hspacing c hc
    · obtain ⟨c, rest, rfl, hc⟩ := Matches.exists_start hclock (by decide)
      exact ⟨c, rest, rfl, starts_clockShape c hc⟩
    · intro hmem
      exact absurd hmem (hclock.not_mem (by decide))

/-- A hyphen stands in every date, behind something else. -/
theorem hyphen_of_inOrder (before : List Shape) {after : List Shape} {w : List Char}
    (h : (inOrder (before ++ char '-' :: after)).Matches w)
    (hnull : (inOrder before).nullable = false) :
    ∃ front back, w = front ++ '-' :: back ∧ front ≠ [] := by
  obtain ⟨front, rest, rfl, hfront, hrest⟩ := matches_inOrder_append_iff.mp h
  obtain ⟨hyphen, back, rfl, hhyphen, -⟩ := matches_inOrder_cons_iff.mp hrest
  rw [matches_char_iff.mp hhyphen]
  refine ⟨front, back, rfl, ?_⟩
  rintro rfl
  rw [hfront.nullable rfl] at hnull
  cases hnull

/-- A day, and perhaps a time of day. -/
theorem tame_of_day (before after : List Shape) {w : List Char}
    (h : (inOrder ((before ++ char '-' :: after) ++ [optional timeShape])).Matches w)
    (hnull : (inOrder before).nullable = false)
    (hspace : (inOrder (before ++ char '-' :: after)).uses ' ' = false)
    (hparen : (inOrder (before ++ char '-' :: after)).uses ')' = false) : Tame w := by
  obtain ⟨day, rest, rfl, hday, hrest⟩ := matches_inOrder_append_iff.mp h
  obtain ⟨time, nothing, rfl, htime, hnothing⟩ := matches_inOrder_cons_iff.mp hrest
  rw [matches_nothing_iff.mp hnothing, List.append_nil]
  have hspace := hday.not_mem hspace
  have hparen := hday.not_mem hparen
  obtain ⟨front, back, rfl, -⟩ := hyphen_of_inOrder before hday hnull
  rcases matches_optional_iff.mp htime with htime | rfl
  · obtain ⟨htimed, hopen⟩ := timed_timeShape htime
    exact htimed.append hspace hparen (by simp) hopen
  · rw [List.append_nil]
    exact tame_of_not_mem hspace hparen

theorem hyphen_of_yearFirstShape {w : List Char} (h : yearFirstShape.Matches w) :
    ∃ front back, w = front ++ '-' :: back ∧ front ≠ [] :=
  hyphen_of_inOrder [times 4 digitShape] h (by decide)

theorem hyphen_of_dayFirstShape {w : List Char} (h : dayFirstShape.Matches w) :
    ∃ front back, w = front ++ '-' :: back ∧ front ≠ [] :=
  hyphen_of_inOrder [optional (next shortNumberShape (char '-')), monthShape] h
    (by decide)

/-! ## All rules -/

/-- The rules that use a space or a closing parenthesis. -/
theorem lexicon_filter_uses :
    (lexicon.filter fun rule => rule.2.uses ' ' || rule.2.uses ')') =
      [(.rightParen, char ')'), (.doubleQuoted, quotedShape '"'),
        (.singleQuoted, quotedShape '\''), (.yearFirstDate, yearFirstShape),
        (.dayFirstDate, dayFirstShape), (.unexpected, one fun c => !isBlank c)] :=
  rfl

theorem tame_singleton {c : Char} (h : isBlank c = false) : Tame [c] where
  space front back hfront := by
    cases front with
    | nil =>
      obtain ⟨rfl, -⟩ := List.cons.inj hfront
      exact absurd h (by decide)
    | cons d front => simp at hfront
  paren front back hfront := by
    cases front with
    | nil => exact .inl rfl
    | cons d front => simp at hfront
  hyphen front back hfront := by
    cases front with
    | nil =>
      obtain ⟨rfl, -⟩ := List.cons.inj hfront
      exact absurd h (by decide)
    | cons d front => simp at hfront

theorem starts_quotedShape {quote c : Char} (h : (quotedShape quote).starts c = true) :
    c = quote := by
  have : (char quote).starts c = true := by
    simpa [quotedShape, inOrder, Shape.starts, Shape.nullable, char] using h
  exact eq_of_beq this

/-- The words of the rules are tame, but for quoted text. -/
theorem tame_of_mem_lexicon {rule : Kind × Shape} (hrule : rule ∈ lexicon) {c : Char}
    {w : List Char} (h : rule.2.Matches (c :: w)) (hdouble : c ≠ '"') (hsingle : c ≠ '\'') :
    Tame (c :: w) := by
  cases huses : rule.2.uses ' ' || rule.2.uses ')' with
  | false =>
    obtain ⟨hspace, hparen⟩ := Bool.or_eq_false_iff.mp huses
    exact tame_of_not_mem (h.not_mem hspace) (h.not_mem hparen)
  | true =>
    have hmem : rule ∈ lexicon.filter fun rule => rule.2.uses ' ' || rule.2.uses ')' :=
      List.mem_filter.mpr ⟨hrule, huses⟩
    rw [lexicon_filter_uses] at hmem
    simp only [List.mem_cons, List.not_mem_nil, or_false] at hmem
    rcases hmem with rfl | rfl | rfl | rfl | rfl | rfl
    · rw [matches_char_iff.mp h]
      exact tame_singleton (by decide)
    · exact absurd (starts_quotedShape h.starts) hdouble
    · exact absurd (starts_quotedShape h.starts) hsingle
    · exact tame_of_day [times 4 digitShape]
        [monthShape, optional (next (char '-') shortNumberShape)] h
        (by decide) (by decide) (by decide)
    · exact tame_of_day [optional (next shortNumberShape (char '-')), monthShape]
        [optional (times 2 digitShape), times 2 digitShape] h (by decide) (by decide) (by decide)
    · obtain ⟨d, hd, hblank⟩ := matches_one_iff.mp h
      rw [hd]
      exact tame_singleton (by simpa using hblank)

/-- What may follow a lexeme: nothing, a closing parenthesis, or a space that no time of day follows;
a text without a hyphen may have any space behind it. -/
def Quiet (literal : List Char) : List Char → Prop
  | [] => True
  | c :: rest => (c = ')' ∧ '(' ∉ literal) ∨
      (c = ' ' ∧ ('-' ∉ literal ∨ ∀ d ∈ rest.head?, startsTime d = false))

/-- No rule reaches from a text without quotes into what may follow it. -/
theorem apart_of_quiet {c : Char} {literal more : List Char} (hdouble : c ≠ '"')
    (hsingle : c ≠ '\'') (h : Quiet (c :: literal) more) : Apart (c :: literal) more := by
  intro rule hrule
  by_contra hlt
  have hlt := Nat.lt_of_not_le hlt
  obtain ⟨w, rest, hw, hreach, hmatches⟩ :=
    Shape.matches_of_reach (Nat.lt_of_le_of_lt (Nat.zero_le _) hlt)
  -- the word goes on behind the literal
  obtain ⟨beyond, rfl, hmore⟩ : ∃ beyond, w = c :: literal ++ beyond ∧ more = beyond ++ rest := by
    rcases List.append_eq_append_iff.mp hw with ⟨beyond, rfl, hmore⟩ | ⟨within, hliteral, -⟩
    · exact ⟨beyond, rfl, hmore⟩
    · have := congrArg List.length hliteral
      rw [List.length_append] at this
      omega
  have htame := tame_of_mem_lexicon hrule hmatches hdouble hsingle
  cases beyond with
  | nil =>
    rw [List.append_nil] at hreach
    omega
  | cons d beyond =>
    rw [hmore] at h
    rcases h with ⟨rfl, hopen⟩ | ⟨rfl, hhyphen | hquiet⟩
    · rcases htame.paren (c :: literal) beyond rfl with h | h
      · cases h
      · exact hopen h
    · exact hhyphen (htame.hyphen (c :: literal) beyond rfl)
    · obtain ⟨e, back, rfl, he⟩ := htame.space (c :: literal) beyond rfl
      rw [hquiet e (by simp)] at he
      cases he

/-- A lexeme without quotes, in front of what may follow it. -/
theorem Lexeme.spelled_quiet {kind : Kind} {literal more : List Char} (h : Lexeme kind literal)
    (hdouble : literal.head? ≠ some '"') (hsingle : literal.head? ≠ some '\'')
    (hmore : Quiet literal more) :
    spelled (literal ++ more) = (kind, String.ofList literal) :: spelled more := by
  apply h.spelled_append
  obtain ⟨c, rest, rfl, -⟩ := h.start
  exact apart_of_quiet (by simpa using hdouble) (by simpa using hsingle) hmore

end ProfileQuery.Query
