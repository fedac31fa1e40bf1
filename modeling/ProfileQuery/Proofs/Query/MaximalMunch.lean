import ProfileQuery.Proofs.Query.CutOrder
import ProfileQuery.Proofs.Query.Literal

/-!
# The longest token

No rule of the lexicon takes less than the longest of its words at the front of a text: the cuts of
all rules descend (`descending_of_mem_lexicon`), although the dates and the quoted texts prefer some
of their parts to others. So the token at the front of a text is the longest word of any rule there,
and its kind is that of the first rule that describes it (`munched_nextToken`).
-/

namespace ProfileQuery.Query

open Text (isBlank isDigit)

namespace Shape

/-! ## Words and alternatives -/

theorem matches_word_iff {s : String} {w : List Char} : (word s).Matches w ↔ w = s.toList := by
  unfold word
  induction s.toList generalizing w with
  | nil => exact matches_nothing_iff
  | cons c cs ih =>
    rw [List.foldr_cons, matches_next_iff]
    constructor
    · rintro ⟨u, v, rfl, hu, hv⟩
      rw [matches_char_iff.mp hu, ih.mp hv]
      rfl
    · rintro rfl
      exact ⟨[c], cs, rfl, matches_char_iff.mpr rfl, ih.mpr rfl⟩

theorem descending_word (s : String) : Descending (word s).cuts := by
  unfold word
  induction s.toList with
  | nil => exact descending_nothing
  | cons c cs ih => exact descending_next (descending_one _) ih (ahead_of_width rfl _)

theorem matches_anyWord_iff {words : List String} {w : List Char} :
    (anyWord words).Matches w ↔ ∃ s ∈ words, w = s.toList := by
  unfold anyWord
  induction words with
  | nil => simp [anyOf, matches_one_iff]
  | cons s words ih =>
    cases words with
    | nil => simp [anyOf, matches_word_iff]
    | cons t words =>
      show (either (word s) (anyOf ((t :: words).map word))).Matches w ↔ _
      rw [matches_either_iff, matches_word_iff, ih]
      exact (List.exists_mem_cons_iff (fun s => w = s.toList) s (t :: words)).symm

/-- Words of which an earlier one is never the front of a later one. -/
theorem descending_anyWord {words : List String}
    (h : words.Pairwise fun s t => ¬ s.toList <+: t.toList) :
    Descending (anyWord words).cuts := by
  induction words with
  | nil => exact descending_one _
  | cons s words ih =>
    obtain ⟨hs, h⟩ := List.pairwise_cons.mp h
    cases words with
    | nil => exact descending_word s
    | cons t words =>
      refine descending_either (descending_word s) (ih h) fun u v hu hv => ?_
      obtain ⟨t, ht, rfl⟩ := matches_anyWord_iff.mp hv
      rw [matches_word_iff.mp hu]
      exact hs t ht

variable {s t : Shape} {p : Char → Bool}

/-- Words that start with different characters are not the front of one another. -/
theorem not_isPrefix_of_starts (hnull : s.nullable = false)
    (hstarts : ∀ c, s.starts c = true → t.starts c = false) {u v : List Char} (hu : s.Matches u)
    (hv : t.Matches v) : ¬ u <+: v := by
  rintro ⟨rest, rfl⟩
  obtain ⟨c, cs, rfl, hc⟩ := Matches.exists_start hu hnull
  have hv := hv.starts
  rw [hstarts c hc] at hv
  cases hv

/-- Alternatives that start with different characters. -/
theorem Grows.either (hs : Grows s p) (ht : Grows t p) (hsnull : s.nullable = false)
    (htnull : t.nullable = false) (hstarts : ∀ c, s.starts c = true → t.starts c = false) :
    Grows (either s t) p := by
  have hstarts' : ∀ c, t.starts c = true → s.starts c = false := fun c hc => by
    by_contra hne
    rw [hstarts c (by simpa using hne)] at hc
    cases hc
  intro u c x hu hux
  have hfront : u <+: u ++ c :: x := List.prefix_append ..
  rcases matches_either_iff.mp hu with hu | hu <;> rcases matches_either_iff.mp hux with hux | hux
  · exact hs u c x hu hux
  · exact absurd hfront (not_isPrefix_of_starts hsnull hstarts hu hux)
  · exact absurd hfront (not_isPrefix_of_starts htnull hstarts' hu hux)
  · exact ht u c x hu hux

/-- A word in front of a mark that is not part of it does not go on. -/
theorem grows_marked {mark : Char} (h : s.uses mark = false) :
    Grows (next s (char mark)) fun _ => false := by
  intro u c x hu hux
  obtain ⟨u, v, rfl, hu, hv⟩ := matches_next_iff.mp hu
  obtain ⟨w, v', heq, hw, hv'⟩ := matches_next_iff.mp hux
  rw [matches_char_iff.mp hv, matches_char_iff.mp hv', List.append_assoc] at heq
  -- the mark behind the shorter word would have to stand in the longer one
  obtain ⟨between, rfl, hbetween⟩ := split_second heq (hu.not_mem h)
  cases between with
  | nil => simp at hbetween
  | cons d between =>
    obtain ⟨rfl, -⟩ := List.cons.inj hbetween
    exact absurd (by simp) (hw.not_mem h)

end Shape

open Shape

/-! ## The rules -/

section

variable {s : Shape} (h : digitChars.all (fun c => !s.starts c) = true)

include h

/-- Where none of the ten digits starts a word, no digit does. -/
theorem starts_eq_false_of_isDigit (c : Char) (hc : isDigit c = true) : s.starts c = false := by
  simpa using List.all_eq_true.mp h c (mem_digitChars hc)

theorem isDigit_eq_false_of_starts (c : Char) (hc : s.starts c = true) : isDigit c = false := by
  by_contra hne
  rw [starts_eq_false_of_isDigit h c (by simpa using hne)] at hc
  cases hc

end

theorem descending_integerShape : Descending integerShape.cuts := by
  have hsign : Grows signShape fun c => c == '+' || c == '-' :=
    Grows.optional (grows_of_width rfl _) fun _ hc => hc
  have hdigits : Descending (inOrder [digitShape, run isDigit]).cuts :=
    descending_next (descending_one _) (descending_inOrder_singleton (descending_run _))
      (ahead_of_width rfl _)
  refine descending_next (descending_optional (descending_one _) rfl) hdigits
    (hsign.ahead fun c hc => ?_)
  have hdigit : isDigit c = true := by
    simpa [inOrder, digitShape, Shape.starts, Shape.nullable] using hc
  exact starts_eq_false_of_isDigit (s := one fun c => c == '+' || c == '-') (by decide) c hdigit

theorem descending_nameShape : Descending nameShape.cuts :=
  descending_next (descending_one _) (descending_run _) (ahead_of_width rfl _)

theorem descending_qualifiedName :
    Descending (inOrder [nameShape, char '.', nameShape]).cuts := by
  have hname : Grows nameShape continuesName := by
    refine Grows.next (grows_of_uses ?_) rfl
    exact fun _ hc => hc
  refine descending_next descending_nameShape ?_ (hname.ahead fun c hc => ?_)
  · exact descending_next (descending_one _)
      (descending_inOrder_singleton descending_nameShape) (ahead_of_width rfl _)
  · obtain rfl : c = '.' := by
      simpa [inOrder, char, Shape.starts, Shape.nullable] using hc
    decide

/-! ### Quoted text -/

/-- The class of a character of quoted text that stands for itself. -/
def isPlain (quote c : Char) : Bool := c != quote && c != '\\'

/-- A backslash with the next character, and plain text behind it. -/
def escapedShape (quote : Char) : Shape :=
  inOrder [char '\\', one (· != '\n'), run (isPlain quote)]

theorem grows_plain (quote : Char) : Grows (run (isPlain quote)) (isPlain quote) :=
  grows_of_uses fun _ hc => hc

theorem grows_escapedShape (quote : Char) :
    Grows (escapedShape quote) (isPlain quote) :=
  Grows.next (Grows.next (grows_plain quote).inOrder_singleton rfl) rfl

theorem starts_escapedShape {quote c : Char} (h : (escapedShape quote).starts c = true) :
    isPlain quote c = false := by
  obtain rfl : c = '\\' := by
    simpa [escapedShape, inOrder, char, Shape.starts, Shape.nullable] using h
  simp [isPlain]

theorem descending_escapedShape (quote : Char) : Descending (escapedShape quote).cuts :=
  descending_next (descending_one _) (descending_next (descending_one _)
    (descending_inOrder_singleton (descending_run _)) (ahead_of_width rfl _)) (ahead_of_width rfl _)

/-- The escaped parts of quoted text, and the quote at its end. -/
theorem descending_escaped {quote : Char} (hquote : quote ≠ '\\') :
    Descending (inOrder [many (escapedShape quote), char quote]).cuts := by
  have hgrows := (grows_escapedShape quote).many fun _ => starts_escapedShape
  refine descending_next (descending_many (descending_escapedShape quote)
    ((grows_escapedShape quote).ahead fun _ => starts_escapedShape))
    (descending_inOrder_singleton (descending_one _)) (hgrows.ahead fun c hc => ?_)
  obtain rfl : c = quote := by
    simpa [inOrder, char, Shape.starts, Shape.nullable] using hc
  simp [isPlain, escapedShape, inOrder, char, Shape.starts, Shape.nullable, hquote]

theorem descending_quotedShape {quote : Char} (hquote : quote ≠ '\\') :
    Descending (quotedShape quote).cuts := by
  have hplain : Ahead (run (isPlain quote)).Matches
      (inOrder [many (escapedShape quote), char quote]).Matches := by
    refine (grows_plain quote).ahead fun c hc => ?_
    have hc : c = '\\' ∨ c = quote := by
      simpa [escapedShape, inOrder, char, Shape.starts, Shape.nullable] using hc
    rcases hc with rfl | rfl <;> simp [isPlain]
  exact descending_next (descending_one _)
    (descending_next (descending_run _) (descending_escaped hquote) hplain) (ahead_of_width rfl _)

/-! ### Dates -/

theorem descending_shortNumberShape : Descending shortNumberShape.cuts := by
  refine descending_either (descending_times 2 _) (descending_one _) fun u v hu hv hfront => ?_
  have := hfront.length_le
  rw [hu.length_eq (n := 2) rfl, hv.length_eq (n := 1) rfl] at this
  omega

theorem descending_monthShape : Descending monthShape.cuts := by
  refine descending_either ?_ (descending_anyWord (by decide)) fun u v =>
    not_isPrefix_of_starts rfl fun c hc => ?_
  · exact descending_next (descending_one _) (descending_optional (descending_one _) rfl)
      (ahead_of_width rfl _)
  · have hdigit : isDigit c = true := by
      simpa [digitShape, Shape.starts, Shape.nullable] using hc
    exact starts_eq_false_of_isDigit (by decide) c hdigit

theorem grows_monthShape : Grows monthShape isDigit := by
  refine Grows.either ?_ (grows_of_width (n := 3) rfl _) rfl rfl fun c hc => ?_
  · exact grows_of_uses fun c hc => by
      simpa [digitShape, Shape.optional, Shape.uses] using hc
  · have hdigit : isDigit c = true := by
      simpa [digitShape, Shape.starts, Shape.nullable] using hc
    exact starts_eq_false_of_isDigit (by decide) c hdigit

theorem descending_clockShape : Descending clockShape.cuts := by
  have hsecond : Descending (next (char ':') (times 2 digitShape)).cuts :=
    descending_next (descending_one _) (descending_times 2 _) (ahead_of_width rfl _)
  refine descending_next (descending_times 2 _) ?_ (ahead_of_width rfl _)
  refine descending_next (descending_one _) ?_ (ahead_of_width rfl _)
  refine descending_next (descending_times 2 _) ?_ (ahead_of_width rfl _)
  exact descending_inOrder_singleton (descending_optional hsecond rfl)

theorem grows_clockShape : Grows clockShape (· == ':') := by
  have hsecond : Grows (optional (next (char ':') (times 2 digitShape))) (· == ':') := by
    refine Grows.optional (grows_of_width (n := 3) rfl _) fun c hc => ?_
    simpa [char, Shape.starts, Shape.nullable] using hc
  exact Grows.next (Grows.next (Grows.next hsecond.inOrder_singleton rfl) rfl) rfl

theorem descending_timeShape : Descending timeShape.cuts := by
  have hspacing : Grows (run isSpacing) isSpacing := grows_of_uses fun _ hc => hc
  have hparenthesized : Descending (inOrder [char '(', clockShape, char ')']).cuts := by
    refine descending_next (descending_one _) (descending_next descending_clockShape
      (descending_inOrder_singleton (descending_one _))
      (grows_clockShape.ahead fun c hc => ?_)) (ahead_of_width rfl _)
    obtain rfl : c = ')' := by
      simpa [inOrder, char, Shape.starts, Shape.nullable] using hc
    decide
  refine descending_either ?_ ?_ fun u v hu hv hfront => ?_
  · refine descending_next (descending_run _) hparenthesized (hspacing.ahead fun c hc => ?_)
    obtain rfl : c = '(' := by
      simpa [inOrder, char, Shape.starts, Shape.nullable] using hc
    decide
  · refine descending_next (descending_one _) (descending_next (descending_run _)
      (descending_inOrder_singleton descending_clockShape) (hspacing.ahead fun c hc => ?_))
      (ahead_of_width rfl _)
    refine isSpacing_of_isDigit ?_
    simpa [clockShape, digitShape, times, inOrder, Shape.starts, Shape.nullable, List.replicate]
      using hc
  · -- only the first alternative has parentheses
    obtain ⟨_, u, rfl, -, hu⟩ := matches_inOrder_cons_iff.mp hu
    obtain ⟨paren, u, rfl, hparen, -⟩ := matches_inOrder_cons_iff.mp hu
    rw [matches_char_iff.mp hparen] at hfront
    exact hv.not_mem (c := '(') (by decide) (hfront.subset (by simp))

theorem descending_time : Descending (inOrder [optional timeShape]).cuts :=
  descending_inOrder_singleton (descending_optional descending_timeShape rfl)

/-- A day behind a month leads further than the month alone. -/
theorem ahead_dayBehind : Ahead (optional (next (char '-') shortNumberShape)).Matches
    (inOrder [optional timeShape]).Matches := by
  refine (grows_of_uses (p := fun c => c == '-' || isDigit c) fun c hc => ?_).ahead
    fun c hc => ?_
  · simpa [Shape.optional, char, shortNumberShape, times, inOrder, digitShape, Shape.uses,
      List.replicate] using hc
  · have hhyphen : c ≠ '-' := by
      rintro rfl
      exact absurd hc (by decide)
    simp [hhyphen, isDigit_eq_false_of_starts (by decide) c hc]

theorem descending_yearFirstShape : Descending yearFirstShape.cuts := by
  have hday : Descending (optional (next (char '-') shortNumberShape)).cuts :=
    descending_optional (descending_next (descending_one _) descending_shortNumberShape
      (ahead_of_width rfl _)) rfl
  have hmonth : Descending (inOrder [monthShape, optional (next (char '-') shortNumberShape),
      optional timeShape]).cuts :=
    descending_next descending_monthShape (descending_next hday descending_time ahead_dayBehind)
      (grows_monthShape.ahead (isDigit_eq_false_of_starts (by decide)))
  exact descending_next (descending_times 4 _)
    (descending_next (descending_one _) hmonth (ahead_of_width rfl _)) (ahead_of_width rfl _)

/-- Two more digits in front of a year lead further than the two of the year alone. -/
theorem ahead_century : Ahead (optional (times 2 digitShape)).Matches
    (inOrder [times 2 digitShape, optional timeShape]).Matches := by
  have hdigits : ∀ w, (times 2 digitShape).Matches w →
      ∃ a b, w = [a, b] ∧ isDigit a = true := by
    intro w hw
    obtain ⟨a, b, rfl⟩ := List.length_eq_two.mp (hw.length_eq (n := 2) rfl)
    exact ⟨a, b, rfl, by simpa [times, digitShape, inOrder, List.replicate, Shape.starts,
      Shape.nullable] using hw.starts⟩
  intro u x v v' hu hux hne hv hv' hfront
  obtain ⟨year, time, rfl, hyear, -⟩ := matches_inOrder_cons_iff.mp hv
  obtain ⟨year', time', rfl, hyear', htime'⟩ := matches_inOrder_cons_iff.mp hv'
  obtain ⟨a, b, rfl, ha⟩ := hdigits year hyear
  have hlen : (u ++ x).length = 2 := by
    rcases matches_optional_iff.mp hux with h | h
    · exact h.length_eq rfl
    · exact absurd (List.append_eq_nil_iff.mp h).2 hne
  rcases matches_optional_iff.mp hu with hu | rfl
  · rw [List.length_append, hu.length_eq (n := 2) rfl] at hlen
    exact hne (List.length_eq_zero_iff.mp (by omega))
  · -- a time of day would have to start with the digits of the year
    obtain ⟨rest, heq⟩ := hfront
    rw [List.append_assoc] at heq
    obtain ⟨-, rfl⟩ := List.append_inj heq (by
      rw [hyear'.length_eq (n := 2) rfl]
      exact hlen)
    have := isDigit_eq_false_of_starts (by decide) a htime'.starts
    rw [ha] at this
    cases this

/-- A text with no hyphen but one. -/
theorem count_hyphen (before : List Shape) {after : List Shape} {w : List Char}
    (h : (inOrder (before ++ char '-' :: after)).Matches w)
    (hbefore : (inOrder before).uses '-' = false) (hafter : (inOrder after).uses '-' = false) :
    w.count '-' = 1 := by
  obtain ⟨front, rest, rfl, hfront, hrest⟩ := matches_inOrder_append_iff.mp h
  obtain ⟨hyphen, back, rfl, hhyphen, hback⟩ := matches_inOrder_cons_iff.mp hrest
  rw [matches_char_iff.mp hhyphen]
  simp [List.count_eq_zero_of_not_mem (hfront.not_mem hbefore),
    List.count_eq_zero_of_not_mem (hback.not_mem hafter)]

/-- A day in front of a month leads further than the month alone: a month and a year have one hyphen
between them. -/
theorem ahead_day : Ahead (optional (next shortNumberShape (char '-'))).Matches
    (inOrder [monthShape, char '-', optional (times 2 digitShape), times 2 digitShape,
      optional timeShape]).Matches := by
  intro u x v v' hu hux hne hv hv' hfront
  have hcount : ∀ w, (inOrder [monthShape, char '-', optional (times 2 digitShape),
      times 2 digitShape, optional timeShape]).Matches w → w.count '-' = 1 :=
    fun w hw => count_hyphen [monthShape] hw (by decide) (by decide)
  have hux : (next shortNumberShape (char '-')).Matches (u ++ x) := by
    refine (matches_optional_iff.mp hux).resolve_right fun h => ?_
    exact hne (List.append_eq_nil_iff.mp h).2
  rcases matches_optional_iff.mp hu with hu | rfl
  · cases x with
    | nil => exact hne rfl
    | cons c x => exact Bool.noConfusion (grows_marked (by decide) u c x hu hux)
  · obtain ⟨number, hyphen, rfl, -, hhyphen⟩ := matches_next_iff.mp hux
    rw [matches_char_iff.mp hhyphen] at hfront
    have := hfront.sublist.count_le '-'
    rw [List.count_append, List.count_append, hcount v hv, hcount v' hv'] at this
    simp at this

theorem descending_dayFirstShape : Descending dayFirstShape.cuts := by
  have hday : Descending (next shortNumberShape (char '-')).cuts := by
    refine descending_next descending_shortNumberShape (descending_one _) ?_
    refine (grows_of_uses (p := isDigit) fun c hc => ?_).ahead fun c hc => ?_
    · simpa [shortNumberShape, times, inOrder, digitShape, Shape.uses, List.replicate] using hc
    · exact isDigit_eq_false_of_starts (by decide) c hc
  have hyear : Descending (inOrder [optional (times 2 digitShape), times 2 digitShape,
      optional timeShape]).cuts :=
    descending_next (descending_optional (descending_times 2 _) rfl)
      (descending_next (descending_times 2 _) descending_time (ahead_of_width rfl _))
      ahead_century
  refine descending_next (descending_optional hday rfl) ?_ ahead_day
  exact descending_next descending_monthShape
    (descending_next (descending_one _) hyear (ahead_of_width rfl _))
    (grows_monthShape.ahead (isDigit_eq_false_of_starts (by decide)))

/-! ### All rules -/

/-- Every rule takes the longest of its words first. -/
theorem descending_of_mem_lexicon : ∀ rule ∈ lexicon, Descending rule.2.cuts := by
  simp only [lexicon, List.forall_mem_cons]
  refine ⟨descending_word _, descending_word _, descending_word _, descending_one _,
    descending_one _, descending_anyWord (by decide), descending_anyWord (by decide),
    descending_anyWord (by decide), descending_anyWord (by decide), descending_one _,
    descending_one _, descending_quotedShape (by decide), descending_quotedShape (by decide),
    descending_yearFirstShape, descending_dayFirstShape, descending_anyWord (by decide),
    descending_integerShape, descending_qualifiedName, descending_nameShape, descending_one _, ?_⟩
  intro rule hrule
  cases hrule

/-! ## The token at the front of a text -/

/-- Where a text has a word of a rule in front, the rule takes one, and no longer one is there. -/
theorem exists_taken {rule : Kind × Shape} (hrule : rule ∈ lexicon) {w cs : List Char}
    (hw : rule.2.Matches w) (hfront : w <+: cs) :
    ∃ u more, cs = u ++ more ∧ rule.2.firstCut? cs = some ⟨u.length, more⟩ ∧
      rule.2.Matches u ∧ w.length ≤ u.length := by
  obtain ⟨cut, hcut, hle⟩ := exists_firstCut (descending_of_mem_lexicon rule hrule) hw hfront
  obtain ⟨u, hu, htaken, hmatches⟩ := matches_of_firstCut hcut
  exact ⟨u, cut.rest, hu, htaken ▸ hcut, hmatches, htaken ▸ hle⟩

theorem length_le_reach {rule : Kind × Shape} (hrule : rule ∈ lexicon) {w cs : List Char}
    (hw : rule.2.Matches w) (hfront : w <+: cs) : w.length ≤ rule.2.reach cs := by
  obtain ⟨u, more, -, hcut, -, hle⟩ := exists_taken hrule hw hfront
  unfold Shape.reach
  rw [hcut]
  exact hle

/-- A word at the front of a text that no rule has a longer one of, with the kind of the first rule
that describes it. -/
structure Munched (cs : List Char) (kind : Kind) (literal : List Char) : Prop where
  ne_nil : literal ≠ []
  front : literal <+: cs
  longest : ∀ rule ∈ lexicon, ∀ w, rule.2.Matches w → w <+: cs → w.length ≤ literal.length
  first : ∃ before shape after, lexicon = before ++ (kind, shape) :: after ∧
    shape.Matches literal ∧ ∀ rule ∈ before, ¬ rule.2.Matches literal

/-- Some rule takes the first character of a text that is not blank. -/
theorem longestFind_isSome {c : Char} (hblank : isBlank c = false) (rest : List Char) :
    ∃ find, longestFind lexicon (c :: rest) = some find := by
  have hrule : ((.unexpected, one fun c => !isBlank c) : Kind × Shape) ∈ lexicon := by
    simp [lexicon]
  have hone : (one fun c => !isBlank c).Matches [c] := .one (by simp [hblank])
  have hfront : [c] <+: c :: rest := List.prefix_append ..
  have hreach := Nat.le_trans (length_le_reach hrule hone hfront)
    (reach_le_longestFind (c :: rest) _ hrule)
  cases hfind : longestFind lexicon (c :: rest) with
  | none =>
    rw [hfind] at hreach
    cases hreach
  | some find => exact ⟨find, rfl⟩

theorem munched_firstToken {c : Char} (hblank : isBlank c = false) (rest : List Char) :
    Munched (c :: rest) (firstToken (c :: rest)).1
      ((c :: rest).take (firstToken (c :: rest)).2) := by
  obtain ⟨find, hfind⟩ := longestFind_isSome hblank rest
  obtain ⟨before, rule, after, hlexicon, hkind, hreach, hbefore⟩ := exists_first_of_longestFind hfind
  have hfirst : firstToken (c :: rest) = find := by
    unfold firstToken
    rw [hfind]
    rfl
  -- the rule takes the literal
  obtain ⟨literal, more, hliteral, hlength, hmatches⟩ :=
    matches_of_reach (hreach ▸ longestFind_pos hfind)
  have htake : (c :: rest).take find.2 = literal := by
    rw [hliteral, ← hreach, hlength, List.take_left]
  have hlen : literal.length = find.2 := hlength.symm.trans hreach
  rw [hfirst, htake]
  refine ⟨?_, ⟨more, hliteral.symm⟩, ?_, before, rule.2, after, ?_, hmatches, ?_⟩
  · exact List.ne_nil_of_length_pos (hlen ▸ longestFind_pos hfind)
  · intro other hother w hw hfront
    rw [hlen, ← hfirst]
    exact Nat.le_trans (length_le_reach hother hw hfront) (reach_le_firstToken _ hother)
  · rw [hlexicon, ← hkind]
  · intro other hother hw
    have hmem : other ∈ lexicon := hlexicon ▸ List.mem_append_left _ hother
    have hfront : literal <+: c :: rest := ⟨more, hliteral.symm⟩
    have := length_le_reach hmem hw hfront
    have := hbefore other hother
    omega

/-- The token at the front of a text that is not blank is the longest word of any rule there, and of
the first rule that describes it; and no rule has a longer word there than the one it takes. -/
theorem munched_nextToken {c : Char} (hblank : isBlank c = false) (rest : List Char)
    (place : Position) :
    (∃ kind literal more, Lexer.nextToken ⟨c :: rest, place⟩ =
        (⟨kind, String.ofList literal, place⟩, ⟨more, place.advance literal⟩) ∧
      c :: rest = literal ++ more ∧ Munched (c :: rest) kind literal) ∧
    ∀ rule ∈ lexicon, ∀ w, rule.2.Matches w → w <+: c :: rest →
      ∃ u more, c :: rest = u ++ more ∧ rule.2.firstCut? (c :: rest) = some ⟨u.length, more⟩ ∧
        rule.2.Matches u ∧ w.length ≤ u.length := by
  refine ⟨⟨_, _, (c :: rest).drop (firstToken (c :: rest)).2, ?_,
    (List.take_append_drop ..).symm, munched_firstToken hblank rest⟩, ?_⟩
  · have htake : (c :: rest).takeWhile isBlank = [] := List.takeWhile_cons_of_neg (by simp [hblank])
    have hdrop : (c :: rest).dropWhile isBlank = c :: rest :=
      List.dropWhile_cons_of_neg (by simp [hblank])
    simp only [Lexer.nextToken, htake, hdrop]
    rfl
  · exact fun rule hrule w hw hfront => exists_taken hrule hw hfront

/-- Here the date ends behind a month and a year, and no rule has a longer word. -/
theorem munched_nextToken_date : isBlank '1' = false ∧
    Lexer.nextToken ⟨'1' :: "0-12-1x".toList, .start⟩ =
      (⟨.dayFirstDate, "10-12", .start⟩, ⟨"-1x".toList, ⟨1, 6⟩⟩) ∧
    Munched ('1' :: "0-12-1x".toList) .dayFirstDate "10-12".toList ∧
    ∀ rule ∈ lexicon, ∀ w, rule.2.Matches w → w <+: '1' :: "0-12-1x".toList →
      ∃ u more, '1' :: "0-12-1x".toList = u ++ more ∧
        rule.2.firstCut? ('1' :: "0-12-1x".toList) = some ⟨u.length, more⟩ ∧
        rule.2.Matches u ∧ w.length ≤ u.length := by
  have hdate : Lexer.nextToken ⟨'1' :: "0-12-1x".toList, .start⟩ =
      (⟨.dayFirstDate, "10-12", .start⟩, ⟨"-1x".toList, ⟨1, 6⟩⟩) := rfl
  obtain ⟨⟨kind, literal, more, htoken, -, hmunched⟩, htaken⟩ :=
    munched_nextToken (by decide : isBlank '1' = false) "0-12-1x".toList .start
  obtain ⟨rfl, hliteral⟩ : kind = .dayFirstDate ∧ String.ofList literal = "10-12" := by
    have h := congrArg Prod.fst (htoken.symm.trans hdate)
    exact ⟨congrArg Token.kind h, congrArg Token.literal h⟩
  obtain rfl : literal = "10-12".toList := by rw [← hliteral, String.toList_ofList]
  exact ⟨by decide, hdate, hmunched, htaken⟩

end ProfileQuery.Query
