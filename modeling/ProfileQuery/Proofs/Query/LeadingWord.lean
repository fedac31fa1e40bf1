import ProfileQuery.Proofs.Query.Alike
import ProfileQuery.Proofs.Query.Literal
import ProfileQuery.Proofs.Query.MaximalMunch

/-!
# Leading words

A leading word in any mix of letter cases, in front of a blank, is a name token of its own, whatever
follows (`spelled_leadingWord`). So a query is read as its body is read alone, but for the places in
errors and the text that they quote (`ofText_alike`).
-/

namespace ProfileQuery.Query

open Calendar (DateTime)
open Shape
open Text (isBlank isDigit)

/-! ## Blanks and letters -/

/-- The code points of the blanks. -/
def blankCodes : List Nat :=
  [9, 10, 11, 12, 13, 0x20, 0x85, 0xA0, 0x1680, 0x2000, 0x2001, 0x2002, 0x2003, 0x2004, 0x2005,
    0x2006, 0x2007, 0x2008, 0x2009, 0x200A, 0x2028, 0x2029, 0x202F, 0x205F, 0x3000]

theorem mem_blanks {c : Char} (h : isBlank c = true) : c ∈ blankCodes.map Char.ofNat := by
  have hcode : c.toNat ∈ blankCodes := by
    simp only [isBlank, Bool.or_eq_true, Bool.and_eq_true, decide_eq_true_eq, beq_iff_eq] at h
    simp only [blankCodes, List.mem_cons, List.not_mem_nil, or_false]
    omega
  rw [← Char.ofNat_toNat c]
  exact List.mem_map_of_mem hcode

/-- The only rules that take a blank are those for quoted texts and for dates. -/
theorem kind_of_uses_blank {rule : Kind × Shape} (hrule : rule ∈ lexicon) {c : Char}
    (hblank : isBlank c = true) (huses : rule.2.uses c = true) :
    rule.1 ∈ [.doubleQuoted, .singleQuoted, .yearFirstDate, .dayFirstDate] := by
  have hall : ∀ c ∈ blankCodes.map Char.ofNat, ∀ rule ∈ lexicon, rule.2.uses c = true →
      rule.1 ∈ [.doubleQuoted, .singleQuoted, .yearFirstDate, .dayFirstDate] :=
    List.forall_iff_forall_mem.mp (by decide)
  exact hall c (mem_blanks hblank) rule hrule huses

/-! ## Leading words in any letter case -/

/-- One of the words that queries start with, in any mix of letter cases. -/
def IsLeadingWord (w : List Char) : Prop :=
  ∃ word ∈ ["select", "retrieve"], w.map Char.toLower = word.toList

theorem forall_ascii (P : Char → Prop) (h : ∀ n < 128, P (Char.ofNat n)) {c : Char}
    (hc : c.toNat < 128) : P c := by
  have := h c.toNat hc
  rwa [Char.ofNat_toNat] at this

theorem toNat_lt_of_toLower {c : Char} (h : c.toLower.toNat < 128) : c.toNat < 128 := by
  unfold Char.toLower at h
  split at h
  · next hupper =>
    have hle : c.toNat ≤ 90 := hupper.2
    omega
  · exact h

namespace IsLeadingWord

variable {w : List Char}

theorem letter (h : IsLeadingWord w) : ∀ c ∈ w, startsName c = true ∧ c.toNat < 128 := by
  obtain ⟨word, hword, hw⟩ := h
  intro c hc
  have hmem : c.toLower ∈ word.toList := hw ▸ List.mem_map_of_mem hc
  have hlower : ∀ word ∈ ["select", "retrieve"], ∀ d ∈ word.toList,
      d.toNat < 128 ∧ startsName d = true := by
    simp only [← List.forall_iff_forall_mem]
    decide
  obtain ⟨hascii, hstarts⟩ := hlower word hword _ hmem
  have hc := toNat_lt_of_toLower hascii
  have hcase := forall_ascii (fun c => startsName c.toLower = true → startsName c = true)
    (by decide) hc
  exact ⟨hcase hstarts, hc⟩

/-- A leading word is a letter of either case of the first one, and at least five more. -/
theorem exists_cons (h : IsLeadingWord w) :
    ∃ c rest, w = c :: rest ∧ c ∈ ['s', 'S', 'r', 'R'] ∧ 5 ≤ rest.length := by
  have hascii := fun c hc => (h.letter c hc).2
  obtain ⟨word, hword, hw⟩ := h
  have hlength := congrArg List.length hw
  rw [List.length_map] at hlength
  cases w with
  | nil =>
    have hnil : ∀ word ∈ ["select", "retrieve"], word.toList ≠ [] := by decide
    exact absurd hw.symm (hnil word hword)
  | cons c rest =>
    have hfirst : ∀ word ∈ ["select", "retrieve"], word.toList.head? ∈ [some 's', some 'r'] ∧
        6 ≤ word.toList.length := by decide
    obtain ⟨hhead, hlong⟩ := hfirst word hword
    rw [← hw] at hhead
    have hcase := forall_ascii
      (fun c => some c.toLower ∈ [some 's', some 'r'] → c ∈ ['s', 'S', 'r', 'R'])
      (by decide) (hascii c List.mem_cons_self)
    refine ⟨c, rest, rfl, hcase hhead, ?_⟩
    rw [List.length_cons] at hlength
    omega

/-- The lower-case form of a leading word is the word itself. -/
theorem lowercase (h : IsLeadingWord w) :
    Unicode.lowercase (String.ofList w) ∈ leadingWords := by
  have hform : ∀ (w before : List Char), (∀ c ∈ w, c.toNat < 128) →
      Unicode.lowerFrom before w = w.map Char.toLower := by
    intro w
    induction w with
    | nil => intro _ _; rfl
    | cons c w ih =>
      intro before hw
      obtain ⟨hc, hw⟩ := List.forall_mem_cons.mp hw
      have hsigma : c ≠ 'Σ' := by
        rintro rfl
        exact absurd hc (by decide)
      rw [Unicode.lowerFrom, if_neg hsigma, Unicode.lowerChar, if_pos hc, ih _ hw]
      rfl
  have hascii := fun c hc => (h.letter c hc).2
  obtain ⟨word, hword, hw⟩ := h
  rw [Unicode.lowercase, String.toList_ofList, hform w [] hascii, hw, String.ofList_toList]
  exact hword

end IsLeadingWord

/-! ## Rules for texts that start with a leading word -/

theorem rule_of_kind {rule : Kind × Shape} (hrule : rule ∈ lexicon) {kind : Kind} {s : Shape}
    (hkind : rule.1 = kind)
    (honly : (lexicon.filter fun rule => rule.1 = kind) = [(kind, s)]) : rule = (kind, s) := by
  have hmem : rule ∈ lexicon.filter fun rule => rule.1 = kind :=
    List.mem_filter.mpr ⟨hrule, by simpa using hkind⟩
  rw [honly] at hmem
  exact List.mem_singleton.mp hmem

/-- A date that starts with a letter starts with the name of a month and a hyphen. -/
theorem hyphen_of_month {c : Char} {w : List Char} (hc : isDigit c = false)
    (h : dayFirstShape.Matches (c :: w)) :
    ∃ name rest, c :: w = name ++ '-' :: rest ∧ name.length = 3 := by
  -- what has a digit in front is empty here
  have hempty (s : Shape) (hs : s.starts c = false) (hnull : s.nullable = false)
      (front back : List Char) (hsplit : c :: w = front ++ back) : ¬ s.Matches front := by
    intro hfront
    obtain ⟨d, front, rfl, hd⟩ := Matches.exists_start hfront hnull
    obtain ⟨rfl, -⟩ := List.cons.inj hsplit
    rw [hs] at hd
    cases hd
  have hnumber : (next shortNumberShape (char '-')).starts c = false ∧
      (next digitShape (optional digitShape)).starts c = false := by
    simp [shortNumberShape, digitShape, times, inOrder, List.replicate, Shape.starts,
      Shape.nullable, hc]
  obtain ⟨day, back, hw, hday, hback⟩ := matches_inOrder_cons_iff.mp h
  obtain rfl : day = [] := by
    refine (matches_optional_iff.mp hday).resolve_left ?_
    exact hempty _ hnumber.1 rfl day back hw
  obtain ⟨month, back, rfl, hmonth, hback⟩ := matches_inOrder_cons_iff.mp hback
  obtain ⟨hyphen, back, rfl, hhyphen, -⟩ := matches_inOrder_cons_iff.mp hback
  obtain rfl := matches_char_iff.mp hhyphen
  refine ⟨month, back, hw, ?_⟩
  have hword := (matches_either_iff.mp hmonth).resolve_left (hempty _ hnumber.2 rfl month _ hw)
  obtain ⟨name, hname, rfl⟩ := matches_anyWord_iff.mp hword
  have hlength : ∀ name ∈ ["jan", "feb", "mar", "apr", "may", "jun", "jul", "aug", "sep", "oct",
      "nov", "dec"], name.toList.length = 3 := by decide
  exact hlength name hname

namespace IsLeadingWord

variable {w rest : List Char} {rule : Kind × Shape}

theorem kind_of_matches (h : IsLeadingWord w) (hrule : rule ∈ lexicon)
    (hmatches : rule.2.Matches (w ++ rest)) :
    rule.1 ∈ [.reportWord, .qualifiedName, .name, .unexpected] := by
  obtain ⟨c, back, rfl, hc, hlength⟩ := h.exists_cons
  have hstarts : ∀ c ∈ ['s', 'S', 'r', 'R'], ∀ rule ∈ lexicon, rule.2.starts c = true →
      rule.1 = .dayFirstDate ∨ rule.1 ∈ [.reportWord, .qualifiedName, .name, .unexpected] :=
    List.forall_iff_forall_mem.mp (by decide)
  refine (hstarts c hc rule hrule hmatches.starts).resolve_left fun hkind => ?_
  -- a date has a hyphen behind the third letter
  obtain rfl := rule_of_kind hrule hkind rfl
  have hdigit : ∀ c ∈ ['s', 'S', 'r', 'R'], isDigit c = false :=
    List.forall_iff_forall_mem.mp (by decide)
  obtain ⟨name, behind, hsplit, hname⟩ : ∃ name behind,
      c :: back ++ rest = name ++ '-' :: behind ∧ name.length = 3 :=
    hyphen_of_month (hdigit c hc) hmatches
  have hhyphen : '-' ∈ c :: back := by
    have hthird : (c :: back ++ rest)[3]? = some '-' := by
      rw [hsplit, List.getElem?_append_right (Nat.le_of_eq hname), hname]
      rfl
    rw [List.getElem?_append_left (by rw [List.length_cons]; omega)] at hthird
    exact List.mem_of_getElem? hthird
  exact absurd (h.letter _ hhyphen).1 (by decide)

/-- No rule reaches beyond a leading word into a blank. -/
theorem not_matches_beyond (h : IsLeadingWord w) {c : Char} (hblank : isBlank c = true)
    (hrule : rule ∈ lexicon) : ¬ rule.2.Matches (w ++ c :: rest) := by
  intro hmatches
  have hkind := h.kind_of_matches hrule hmatches
  have huses := kind_of_uses_blank hrule hblank (hmatches.uses (by simp))
  simp only [List.mem_cons, List.not_mem_nil, or_false] at hkind huses
  rcases hkind with hkind | hkind | hkind | hkind <;> simp [hkind] at huses

/-- Only the rule for names describes a leading word. -/
theorem kind_eq_name (h : IsLeadingWord w) (hrule : rule ∈ lexicon)
    (hmatches : rule.2.Matches w) : rule.1 = .name := by
  have hkind := h.kind_of_matches hrule ((List.append_nil w).symm ▸ hmatches)
  simp only [List.mem_cons, List.not_mem_nil, or_false] at hkind
  rcases hkind with hkind | hkind | hkind | hkind
  · obtain rfl := rule_of_kind hrule hkind rfl
    obtain rfl := matches_word_iff.mp hmatches
    obtain ⟨word, hword, heq⟩ := h
    have hreport : ∀ word ∈ ["select", "retrieve"],
        "report".toList.map Char.toLower ≠ word.toList := by decide
    exact absurd heq (hreport word hword)
  · obtain rfl := rule_of_kind hrule hkind rfl
    obtain ⟨relation, back, rfl, -, hback⟩ := matches_inOrder_cons_iff.mp hmatches
    obtain ⟨dot, back, rfl, hdot, -⟩ := matches_inOrder_cons_iff.mp hback
    obtain rfl := matches_char_iff.mp hdot
    exact absurd (h.letter '.' (by simp)).1 (by decide)
  · exact hkind
  · obtain rfl := rule_of_kind hrule hkind rfl
    obtain ⟨c, rfl, -⟩ := matches_one_iff.mp hmatches
    obtain ⟨c, back, heq, -, hlength⟩ := h.exists_cons
    obtain ⟨-, rfl⟩ := List.cons.inj heq
    simp at hlength

/-- A leading word is a name. -/
theorem matches_name (h : IsLeadingWord w) : nameShape.Matches w := by
  have hletter := h.letter
  obtain ⟨c, back, rfl, -, -⟩ := h.exists_cons
  obtain ⟨hc, hback⟩ := List.forall_mem_cons.mp hletter
  refine matches_next_iff.mpr ⟨[c], back, rfl, matches_one_iff.mpr ⟨c, rfl, hc.1⟩, ?_⟩
  refine matches_run_iff.mpr fun d hd => ?_
  rw [continuesName, (hback d hd).1]
  rfl

/-- A leading word in front of a blank is the first token. -/
theorem firstToken (h : IsLeadingWord w) {c : Char} (hblank : isBlank c = true) :
    firstToken (w ++ c :: rest) = (.name, w.length) := by
  obtain ⟨first, back, hw, hfirst, -⟩ := h.exists_cons
  have hnotBlank : ∀ c ∈ ['s', 'S', 'r', 'R'], isBlank c = false :=
    List.forall_iff_forall_mem.mp (by decide)
  have hmunched := munched_firstToken (hnotBlank first hfirst) (back ++ c :: rest)
  rw [← List.cons_append, ← hw] at hmunched
  have hlength : ((w ++ c :: rest).take (Query.firstToken (w ++ c :: rest)).2).length =
      (Query.firstToken (w ++ c :: rest)).2 := by
    rw [List.length_take, Nat.min_eq_left (firstToken_le_length (by simp))]
  generalize (w ++ c :: rest).take (Query.firstToken (w ++ c :: rest)).2 = literal
    at hmunched hlength
  obtain ⟨before, shape, after, hlexicon, hmatches, -⟩ := hmunched.first
  have hrule : ((Query.firstToken (w ++ c :: rest)).1, shape) ∈ lexicon := by
    rw [hlexicon]
    simp
  -- the token is as long as the word, and no longer
  have hle : w.length ≤ literal.length :=
    hmunched.longest (.name, nameShape) (by simp [lexicon]) w h.matches_name (List.prefix_append ..)
  have hliteral : literal = w := by
    obtain ⟨tail, htail⟩ := hmunched.front
    rcases List.append_eq_append_iff.mp htail with ⟨within, rfl, -⟩ | ⟨beyond, rfl, hbeyond⟩
    · rw [List.length_append] at hle
      rw [List.length_eq_zero_iff.mp (show within.length = 0 by omega), List.append_nil]
    · cases beyond with
      | nil => rw [List.append_nil]
      | cons d beyond =>
        obtain ⟨rfl, -⟩ := List.cons.inj hbeyond
        exact absurd hmatches (h.not_matches_beyond hblank hrule)
  subst hliteral
  exact Prod.ext (h.kind_eq_name hrule hmatches) hlength.symm

end IsLeadingWord

/-- A leading word in front of a blank is a token of its own, whatever follows. -/
theorem spelled_leadingWord {w blanks body : List Char} (h : IsLeadingWord w)
    (hne : blanks ≠ []) (hblanks : ∀ c ∈ blanks, isBlank c = true) :
    spelled (w ++ (blanks ++ body)) = (.name, String.ofList w) :: spelled body := by
  obtain ⟨c, more, rfl⟩ := List.exists_cons_of_ne_nil hne
  have hfirst : firstToken (w ++ c :: (more ++ body)) = (.name, w.length) :=
    h.firstToken (hblanks c List.mem_cons_self)
  obtain ⟨d, back, rfl, hd, -⟩ := h.exists_cons
  have hnotBlank : ∀ c ∈ ['s', 'S', 'r', 'R'], isBlank c = false :=
    List.forall_iff_forall_mem.mp (by decide)
  rw [← spelled_blanks hblanks body]
  exact spelled_token (hnotBlank d hd) hfirst

/-! ## Queries and their bodies -/

/-- Values that are equal, or that a clock word has at two moments. -/
def ClockAlike (now now' : DateTime) (v v' : Value) : Prop :=
  v = v' ∨ v = .date now ∧ v' = .date now'

section

variable {R : Value → Value → Prop} {now now' : DateTime} {t t' : Token} {ts ts' : List Token}

/-- A clock word stands for the moment. -/
theorem literalValue_clockWord (hkind : t.kind = .clockWord)
    (h : Lexeme .clockWord t.literal.toList) (now : DateTime) :
    literalValue now t = .ok (.date now) := by
  obtain ⟨word, hword, hliteral⟩ := matches_anyWord_iff.mp (h.matches_rule (by decide) rfl)
  obtain hliteral : t.literal = word := String.toList_inj.mp hliteral
  have hcell : Value.ofCell now .date word = .ok (.date now) := by
    simp only [List.mem_cons, List.not_mem_nil, or_false] at hword
    rcases hword with rfl | rfl <;> rfl
  simp only [literalValue, hkind, hliteral, hcell]

/-- Tokens of a text that are spelled alike have the same value, but for clock words. -/
theorem Token.alike_of_spelling (h : t.spelling = t'.spelling)
    (hlexeme : t'.kind ≠ .endOfInput → Lexeme t'.kind t'.literal.toList) (now now' : DateTime) :
    t.Alike (ClockAlike now now') now now' t' := by
  refine ⟨h, ?_⟩
  obtain ⟨hkind', hliteral⟩ := Prod.mk.inj h
  rw [← hkind', ← hliteral] at hlexeme
  by_cases hkind : t.kind = .clockWord
  · have hword : Lexeme .clockWord t.literal.toList := hkind ▸ hlexeme (by simp [hkind])
    rw [literalValue_clockWord hkind hword,
      literalValue_clockWord (hkind'.symm.trans hkind) (hliteral ▸ hword)]
    exact .ok (.inr ⟨rfl, rfl⟩)
  · rw [literalValue_eq_of_lexeme hkind hlexeme now now']
    exact (literalValue_spelling h now').mono fun _ _ => .inl

/-- Tokens other than clock words have equal values at all moments, and all have at one. -/
theorem Token.alike_eq_of_spelling (h : t.spelling = t'.spelling)
    (hlexeme : t'.kind ≠ .endOfInput → Lexeme t'.kind t'.literal.toList)
    (hsteady : now = now' ∨ t'.kind ≠ .clockWord) : t.Alike Eq now now' t' := by
  refine ⟨h, ?_⟩
  obtain ⟨hkind', hliteral⟩ := Prod.mk.inj h
  rw [← hkind', ← hliteral] at hlexeme
  rw [← hkind'] at hsteady
  rcases hsteady with rfl | hkind
  · exact literalValue_spelling h now
  · rw [literalValue_eq_of_lexeme hkind hlexeme now now']
    exact literalValue_spelling h now'

theorem tokensAlike_of_spelling (h : ts.map Token.spelling = ts'.map Token.spelling)
    (halike : ∀ t ∈ ts, ∀ t' ∈ ts', t.spelling = t'.spelling → t.Alike R now now' t') :
    TokensAlike R now now' ts ts' := by
  induction ts generalizing ts' with
  | nil =>
    obtain rfl := List.map_eq_nil_iff.mp h.symm
    exact .nil
  | cons t ts ih =>
    obtain ⟨t', ts', rfl, ht, hts⟩ := List.map_eq_cons_iff.mp h.symm
    refine .cons (halike t (by simp) t' (by simp) ht.symm) (ih hts.symm fun u hu u' hu' => ?_)
    exact halike u (List.mem_cons_of_mem _ hu) u' (List.mem_cons_of_mem _ hu')

/-- A query is read as its body is, where the tokens of the body are alike. -/
theorem ofText_alike {word blanks body : String} (h : IsLeadingWord word.toList)
    (hne : blanks ≠ "") (hblanks : ∀ c ∈ blanks.toList, isBlank c = true)
    (halike : ∀ t : Token, ∀ t' ∈ scan body, t.spelling = t'.spelling → t.Alike R now now' t') :
    ReadAlike (Select.Alike R) (Select.ofText now (word ++ blanks ++ body))
      (Select.ofBody now' body) := by
  have hne : blanks.toList ≠ [] := by simpa using hne
  have hspelled : (scan (word ++ blanks ++ body)).map Token.spelling =
      (.name, word) :: spelled body.toList := by
    rw [scan, map_spelling_scanFrom, String.toList_append, String.toList_append, List.append_assoc,
      spelled_leadingWord h hne hblanks, String.ofList_toList]
  obtain ⟨first, rest, hscan, hfirst, hrest⟩ := List.map_eq_cons_iff.mp hspelled
  obtain ⟨hkind, hliteral⟩ := Prod.mk.inj hfirst
  have hbody : rest.map Token.spelling = (scan body).map Token.spelling := by
    rw [hrest, scan, map_spelling_scanFrom]
  have hword : Unicode.lowercase first.literal ∈ leadingWords := by
    have hlower := h.lowercase
    rwa [String.ofList_toList, ← hliteral] at hlower
  simp only [Select.ofText, hscan, current, hkind, if_pos hword, List.tail_cons]
  exact readBody_alike _ _ (tokensAlike_of_spelling hbody fun t _ t' => halike t t')

end

end ProfileQuery.Query
