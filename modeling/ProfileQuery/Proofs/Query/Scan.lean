import Mathlib.Data.List.Induction
import ProfileQuery.Proofs.Query.Shape
import ProfileQuery.Proofs.Text.Blank
import ProfileQuery.Query.Scan

/-!
# What a scan yields

A rule reaches over the characters that its shape takes, and the token at the front of a text is as
long as the furthest reach (`reach_le_firstToken`). So a token is a token on its own
(`firstToken_front`), and stays one in front of any text into which no rule reaches from it
(`firstToken_append`). A scan consists of such lexemes (`lexeme_of_mem_scan`).
-/

namespace ProfileQuery.Query

open Text (isBlank)

/-! ## The reach of a rule -/

/-- How many characters a shape takes from the front of a text. -/
def Shape.reach (s : Shape) (cs : List Char) : Nat :=
  ((s.firstCut? cs).map (·.taken)).getD 0

/-- The length of a find; nothing found has none. -/
def findLength (best : Option Find) : Nat := (best.map (·.2)).getD 0

theorem longerFind_eq (cs : List Char) (best : Option Find) (rule : Kind × Shape) :
    longerFind cs best rule =
      if findLength best < rule.2.reach cs then some (rule.1, rule.2.reach cs) else best := by
  unfold longerFind Shape.reach findLength
  cases rule.2.firstCut? cs with
  | none => simp
  | some cut => rfl

theorem longestFind_append (rules : List (Kind × Shape)) (rule : Kind × Shape) (cs : List Char) :
    longestFind (rules ++ [rule]) cs = longerFind cs (longestFind rules cs) rule := by
  unfold longestFind
  rw [List.foldl_append, List.foldl_cons, List.foldl_nil]

/-- No rule reaches further than the longest find. -/
theorem reach_le_longestFind {rules : List (Kind × Shape)} (cs : List Char) :
    ∀ rule ∈ rules, rule.2.reach cs ≤ findLength (longestFind rules cs) := by
  induction rules using List.reverseRecOn with
  | nil => intro rule hrule; cases hrule
  | append_singleton rules last ih =>
    intro rule hrule
    rw [longestFind_append, longerFind_eq]
    rcases List.mem_append.mp hrule with hrule | hrule
    · have := ih rule hrule
      split
      · show _ ≤ last.2.reach cs
        omega
      · exact this
    · obtain rfl := List.mem_singleton.mp hrule
      split
      · exact Nat.le_refl _
      · omega

/-- The longest find is one of a rule that reaches further than all rules before it. -/
theorem exists_first_of_longestFind {rules : List (Kind × Shape)} {cs : List Char} {find : Find}
    (h : longestFind rules cs = some find) :
    ∃ before rule after, rules = before ++ rule :: after ∧ rule.1 = find.1 ∧
      rule.2.reach cs = find.2 ∧ ∀ other ∈ before, other.2.reach cs < find.2 := by
  induction rules using List.reverseRecOn with
  | nil => cases h
  | append_singleton rules last ih =>
    rw [longestFind_append, longerFind_eq] at h
    split at h
    · next hlt =>
      obtain rfl := Option.some.inj h
      refine ⟨rules, last, [], rfl, rfl, rfl, fun other hother => ?_⟩
      exact Nat.lt_of_le_of_lt (reach_le_longestFind cs other hother) hlt
    · obtain ⟨before, rule, after, rfl, hkind, hreach, hbefore⟩ := ih h
      exact ⟨before, rule, after ++ [last], by simp, hkind, hreach, hbefore⟩

/-- The longest find is one of a rule. -/
theorem exists_of_longestFind {rules : List (Kind × Shape)} {cs : List Char} {find : Find}
    (h : longestFind rules cs = some find) :
    ∃ rule ∈ rules, rule.1 = find.1 ∧ rule.2.reach cs = find.2 := by
  obtain ⟨before, rule, after, rfl, hkind, hreach, -⟩ := exists_first_of_longestFind h
  exact ⟨rule, by simp, hkind, hreach⟩

/-- Of the rules that reach furthest the first one makes the find. -/
theorem longestFind_eq_some {before after : List (Kind × Shape)} {rule : Kind × Shape}
    {cs : List Char} (hpos : 0 < rule.2.reach cs)
    (hbefore : ∀ other ∈ before, other.2.reach cs < rule.2.reach cs)
    (hafter : ∀ other ∈ after, other.2.reach cs ≤ rule.2.reach cs) :
    longestFind (before ++ rule :: after) cs = some (rule.1, rule.2.reach cs) := by
  induction after using List.reverseRecOn with
  | nil =>
    rw [longestFind_append, longerFind_eq, if_pos]
    cases h : longestFind before cs with
    | none => exact hpos
    | some find =>
      obtain ⟨other, hother, -, hreach⟩ := exists_of_longestFind h
      show find.2 < _
      rw [← hreach]
      exact hbefore other hother
  | append_singleton after last ih =>
    have hlast := hafter last (by simp)
    have ih := ih fun other hother => hafter other (List.mem_append_left _ hother)
    rw [← List.cons_append, ← List.append_assoc, longestFind_append, ih, longerFind_eq, if_neg]
    show ¬ rule.2.reach cs < last.2.reach cs
    omega

theorem longestFind_congr {rules : List (Kind × Shape)} {cs cs' : List Char}
    (h : ∀ rule ∈ rules, rule.2.reach cs = rule.2.reach cs') :
    longestFind rules cs = longestFind rules cs' := by
  induction rules using List.reverseRecOn with
  | nil => rfl
  | append_singleton rules last ih =>
    rw [longestFind_append, longestFind_append, longerFind_eq, longerFind_eq, h last (by simp),
      ih fun rule hrule => h rule (List.mem_append_left _ hrule)]

/-- What a shape reaches over is one of its words. -/
theorem Shape.matches_of_reach {s : Shape} {cs : List Char} (h : 0 < s.reach cs) :
    ∃ w rest, cs = w ++ rest ∧ s.reach cs = w.length ∧ s.Matches w := by
  unfold reach at h ⊢
  cases hcut : s.firstCut? cs with
  | none => simp [hcut] at h
  | some cut =>
    obtain ⟨w, hcs, htaken, hw⟩ := matches_of_firstCut hcut
    exact ⟨w, cut.rest, hcs, htaken, hw⟩

/-- A shape that reaches over a whole text describes it. -/
theorem Shape.matches_of_reach_eq {s : Shape} {cs : List Char} (hpos : 0 < cs.length)
    (h : s.reach cs = cs.length) : s.Matches cs := by
  obtain ⟨w, rest, hw, hlen, hmatches⟩ := matches_of_reach (h ▸ hpos)
  have hrest : rest = [] := by
    have := congrArg List.length hw
    rw [List.length_append] at this
    exact List.length_eq_zero_iff.mp (by omega)
  rw [hw, hrest, List.append_nil]
  exact hmatches

theorem Shape.reach_le_length (s : Shape) (cs : List Char) : s.reach cs ≤ cs.length := by
  rcases Nat.eq_zero_or_pos (s.reach cs) with h | h
  · omega
  · obtain ⟨w, rest, rfl, hreach, -⟩ := matches_of_reach h
    rw [hreach, List.length_append]
    omega

/-- A shape that does not reach beyond the front of a text reaches as far in the front alone. -/
theorem Shape.reach_append {s : Shape} {front more : List Char}
    (h : s.reach (front ++ more) ≤ front.length) : s.reach (front ++ more) = s.reach front := by
  unfold reach at h ⊢
  rw [firstCut?_append]
  · cases s.firstCut? front <;> rfl
  · intro cut hcut
    simpa [hcut] using h

/-! ## Lexemes -/

theorem reach_le_firstToken (cs : List Char) {rule : Kind × Shape} (h : rule ∈ lexicon) :
    rule.2.reach cs ≤ (firstToken cs).2 := by
  apply Nat.le_trans (reach_le_longestFind cs rule h)
  unfold firstToken findLength
  cases longestFind lexicon cs with
  | none => exact Nat.zero_le _
  | some find => exact Nat.le_refl _

theorem firstToken_le_length {cs : List Char} (h : cs ≠ []) : (firstToken cs).2 ≤ cs.length := by
  unfold firstToken
  cases hfind : longestFind lexicon cs with
  | none => exact List.length_pos_iff.mpr h
  | some find =>
    obtain ⟨rule, -, -, hreach⟩ := exists_of_longestFind hfind
    show find.2 ≤ _
    rw [← hreach]
    exact rule.2.reach_le_length cs

/-- No rule reaches from a text into the text behind it. -/
def Apart (literal more : List Char) : Prop :=
  ∀ rule ∈ lexicon, rule.2.reach (literal ++ more) ≤ literal.length

theorem firstToken_append {literal more : List Char} (h : Apart literal more) :
    firstToken (literal ++ more) = firstToken literal := by
  unfold firstToken
  rw [longestFind_congr fun rule hrule => Shape.reach_append (h rule hrule)]

/-- A token is apart from what is behind it. -/
theorem apart_of_firstToken {literal more : List Char}
    (h : (firstToken (literal ++ more)).2 = literal.length) : Apart literal more := by
  intro rule hrule
  rw [← h]
  exact reach_le_firstToken _ hrule

/-- A text that is a token of a kind on its own. -/
structure Lexeme (kind : Kind) (literal : List Char) : Prop where
  whole : firstToken literal = (kind, literal.length)
  start : ∃ c rest, literal = c :: rest ∧ isBlank c = false

theorem Lexeme.ne_nil {kind : Kind} {literal : List Char} (h : Lexeme kind literal) :
    literal ≠ [] := by
  obtain ⟨c, rest, rfl, -⟩ := h.start
  exact List.cons_ne_nil c rest

/-- A token is a lexeme. -/
theorem lexeme_of_firstToken {literal more : List Char} {kind : Kind} {c : Char}
    {rest : List Char} (hstart : literal = c :: rest) (hblank : isBlank c = false)
    (h : firstToken (literal ++ more) = (kind, literal.length)) : Lexeme kind literal := by
  refine ⟨?_, c, rest, hstart, hblank⟩
  rw [← firstToken_append (apart_of_firstToken (by rw [h])), h]

/-- The kind of a lexeme is that of a rule that describes it. -/
theorem Lexeme.exists_rule {kind : Kind} {literal : List Char} (h : Lexeme kind literal)
    (hkind : kind ≠ .unexpected) : ∃ rule ∈ lexicon, rule.1 = kind ∧ rule.2.Matches literal := by
  have hwhole := h.whole
  unfold firstToken at hwhole
  cases hfind : longestFind lexicon literal with
  | none =>
    rw [hfind] at hwhole
    exact absurd (congrArg Prod.fst hwhole).symm hkind
  | some find =>
    rw [hfind] at hwhole
    obtain rfl : find = (kind, literal.length) := hwhole
    obtain ⟨rule, hrule, hk, hreach⟩ := exists_of_longestFind hfind
    exact ⟨rule, hrule, hk, Shape.matches_of_reach_eq (longestFind_pos hfind) hreach⟩

/-- A lexeme of a kind that only one rule has is a word of that rule. -/
theorem Lexeme.matches_rule {kind : Kind} {s : Shape} {literal : List Char}
    (h : Lexeme kind literal) (hkind : kind ≠ .unexpected)
    (honly : (lexicon.filter fun rule => rule.1 = kind) = [(kind, s)]) : s.Matches literal := by
  obtain ⟨rule, hrule, hk, hmatches⟩ := h.exists_rule hkind
  have hmem : rule ∈ lexicon.filter fun rule => rule.1 = kind :=
    List.mem_filter.mpr ⟨hrule, by simp [hk]⟩
  rw [honly] at hmem
  obtain rfl := List.mem_singleton.mp hmem
  exact hmatches

/-- A text is a lexeme when one rule takes it whole and no earlier rule describes it. -/
theorem lexeme_of_rule {before after : List (Kind × Shape)} {kind : Kind} {s : Shape}
    {literal : List Char} (hlexicon : lexicon = before ++ (kind, s) :: after)
    (hcut : s.firstCut? literal = some ⟨literal.length, []⟩)
    (hbefore : ∀ other ∈ before, ¬ other.2.Matches literal)
    (hstart : ∃ c rest, literal = c :: rest ∧ isBlank c = false) : Lexeme kind literal := by
  have hreach : s.reach literal = literal.length := by
    unfold Shape.reach
    rw [hcut]
    rfl
  have hpos : 0 < literal.length := by
    obtain ⟨c, rest, rfl, -⟩ := hstart
    exact Nat.succ_pos _
  have hfind : longestFind lexicon literal = some (kind, s.reach literal) := by
    rw [hlexicon]
    refine longestFind_eq_some (by rwa [hreach]) ?_ ?_
    · intro other hother
      show _ < s.reach literal
      rw [hreach]
      refine Nat.lt_of_le_of_ne (other.2.reach_le_length literal) fun heq => ?_
      exact hbefore other hother (Shape.matches_of_reach_eq hpos heq)
    · intro other _
      show _ ≤ s.reach literal
      rw [hreach]
      exact other.2.reach_le_length literal
  refine ⟨?_, hstart⟩
  unfold firstToken
  rw [hfind, hreach]
  rfl

/-! ## Scans -/

theorem scanFrom_blanks {cs : List Char} (h : cs.dropWhile isBlank = []) (place : Position) :
    scanFrom place cs = [.atEnd (place.advance (cs.takeWhile isBlank))] := by
  rw [scanFrom]
  split
  · rfl
  · next hcs => rw [h] at hcs; cases hcs

theorem scanFrom_token {cs literal more : List Char} {kind : Kind}
    (h : cs.dropWhile isBlank = literal ++ more) (hne : literal ≠ [])
    (hfirst : firstToken (literal ++ more) = (kind, literal.length)) (place : Position) :
    scanFrom place cs =
      ⟨kind, String.ofList literal, place.advance (cs.takeWhile isBlank)⟩ ::
        scanFrom ((place.advance (cs.takeWhile isBlank)).advance literal) more := by
  rw [scanFrom]
  split
  · next hcs =>
    rw [h] at hcs
    exact absurd (List.append_eq_nil_iff.mp hcs).1 hne
  · next c rest hcs =>
    rw [h] at hcs
    simp only [← hcs, hfirst, List.take_left, List.drop_left]

/-- What stands in front of a text that is not blank is a token. -/
theorem exists_token {cs rest : List Char} {c : Char} (h : cs.dropWhile isBlank = c :: rest) :
    ∃ kind literal more, cs.dropWhile isBlank = literal ++ more ∧
      firstToken (literal ++ more) = (kind, literal.length) ∧ Lexeme kind literal := by
  -- a token is not empty, so it holds the first character
  obtain ⟨n, hn⟩ : ∃ n, (firstToken (c :: rest)).2 = n + 1 :=
    ⟨_, (Nat.succ_pred_eq_of_pos (firstToken_pos (c :: rest))).symm⟩
  have hle := firstToken_le_length (List.cons_ne_nil c rest)
  have hsplit : c :: rest.take n ++ rest.drop n = c :: rest := by
    rw [List.cons_append, List.take_append_drop]
  have hlen : (c :: rest.take n).length = n + 1 := by
    rw [hn, List.length_cons, Nat.add_le_add_iff_right] at hle
    rw [List.length_cons, List.length_take_of_le hle]
  have hfirst : firstToken (c :: rest.take n ++ rest.drop n) =
      ((firstToken (c :: rest)).1, (c :: rest.take n).length) := by
    rw [hsplit, hlen, ← hn]
  exact ⟨_, c :: rest.take n, rest.drop n, h.trans hsplit.symm, hfirst,
    lexeme_of_firstToken rfl (Text.head_dropWhile_isBlank cs c (by rw [h]; rfl)) hfirst⟩

/-- A property of texts holds when it holds of blanks and of a token in front of a text of which it
holds. -/
theorem scan_induction {motive : List Char → Prop}
    (blanks : ∀ cs, cs.dropWhile isBlank = [] → motive cs)
    (token : ∀ cs kind literal more, cs.dropWhile isBlank = literal ++ more →
      firstToken (literal ++ more) = (kind, literal.length) → Lexeme kind literal →
      motive more → motive cs) (cs : List Char) : motive cs := by
  induction hn : cs.length using Nat.strongRecOn generalizing cs with
  | ind n ih =>
    subst hn
    cases hcs : cs.dropWhile isBlank with
    | nil => exact blanks cs hcs
    | cons c rest =>
      obtain ⟨kind, literal, more, hfront, hfirst, hlexeme⟩ := exists_token hcs
      refine token cs kind literal more hfront hfirst hlexeme (ih _ ?_ more rfl)
      have hpos := List.length_pos_iff.mpr hlexeme.ne_nil
      have hle := (List.dropWhile_suffix isBlank (l := cs)).length_le
      rw [hfront, List.length_append] at hle
      omega

/-- The tokens of a scan but for the last are lexemes. -/
theorem lexeme_of_mem_scanFrom {cs : List Char} {place : Position} {t : Token}
    (h : t ∈ scanFrom place cs) (hkind : t.kind ≠ .endOfInput) :
    Lexeme t.kind t.literal.toList := by
  induction cs using scan_induction generalizing place with
  | blanks cs hcs =>
    rw [scanFrom_blanks hcs] at h
    obtain rfl := List.mem_singleton.mp h
    exact absurd rfl hkind
  | token cs kind literal more hcs hfirst hlexeme ih =>
    rw [scanFrom_token hcs hlexeme.ne_nil hfirst] at h
    rcases List.mem_cons.mp h with rfl | h
    · simpa using hlexeme
    · exact ih h

theorem lexeme_of_mem_scan {text : String} {t : Token} (h : t ∈ scan text)
    (hkind : t.kind ≠ .endOfInput) : Lexeme t.kind t.literal.toList :=
  lexeme_of_mem_scanFrom h hkind

theorem Lexeme.kind_ne_endOfInput {kind : Kind} {literal : List Char} (h : Lexeme kind literal) :
    kind ≠ .endOfInput := by
  rintro rfl
  obtain ⟨rule, hrule, hkind, -⟩ := h.exists_rule Kind.noConfusion
  have hkinds : ∀ rule ∈ lexicon, rule.1 ≠ .endOfInput := by simp [lexicon]
  exact hkinds rule hrule hkind

theorem exists_scanFrom (cs : List Char) (place : Position) :
    ∃ ts last, scanFrom place cs = ts ++ [.atEnd last] ∧ ∀ t ∈ ts, t.kind ≠ .endOfInput := by
  induction cs using scan_induction generalizing place with
  | blanks cs hcs => exact ⟨[], _, scanFrom_blanks hcs place, by simp⟩
  | token cs kind literal more hcs hfirst hlexeme ih =>
    obtain ⟨ts, last, hmore, hkinds⟩ :=
      ih ((place.advance (cs.takeWhile isBlank)).advance literal)
    rw [scanFrom_token hcs hlexeme.ne_nil hfirst, hmore]
    exact ⟨_ :: ts, last, rfl, List.forall_mem_cons.mpr ⟨hlexeme.kind_ne_endOfInput, hkinds⟩⟩

/-- The mark of the end of the input is the last token of a text, and only that. -/
theorem exists_scan (text : String) :
    ∃ ts last, scan text = ts ++ [.atEnd last] ∧ ∀ t ∈ ts, t.kind ≠ .endOfInput :=
  exists_scanFrom text.toList .start

/-! ## Spelling -/

/-- A token without its place. -/
def Token.spelling (t : Token) : Kind × String := (t.kind, t.literal)

/-- The tokens of a text without their places. -/
def spelled (cs : List Char) : List (Kind × String) :=
  (scanFrom .start cs).map Token.spelling

/-- The place where a text starts has no part in how its tokens are spelled. -/
theorem map_spelling_scanFrom (place : Position) (cs : List Char) :
    (scanFrom place cs).map Token.spelling = spelled cs := by
  unfold spelled
  generalize Position.start = place'
  induction cs using scan_induction generalizing place place' with
  | blanks cs hcs => rw [scanFrom_blanks hcs, scanFrom_blanks hcs]; rfl
  | token cs kind literal more hcs hfirst hlexeme ih =>
    rw [scanFrom_token hcs hlexeme.ne_nil hfirst, scanFrom_token hcs hlexeme.ne_nil hfirst,
      List.map_cons, List.map_cons, ih]
    rfl

theorem spelled_nil : spelled [] = [(.endOfInput, "")] := by
  unfold spelled
  rw [scanFrom_blanks rfl]
  rfl

theorem spelled_blank {c : Char} (hc : isBlank c = true) (cs : List Char) :
    spelled (c :: cs) = spelled cs := by
  have hdrop : (c :: cs).dropWhile isBlank = cs.dropWhile isBlank := by
    rw [List.dropWhile_cons_of_pos hc]
  unfold spelled
  cases hcs : cs.dropWhile isBlank with
  | nil =>
    rw [scanFrom_blanks (hdrop.trans hcs), scanFrom_blanks hcs]
    rfl
  | cons c rest =>
    obtain ⟨kind, literal, more, hfront, hfirst, hlexeme⟩ := exists_token hcs
    rw [scanFrom_token (hdrop.trans hfront) hlexeme.ne_nil hfirst,
      scanFrom_token hfront hlexeme.ne_nil hfirst, List.map_cons, List.map_cons,
      map_spelling_scanFrom, map_spelling_scanFrom]
    rfl

theorem spelled_blanks {blanks : List Char} (h : ∀ c ∈ blanks, isBlank c = true) (cs : List Char) :
    spelled (blanks ++ cs) = spelled cs := by
  induction blanks with
  | nil => rfl
  | cons c blanks ih =>
    obtain ⟨hc, hblanks⟩ := List.forall_mem_cons.mp h
    rw [List.cons_append, spelled_blank hc, ih hblanks]

theorem spelled_space (cs : List Char) : spelled (' ' :: cs) = spelled cs :=
  spelled_blank rfl cs

/-- A token in front of a text. -/
theorem spelled_token {kind : Kind} {c : Char} {literal more : List Char}
    (hblank : isBlank c = false)
    (hfirst : firstToken (c :: literal ++ more) = (kind, (c :: literal).length)) :
    spelled (c :: literal ++ more) = (kind, String.ofList (c :: literal)) :: spelled more := by
  have hdrop : (c :: literal ++ more).dropWhile isBlank = c :: literal ++ more := by
    rw [List.cons_append, List.dropWhile_cons_of_neg (by simp [hblank])]
  have htoken := scanFrom_token hdrop (List.cons_ne_nil c literal) hfirst .start
  rw [spelled, htoken, List.map_cons, map_spelling_scanFrom]
  rfl

/-- A lexeme in front of a text into which no rule reaches from it. -/
theorem Lexeme.spelled_append {kind : Kind} {literal more : List Char} (h : Lexeme kind literal)
    (hapart : Apart literal more) :
    spelled (literal ++ more) = (kind, String.ofList literal) :: spelled more := by
  have hfirst := (firstToken_append hapart).trans h.whole
  obtain ⟨c, rest, rfl, hblank⟩ := h.start
  exact spelled_token hblank hfirst

end ProfileQuery.Query
