import ProfileQuery.Query.Lexicon

/-!
# Scanning

A text is cut into tokens from left to right. Between the tokens stand blanks only, and each token
is the longest that any rule of the lexicon takes. The last token marks the end of the input.
-/

namespace ProfileQuery.Query

open Text (isBlank)

/-- What a rule finds at the front of a text: its kind and the number of characters it takes. -/
abbrev Find := Kind × Nat

/-- The longer of two finds, the first of two that are equally long. Empty finds do not count. -/
def longerFind (cs : List Char) (best : Option Find) (rule : Kind × Shape) : Option Find :=
  match rule.2.firstCut? cs with
  | none => best
  | some cut =>
    if (best.map (·.2)).getD 0 < cut.taken then some (rule.1, cut.taken) else best

/-- The longest find of some rules, the first of those that are equally long. -/
def longestFind (rules : List (Kind × Shape)) (cs : List Char) : Option Find :=
  rules.foldl (longerFind cs) none

/-- No find is empty. -/
theorem longestFind_pos {rules : List (Kind × Shape)} {cs : List Char} {find : Find}
    (h : longestFind rules cs = some find) : 0 < find.2 := by
  suffices keeps : ∀ (rules : List (Kind × Shape)) (best : Option Find),
      (∀ f, best = some f → 0 < f.2) →
      ∀ f, rules.foldl (longerFind cs) best = some f → 0 < f.2 from
    keeps rules none (by simp) find h
  intro rules
  induction rules with
  | nil => intro best hbest f hf; exact hbest f hf
  | cons rule rules ih =>
    intro best hbest f hf
    refine ih (longerFind cs best rule) ?_ f hf
    intro g hg
    unfold longerFind at hg
    split at hg
    · exact hbest g hg
    · split at hg
      · next hlt =>
        obtain rfl := Option.some.inj hg
        exact Nat.lt_of_le_of_lt (Nat.zero_le _) hlt
      · exact hbest g hg

/-- The kind of the token at the front of a text and the number of its characters. Text that no rule
takes, such as a blank, is left as single unexpected characters. -/
def firstToken (cs : List Char) : Find :=
  (longestFind lexicon cs).getD (.unexpected, 1)

theorem firstToken_pos (cs : List Char) : 0 < (firstToken cs).2 := by
  unfold firstToken
  cases h : longestFind lexicon cs with
  | none => exact Nat.one_pos
  | some find => exact longestFind_pos h

/-- The tokens of a text that starts at the given place. -/
def scanFrom (place : Position) (cs : List Char) : List Token :=
  let here := place.advance (cs.takeWhile isBlank)
  match _h : cs.dropWhile isBlank with
  | [] => [.atEnd here]
  | c :: rest =>
    let find := firstToken (c :: rest)
    let literal := (c :: rest).take find.2
    ⟨find.1, String.ofList literal, here⟩ ::
      scanFrom (here.advance literal) ((c :: rest).drop find.2)
termination_by cs.length
decreasing_by
  have hpos := firstToken_pos (c :: rest)
  have hle := (List.dropWhile_suffix isBlank (l := cs)).length_le
  rw [_h] at hle
  simp only [List.length_drop, List.length_cons] at hle ⊢
  omega

/-- The tokens of a text, with the mark of the end of the input as the last one. -/
def scan (text : String) : List Token :=
  scanFrom .start text.toList

/-! ## One token at a time -/

/-- A lexer hands out the tokens of a text one after another: the text that is left, and the place
where it starts. -/
structure Lexer where
  rest : List Char
  place : Position

namespace Lexer

/-- The lexer in front of a text. -/
def ofText (text : String) : Lexer := ⟨text.toList, .start⟩

/-- The next token, behind the blanks in front of it, and the lexer behind the token. At the end of
the input the mark of it comes again and again. -/
def nextToken (l : Lexer) : Token × Lexer :=
  let here := l.place.advance (l.rest.takeWhile isBlank)
  match l.rest.dropWhile isBlank with
  | [] => (.atEnd here, ⟨[], here⟩)
  | c :: rest =>
    let find := firstToken (c :: rest)
    let literal := (c :: rest).take find.2
    (⟨find.1, String.ofList literal, here⟩, ⟨(c :: rest).drop find.2, here.advance literal⟩)

/-- The next token and the lexer behind it; none at the end of the input. -/
def next? (l : Lexer) : Option (Token × Lexer) :=
  if l.nextToken.1.kind = .endOfInput then none else some l.nextToken

/-- Behind a token there is less text. -/
theorem next?_lt {l l' : Lexer} {t : Token} (h : l.next? = some (t, l')) :
    l'.rest.length < l.rest.length := by
  unfold next? nextToken at h
  cases hrest : l.rest.dropWhile isBlank with
  | nil => simp [hrest, Token.atEnd] at h
  | cons c rest =>
    simp only [hrest] at h
    split at h
    · cases h
    · obtain ⟨-, rfl⟩ := Prod.mk.inj (Option.some.inj h)
      have hpos := firstToken_pos (c :: rest)
      have hle := (List.dropWhile_suffix isBlank (l := l.rest)).length_le
      rw [hrest] at hle
      simp only [List.length_drop, List.length_cons] at hle ⊢
      omega

/-- The tokens that a lexer hands out up to the end of the input. -/
def tokens (l : Lexer) : List Token :=
  match _h : l.next? with
  | none => []
  | some (t, l') => t :: tokens l'
termination_by l.rest.length
decreasing_by exact next?_lt _h

end Lexer

end ProfileQuery.Query
