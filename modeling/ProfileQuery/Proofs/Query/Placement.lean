import ProfileQuery.Proofs.Query.Scan

/-!
# Where the tokens of a text stand

A scan leaves nothing out: the text is that of its tokens, one after another, with blanks between
them only, and each token names the place where it starts (`LaidOut`). The lexer hands out the same
tokens one at a time (`scanFrom_eq_tokens`).
-/

namespace ProfileQuery.Query

open Text (isBlank)

/-! ## Places -/

/-- The place behind a text: its line is told by the newlines of the text, and its column by the
characters behind the last of them. -/
def Position.behind (front : List Char) : Position where
  line := 1 + front.count '\n'
  column := 1 + (front.reverse.takeWhile (· ≠ '\n')).length

theorem Position.behind_concat (front : List Char) (c : Char) :
    behind (front ++ [c]) = (behind front).after c := by
  unfold behind after
  by_cases hc : c = '\n'
  · simp [hc, Nat.add_assoc]
  · simp [hc, Nat.add_assoc, Nat.add_comm 1]

theorem Position.advance_behind (front cs : List Char) :
    (behind front).advance cs = behind (front ++ cs) := by
  induction cs generalizing front with
  | nil => rw [List.append_nil]; rfl
  | cons c cs ih =>
    rw [List.append_cons, ← ih, behind_concat]
    rfl

/-! ## The layout of a text -/

/-- Behind some text in front, a text consists of the given tokens and of blanks around them, and
every token names the place where it starts; so does the mark of the end. -/
inductive LaidOut : List Char → List Token → List Char → Prop
  | atEnd {front blanks : List Char} (hblanks : ∀ c ∈ blanks, isBlank c = true) :
      LaidOut front [.atEnd (.behind (front ++ blanks))] blanks
  | token {front blanks rest : List Char} {t : Token} {ts : List Token}
      (hblanks : ∀ c ∈ blanks, isBlank c = true)
      (hposition : t.position = .behind (front ++ blanks))
      (hrest : LaidOut (front ++ blanks ++ t.literal.toList) ts rest) :
      LaidOut front (t :: ts) (blanks ++ t.literal.toList ++ rest)

theorem isBlank_of_mem_takeWhile {cs : List Char} : ∀ c ∈ cs.takeWhile isBlank, isBlank c = true :=
  List.all_eq_true.mp List.all_takeWhile

/-- The tokens of a text behind some text in front. -/
theorem laidOut_scanFrom (front cs : List Char) :
    LaidOut front (scanFrom (.behind front) cs) cs := by
  induction cs using scan_induction generalizing front with
  | blanks cs hcs =>
    have htake : cs.takeWhile isBlank = cs := by
      rw [← List.append_nil (cs.takeWhile isBlank), ← hcs, List.takeWhile_append_dropWhile]
    rw [scanFrom_blanks hcs, Position.advance_behind, htake]
    exact .atEnd (htake ▸ isBlank_of_mem_takeWhile)
  | token cs kind literal more hcs hfirst hlexeme ih =>
    rw [scanFrom_token hcs hlexeme.ne_nil hfirst, Position.advance_behind,
      Position.advance_behind]
    have hsplit : cs = cs.takeWhile isBlank ++ (String.ofList literal).toList ++ more := by
      rw [String.toList_ofList, List.append_assoc, ← hcs, List.takeWhile_append_dropWhile]
    let t : Token := ⟨kind, String.ofList literal, .behind (front ++ cs.takeWhile isBlank)⟩
    have hmore := ih (front ++ cs.takeWhile isBlank ++ t.literal.toList)
    have hlaid := LaidOut.token isBlank_of_mem_takeWhile rfl hmore
    rwa [← hsplit, String.toList_ofList] at hlaid

/-! ## One token at a time -/

theorem Lexer.next?_blanks {cs : List Char} (h : cs.dropWhile isBlank = []) (place : Position) :
    Lexer.next? ⟨cs, place⟩ = none := by
  simp [next?, nextToken, h, Token.atEnd]

theorem Lexer.next?_token {cs literal more : List Char} {kind : Kind}
    (h : cs.dropWhile isBlank = literal ++ more) (hlexeme : Lexeme kind literal)
    (hfirst : firstToken (literal ++ more) = (kind, literal.length)) (place : Position) :
    let here := place.advance (cs.takeWhile isBlank)
    Lexer.next? ⟨cs, place⟩ =
      some (⟨kind, String.ofList literal, here⟩, ⟨more, here.advance literal⟩) := by
  obtain ⟨c, rest, rfl, -⟩ := hlexeme.start
  have hnext : Lexer.nextToken ⟨cs, place⟩ =
      (⟨kind, String.ofList (c :: rest), place.advance (cs.takeWhile isBlank)⟩,
        ⟨more, (place.advance (cs.takeWhile isBlank)).advance (c :: rest)⟩) := by
    have htake : (c :: (rest ++ more)).take (c :: rest).length = c :: rest := List.take_left
    have hdrop : (c :: (rest ++ more)).drop (c :: rest).length = more := List.drop_left
    rw [List.cons_append] at h hfirst
    simp only [nextToken, h, hfirst, htake, hdrop]
  rw [next?, hnext, if_neg hlexeme.kind_ne_endOfInput]

theorem Lexer.tokens_of_none {l : Lexer} (h : l.next? = none) : l.tokens = [] := by
  rw [tokens]
  split
  · rfl
  · next h' => cases h.symm.trans h'

theorem Lexer.tokens_of_some {l l' : Lexer} {t : Token} (h : l.next? = some (t, l')) :
    l.tokens = t :: l'.tokens := by
  rw [tokens]
  split
  · next h' => cases h.symm.trans h'
  · next h' =>
    obtain ⟨rfl, rfl⟩ := Prod.mk.inj (Option.some.inj (h.symm.trans h'))
    rfl

/-- A scan yields what the lexer hands out, and the mark of the end behind it. -/
theorem scanFrom_eq_tokens (place : Position) (cs : List Char) :
    ∃ last, scanFrom place cs = Lexer.tokens ⟨cs, place⟩ ++ [.atEnd last] := by
  induction cs using scan_induction generalizing place with
  | blanks cs hcs =>
    refine ⟨place.advance (cs.takeWhile isBlank), ?_⟩
    rw [scanFrom_blanks hcs, Lexer.tokens_of_none (Lexer.next?_blanks hcs place)]
    rfl
  | token cs kind literal more hcs hfirst hlexeme ih =>
    obtain ⟨last, hmore⟩ := ih ((place.advance (cs.takeWhile isBlank)).advance literal)
    refine ⟨last, ?_⟩
    rw [scanFrom_token hcs hlexeme.ne_nil hfirst, hmore,
      Lexer.tokens_of_some (Lexer.next?_token hcs hlexeme hfirst place)]
    rfl

/-- The tokens of a text are those that the lexer hands out, none of them empty, and the mark of the
end, and the text is laid out as these. -/
theorem laidOut_scan (text : String) :
    ∃ ts last, scan text = ts ++ [.atEnd last] ∧
      (∀ t ∈ ts, t.kind ≠ .endOfInput ∧ t.literal ≠ "") ∧
      LaidOut [] (scan text) text.toList ∧ (Lexer.ofText text).tokens = ts := by
  obtain ⟨last, hscan⟩ := scanFrom_eq_tokens .start text.toList
  obtain ⟨ts, last', hscan', hkinds⟩ := exists_scanFrom text.toList .start
  have hts : Lexer.tokens ⟨text.toList, .start⟩ = ts :=
    (List.append_inj_left' (hscan.symm.trans hscan') rfl)
  refine ⟨ts, last, hts ▸ hscan, fun t ht => ⟨hkinds t ht, ?_⟩, ?_, hts⟩
  · have hmem : t ∈ scan text := by
      unfold scan
      rw [hscan']
      exact List.mem_append_left _ ht
    have hne := (lexeme_of_mem_scan hmem (hkinds t ht)).ne_nil
    rintro hempty
    exact hne (by rw [hempty]; rfl)
  · exact laidOut_scanFrom [] text.toList

end ProfileQuery.Query
