import ProfileQuery.Proofs.Query.Acceptance
import ProfileQuery.Proofs.Query.Literal

/-!
# Tokens that are read alike

Tokens that are spelled alike are read alike, wherever they stand and whatever the moment: the
readers fail with the same error, but for the places in it and the text that it quotes
(`SyntaxError.unplaced`), or they read queries of the same shape with literals that are related as
those of the tokens are (`readBody_alike`).
-/

namespace ProfileQuery.Query

open Calendar (DateTime)

/-! ## Errors without places -/

/-- A token without its place. -/
def Token.unplaced (t : Token) : Token := { t with position := .start }

/-- An error without the places in it and without the text that it quotes. -/
def SyntaxError.unplaced : SyntaxError → SyntaxError
  | unexpectedToken expected found => unexpectedToken expected found.unplaced
  | invalidLiteral fault token => invalidLiteral fault token.unplaced
  | wildcardWithoutFrom _ => wildcardWithoutFrom ""
  | unsupportedQuery word => unsupportedQuery word

theorem Token.unplaced_eq {t t' : Token} (h : t.spelling = t'.spelling) :
    t.unplaced = t'.unplaced := by
  obtain ⟨hkind, hliteral⟩ := Prod.mk.inj h
  rw [unplaced, unplaced, hkind, hliteral]

/-- Two readers that fail alike, or both succeed, with related results. -/
inductive ReadAlike {α β : Type} (R : α → β → Prop) :
    Except SyntaxError α → Except SyntaxError β → Prop where
  | error {e e' : SyntaxError} (h : e.unplaced = e'.unplaced) : ReadAlike R (.error e) (.error e')
  | ok {a : α} {b : β} (h : R a b) : ReadAlike R (.ok a) (.ok b)

namespace ReadAlike

variable {α α' β β' : Type} {R : α → β → Prop} {S : α' → β' → Prop} {x : Except SyntaxError α}
  {y : Except SyntaxError β}

theorem bind {f : α → Except SyntaxError α'} {g : β → Except SyntaxError β'}
    (h : ReadAlike R x y) (hrest : ∀ a b, x = .ok a → R a b → ReadAlike S (f a) (g b)) :
    ReadAlike S (x >>= f) (y >>= g) := by
  cases h with
  | error he => exact .error he
  | ok hab => exact hrest _ _ rfl hab

theorem mono {R' : α → β → Prop} (h : ReadAlike R x y) (himp : ∀ a b, R a b → R' a b) :
    ReadAlike R' x y := by
  cases h with
  | error he => exact .error he
  | ok hab => exact .ok (himp _ _ hab)

end ReadAlike

/-! ## Queries with related literals -/

/-- Conditions of the same shape, with related literals. -/
inductive Condition.Alike (R : Value → Value → Prop) : Condition → Condition → Prop where
  | comparison {op column value value'} : R value value' →
      Alike R (.comparison op column value) (.comparison op column value')
  | junction {op children children'} : children.length = children'.length →
      (∀ c c', (c, c') ∈ children.zip children' → Alike R c c') →
      Alike R (.junction op children) (.junction op children')
  | negation {child child'} : Alike R child child' → Alike R (.negation child) (.negation child')

/-- Queries of the same columns and relations and of the same shape, with related literals. -/
structure Select.Alike (R : Value → Value → Prop) (q q' : Select) : Prop where
  projection : q.projection = q'.projection
  relations : q.relations = q'.relations
  condition : Option.Rel (Condition.Alike R) q.condition q'.condition

variable {R : Value → Value → Prop}

theorem Condition.Alike.combine {op : Connective} {cs cs' : List Condition}
    (h : List.Forall₂ (Alike R) cs cs') :
    Alike R (Condition.combine op cs) (Condition.combine op cs') := by
  have hjunction : Alike R (.junction op cs) (.junction op cs') := by
    obtain ⟨hlength, hzip⟩ := List.forall₂_iff_zip.mp h
    exact .junction hlength fun c c' hmem => hzip hmem
  cases h with
  | nil => exact hjunction
  | cons hfirst hothers =>
    cases hothers with
    | nil => exact hfirst
    | cons => exact hjunction

/-- Conditions of the same shape with equal literals are equal. -/
theorem Condition.Alike.eq {c c' : Condition} (h : Alike Eq c c') : c = c' := by
  induction h with
  | comparison h => rw [h]
  | @junction op children children' hlength _ ih =>
    have hall : List.Forall₂ Eq children children' :=
      List.forall₂_iff_zip.mpr ⟨hlength, fun hmem => ih _ _ hmem⟩
    rw [List.forall₂_eq_eq_eq] at hall
    rw [hall]
  | negation _ ih => rw [ih]

theorem Select.Alike.eq {q q' : Select} (h : Alike Eq q q') : q = q' := by
  obtain ⟨projection, relations, condition⟩ := q
  obtain ⟨projection', relations', condition'⟩ := q'
  obtain ⟨rfl, rfl, hcondition⟩ := h
  cases hcondition with
  | none => rfl
  | some hcondition => rw [hcondition.eq]

/-! ## Tokens -/

/-- Tokens that are spelled alike and have related values as literals. -/
structure Token.Alike (R : Value → Value → Prop) (now now' : DateTime) (t t' : Token) : Prop where
  spelling : t.spelling = t'.spelling
  value : ReadAlike R (literalValue now t) (literalValue now' t')

/-- Tokens that are alike, one by one. -/
abbrev TokensAlike (R : Value → Value → Prop) (now now' : DateTime) :
    List Token → List Token → Prop :=
  List.Forall₂ (Token.Alike R now now')

variable {now now' : DateTime} {t t' : Token} {ts ts' : List Token}

theorem Token.Alike.kind (h : t.Alike R now now' t') : t'.kind = t.kind :=
  (congrArg Prod.fst h.spelling).symm

theorem Token.Alike.literal (h : t.Alike R now now' t') : t'.literal = t.literal :=
  (congrArg Prod.snd h.spelling).symm

theorem TokensAlike.current (h : TokensAlike R now now' ts ts') :
    (current ts).spelling = (current ts').spelling := by
  cases h with
  | nil => rfl
  | cons hfirst _ => exact hfirst.spelling

/-- Only clock words have another value at another moment. -/
theorem literalValue_eq_of_lexeme (hclock : t.kind ≠ .clockWord)
    (hlexeme : t.kind ≠ .endOfInput → Lexeme t.kind t.literal.toList) (now now' : DateTime) :
    literalValue now t = literalValue now' t := by
  have hdate (hkind : t.kind = .yearFirstDate ∨ t.kind = .dayFirstDate) :
      Value.ofCell now .date t.literal = Value.ofCell now' .date t.literal := by
    refine ofCell_eq_of_date (hlexeme ?_) hkind now now'
    rcases hkind with hkind | hkind <;> rw [hkind] <;> exact Kind.noConfusion
  unfold literalValue
  cases hkind : t.kind with
  | clockWord => exact absurd hkind hclock
  | yearFirstDate => simp only [hdate (.inl hkind)]
  | dayFirstDate => simp only [hdate (.inr hkind)]
  | _ => rfl

/-- The place of a literal has no part in its value. -/
theorem literalValue_spelling (h : t.spelling = t'.spelling) (now : DateTime) :
    ReadAlike Eq (literalValue now t) (literalValue now t') := by
  have hunplaced := Token.unplaced_eq h
  have hfault (fault : LiteralFault) :
      (SyntaxError.invalidLiteral fault t).unplaced = (.invalidLiteral fault t' : SyntaxError).unplaced :=
    congrArg (SyntaxError.invalidLiteral fault) hunplaced
  obtain ⟨hkind, hliteral⟩ := Prod.mk.inj h
  unfold literalValue
  rw [← hkind, ← hliteral]
  split
  · split
    · exact .ok rfl
    · exact .error (hfault _)
  · exact .ok rfl
  · exact .ok rfl
  -- the three kinds of dates
  iterate 3
    · split
      · exact .ok rfl
      · exact .error (hfault _)
  · exact .error (hfault _)

/-- A token and what is left behind it. -/
theorem choose_alike (kinds : List Kind) (h : TokensAlike R now now' ts ts') :
    ReadAlike (fun r r' => r.1.Alike R now now' r'.1 ∧ TokensAlike R now now' r.2.1 r'.2.1)
      (choose kinds ts) (choose kinds ts') := by
  have hfail : ReadAlike (fun r r' => r.1.Alike R now now' r'.1 ∧ TokensAlike R now now' r.2.1 r'.2.1)
      (.error (.unexpectedToken kinds (current ts)) : Except SyntaxError (Token × Fewer ts))
      (.error (.unexpectedToken kinds (current ts')) : Except SyntaxError (Token × Fewer ts')) :=
    .error (congrArg (SyntaxError.unexpectedToken kinds) (Token.unplaced_eq h.current))
  cases h with
  | nil => exact hfail
  | @cons t t' ts ts' hfirst hrest =>
    by_cases hkind : t.kind ∈ kinds
    · rw [choose_cons hkind, choose_cons (hfirst.kind ▸ hkind)]
      exact .ok ⟨hfirst, hrest⟩
    · rw [choose, choose, if_neg hkind, if_neg (hfirst.kind ▸ hkind)]
      exact hfail

/-! ## Conditions -/

/-- What is read of tokens that are alike: conditions of the same shape, and tokens that are alike.
-/
def PhraseAlike (R : Value → Value → Prop) (now now' : DateTime)
    (r r' : List Condition × List Token) : Prop :=
  List.Forall₂ (Condition.Alike R) r.1 r'.1 ∧ TokensAlike R now now' r.2 r'.2

/-- A literal that an operator takes. -/
theorem readLiteral_alike (op : Operator) (column : String) (h : TokensAlike R now now' ts ts') :
    ReadAlike (PhraseAlike R now now')
      (do
        let (literal, ⟨rest, _⟩) ← choose (literalKinds op) ts
        let value ← literalValue now literal
        return ([.comparison op column value], rest))
      (do
        let (literal, ⟨rest, _⟩) ← choose (literalKinds op) ts'
        let value ← literalValue now' literal
        return ([.comparison op column value], rest)) := by
  refine (choose_alike _ h).bind ?_
  rintro ⟨literal, rest, hrest⟩ ⟨literal', rest', hrest'⟩ - ⟨hliteral, htokens⟩
  refine hliteral.value.bind fun value value' _ hvalue => ?_
  exact .ok ⟨.cons (.comparison hvalue) .nil, htokens⟩

/-- An operator and a literal behind a column. -/
theorem readComparison_alike (column : String) (h : TokensAlike R now now' ts ts') :
    ReadAlike (PhraseAlike R now now')
      ((readComparison now column ts).map fun r => ([r.1], r.2.1))
      ((readComparison now' column ts').map fun r => ([r.1], r.2.1)) := by
  rw [readComparison_eq, readComparison_eq]
  refine (choose_alike _ h).bind ?_
  rintro ⟨operator, rest, hrest⟩ ⟨operator', rest', hrest'⟩ - ⟨hoperator, htokens⟩
  have hliteral : operator'.literal = operator.literal := hoperator.literal
  simp only [hliteral]
  cases Operator.ofSymbol? operator.literal with
  | none =>
    have hunplaced : operator.unplaced = operator'.unplaced := Token.unplaced_eq hoperator.spelling
    exact .error (congrArg (SyntaxError.invalidLiteral .unknownOperator) hunplaced)
  | some op => exact readLiteral_alike op column htokens

section Conditions

/-- Whether phrases of fewer than `n` tokens are read alike. -/
def AlikeBelow (R : Value → Value → Prop) (now now' : DateTime) (n : Nat) : Prop :=
  ∀ ts ts', ts.length < n → TokensAlike R now now' ts ts' → ∀ p,
    ReadAlike (PhraseAlike R now now') (readPhrase now ts p) (readPhrase now' ts' p)

/-- An item and further items. -/
theorem readItems_alike {op : Connective} {f : List Condition → List Condition → List Condition}
    (below : ∀ us us', us.length < ts.length → TokensAlike R now now' us us' →
      ReadAlike (PhraseAlike R now now') (readPhrase now us (.more op))
        (readPhrase now' us' (.more op)))
    (hitem : ReadAlike (PhraseAlike R now now') (readPhrase now ts op.item)
      (readPhrase now' ts' op.item))
    (hf : ∀ cs cs' ds ds', List.Forall₂ (Condition.Alike R) cs cs' →
      List.Forall₂ (Condition.Alike R) ds ds' →
      List.Forall₂ (Condition.Alike R) (f cs ds) (f cs' ds')) :
    ReadAlike (PhraseAlike R now now')
      (do
        let (first, us) ← readPhrase now ts op.item
        let (others, vs) ← readPhrase now us (.more op)
        return (f first others, vs))
      (do
        let (first, us) ← readPhrase now' ts' op.item
        let (others, vs) ← readPhrase now' us (.more op)
        return (f first others, vs)) := by
  refine hitem.bind ?_
  rintro ⟨first, us⟩ ⟨first', us'⟩ hread ⟨hfirst, hus⟩
  obtain ⟨-, hlt⟩ := readPhrase_single (item_ne_more op) hread
  refine (below us us' hlt hus).bind ?_
  rintro ⟨others, vs⟩ ⟨others', vs'⟩ - ⟨hothers, hvs⟩
  exact .ok ⟨hf _ _ _ _ hfirst hothers, hvs⟩

theorem readChain_alike {op : Connective} (below : AlikeBelow R now now' ts.length)
    (hitem : ReadAlike (PhraseAlike R now now') (readPhrase now ts op.item)
      (readPhrase now' ts' op.item)) :
    ReadAlike (PhraseAlike R now now') (readPhrase now ts (.chain op))
      (readPhrase now' ts' (.chain op)) := by
  rw [readPhrase_chain, readPhrase_chain]
  refine readItems_alike (f := fun first others => [.combine op (first ++ others)])
    (fun us us' hlt hus => below us us' hlt hus _) hitem ?_
  intro cs cs' ds ds' hcs hds
  exact .cons (.combine (List.rel_append hcs hds)) .nil

theorem readMore_alike {op : Connective} (below : AlikeBelow R now now' ts.length)
    (h : TokensAlike R now now' ts ts') :
    ReadAlike (PhraseAlike R now now') (readPhrase now ts (.more op))
      (readPhrase now' ts' (.more op)) := by
  cases h with
  | nil =>
    rw [readPhrase_done now (by simp), readPhrase_done now' (by simp)]
    exact .ok ⟨.nil, .nil⟩
  | @cons t t' ts ts' hfirst hrest =>
    by_cases hkind : t.kind = op.kind
    · have hts : ts.length < (t :: ts).length := Nat.lt_succ_self _
      rw [readPhrase_more now ts hkind, readPhrase_more now' ts' (hfirst.kind.trans hkind)]
      refine readItems_alike (fun us us' hlt hus => below us us' (Nat.lt_trans hlt hts) hus _)
        (below ts ts' hts hrest _) ?_
      exact fun _ _ _ _ hcs hds => List.rel_append hcs hds
    · have hkind' : t'.kind ≠ op.kind := fun heq => hkind (hfirst.kind.symm.trans heq)
      rw [readPhrase_done now (by simpa using hkind), readPhrase_done now' (by simpa using hkind')]
      exact .ok ⟨.nil, .cons hfirst hrest⟩

theorem readUnary_alike (below : AlikeBelow R now now' ts.length)
    (h : TokensAlike R now now' ts ts') :
    ReadAlike (PhraseAlike R now now') (readPhrase now ts .unary) (readPhrase now' ts' .unary) := by
  by_cases hstart : (current ts).kind ∈ [.negation, .leftParen, .qualifiedName, .name]
  · cases h with
    | nil => simp [current, Token.atEnd] at hstart
    | @cons t t' ts ts' hfirst hrest =>
      have hts : ts.length < (t :: ts).length := Nat.lt_succ_self _
      have hbody := below ts ts' hts hrest (.chain .or)
      have hkind : t.kind = .negation ∨ t.kind = .leftParen ∨
          t.kind = .qualifiedName ∨ t.kind = .name := by simpa [current] using hstart
      rcases hkind with hnegation | hparen | hcolumn
      · rw [readPhrase_negation now ts hnegation,
          readPhrase_negation now' ts' (hfirst.kind.trans hnegation)]
        refine hbody.bind ?_
        rintro ⟨child, us⟩ ⟨child', us'⟩ - ⟨hchild, hus⟩
        exact .ok ⟨List.rel_map (fun _ _ => .negation) hchild, hus⟩
      · rw [readPhrase_parens now ts hparen, readPhrase_parens now' ts' (hfirst.kind.trans hparen)]
        refine hbody.bind ?_
        rintro ⟨child, us⟩ ⟨child', us'⟩ - ⟨hchild, hus⟩
        refine (choose_alike [.rightParen] hus).bind ?_
        rintro ⟨_, vs, _⟩ ⟨_, vs', _⟩ - ⟨-, hvs⟩
        exact .ok ⟨hchild, hvs⟩
      · rw [readPhrase_comparison now ts hcolumn,
          readPhrase_comparison now' ts' (hfirst.kind ▸ hcolumn), hfirst.literal]
        exact readComparison_alike t.literal hrest
  · have hstart' : (current ts').kind ∉ [.negation, .leftParen, .qualifiedName, .name] := by
      rwa [← show (current ts).kind = (current ts').kind from congrArg Prod.fst h.current]
    rw [readPhrase_start now hstart, readPhrase_start now' hstart']
    exact .error (congrArg (SyntaxError.unexpectedToken _) (Token.unplaced_eq h.current))

/-- Tokens that are alike are read as conditions that are. -/
theorem readPhrase_alike (h : TokensAlike R now now' ts ts') (p : Phrase) :
    ReadAlike (PhraseAlike R now now') (readPhrase now ts p) (readPhrase now' ts' p) := by
  -- on the number of tokens, and for as many tokens from the unary conditions up
  induction hn : ts.length using Nat.strongRecOn generalizing ts ts' p with
  | ind n ih =>
    subst hn
    have below : AlikeBelow R now now' ts.length := fun us us' hlt hus p => ih _ hlt hus p rfl
    cases p with
    | unary => exact readUnary_alike below h
    | more op => exact readMore_alike below h
    | chain op =>
      have hand : ReadAlike (PhraseAlike R now now') (readPhrase now ts (.chain .and))
          (readPhrase now' ts' (.chain .and)) := readChain_alike below (readUnary_alike below h)
      cases op with
      | and => exact hand
      | or => exact readChain_alike below hand

end Conditions

/-! ## Clauses -/

theorem TokensAlike.literals (h : TokensAlike R now now' ts ts') :
    ts.map (·.literal) = ts'.map (·.literal) := by
  induction h with
  | nil => rfl
  | cons hfirst _ ih => rw [List.map_cons, List.map_cons, ih, hfirst.literal]

/-- A longest run of tokens of some kinds, and what is left behind it. -/
theorem TokensAlike.run (p : Kind → Bool) (h : TokensAlike R now now' ts ts') :
    TokensAlike R now now' (ts.takeWhile (p ·.kind)) (ts'.takeWhile (p ·.kind)) ∧
      TokensAlike R now now' (ts.drop (ts.takeWhile (p ·.kind)).length)
        (ts'.drop (ts'.takeWhile (p ·.kind)).length) := by
  induction h with
  | nil => exact ⟨.nil, .nil⟩
  | @cons t t' ts ts' hfirst hrest ih =>
    simp only [List.takeWhile_cons, hfirst.kind]
    cases p t.kind with
    | true => exact ⟨.cons hfirst ih.1, ih.2⟩
    | false => exact ⟨.nil, .cons hfirst hrest⟩

/-- What is read of tokens that are alike, and the tokens that are left. -/
def ClauseAlike {α : Type} (S : α → α → Prop) (R : Value → Value → Prop) (now now' : DateTime)
    (r r' : α × List Token) : Prop :=
  S r.1 r'.1 ∧ TokensAlike R now now' r.2 r'.2

theorem readProjection_alike (h : TokensAlike R now now' ts ts') :
    ReadAlike (ClauseAlike Eq R now now') (readProjection ts) (readProjection ts') := by
  refine (choose_alike _ h).bind ?_
  rintro ⟨first, rest, hrest⟩ ⟨first', rest', hrest'⟩ - ⟨hfirst, htokens⟩
  have hkind : first'.kind = first.kind := hfirst.kind
  by_cases hstar : first.kind = .star
  · simp only [hkind, if_pos hstar]
    exact .ok ⟨rfl, htokens⟩
  · simp only [hkind, if_neg hstar]
    have hrun := TokensAlike.run (fun kind => decide (kind ∈ columnKinds)) htokens
    exact .ok ⟨congrArg Projection.columns (TokensAlike.literals (.cons hfirst hrun.1)), hrun.2⟩

theorem readRelations_alike (h : TokensAlike R now now' ts ts') :
    ReadAlike (ClauseAlike Eq R now now') (readRelations ts) (readRelations ts') := by
  have hkind : (current ts').kind = (current ts).kind := (congrArg Prod.fst h.current).symm
  unfold readRelations
  rw [hkind]
  split
  · have htail : TokensAlike R now now' ts.tail ts'.tail := by
      cases h with
      | nil => exact .nil
      | cons _ hrest => exact hrest
    refine (choose_alike _ htail).bind ?_
    rintro ⟨first, rest, hrest⟩ ⟨first', rest', hrest'⟩ - ⟨hfirst, htokens⟩
    have hrun := TokensAlike.run (fun kind => decide (kind = .name)) htokens
    exact .ok ⟨TokensAlike.literals (.cons hfirst hrun.1), hrun.2⟩
  · exact .ok ⟨rfl, h⟩

/-- The reader of the conditions as a sequence of readers. -/
theorem readWhere_eq (now : DateTime) {t : Token} (ts : List Token) (h : t.kind = .whereWord) :
    readWhere now (t :: ts) = (do
      let (first, us) ← readPhrase now ts (.chain .or)
      let (others, vs) ← readWhere now us
      return (first ++ others, vs)) := by
  rw [readWhere, if_pos h, readPhrase]
  cases readDisjunction now ts with
  | error e => rfl
  | ok found =>
    obtain ⟨c, us, hus⟩ := found
    simp only [Except.map, bind, Except.bind]
    cases readWhere now us <;> rfl

theorem readWhere_alike (h : TokensAlike R now now' ts ts') :
    ReadAlike (ClauseAlike (List.Forall₂ (Condition.Alike R)) R now now') (readWhere now ts)
      (readWhere now' ts') := by
  induction hn : ts.length using Nat.strongRecOn generalizing ts ts' with
  | ind n ih =>
    subst hn
    cases h with
    | nil =>
      rw [readWhere_done now (by simp), readWhere_done now' (by simp)]
      exact .ok ⟨.nil, .nil⟩
    | @cons t t' ts ts' hfirst hrest =>
      by_cases hkind : t.kind = .whereWord
      · rw [readWhere_eq now ts hkind, readWhere_eq now' ts' (hfirst.kind.trans hkind)]
        refine (readPhrase_alike hrest (.chain .or)).bind ?_
        rintro ⟨first, us⟩ ⟨first', us'⟩ hread ⟨hcondition, hus⟩
        obtain ⟨-, hlt⟩ := readPhrase_single (fun _ => Phrase.noConfusion) hread
        refine (ih us.length (Nat.lt_trans hlt (Nat.lt_succ_self _)) hus rfl).bind ?_
        rintro ⟨others, vs⟩ ⟨others', vs'⟩ - ⟨hothers, hvs⟩
        exact .ok ⟨List.rel_append hcondition hothers, hvs⟩
      · have hkind' : t'.kind ≠ .whereWord := fun heq => hkind (hfirst.kind.symm.trans heq)
        rw [readWhere_done now (by simpa using hkind), readWhere_done now' (by simpa using hkind')]
        exact .ok ⟨.nil, .cons hfirst hrest⟩

/-! ## Bodies -/

theorem whereCondition_alike {cs cs' : List Condition} (h : List.Forall₂ (Condition.Alike R) cs cs') :
    Option.Rel (Condition.Alike R) (whereCondition cs) (whereCondition cs') := by
  cases h with
  | nil => exact .none
  | cons hfirst hothers => exact .some (.combine (.cons hfirst hothers))

/-- Tokens that are alike are read as bodies that are, whatever text is quoted. -/
theorem readBody_alike (text text' : String) (h : TokensAlike R now now' ts ts') :
    ReadAlike (Select.Alike R) (readBody now text ts) (readBody now' text' ts') := by
  refine (readProjection_alike h).bind ?_
  rintro ⟨projection, us⟩ ⟨projection', us'⟩ - ⟨hprojection, hus⟩
  obtain rfl : projection = projection' := hprojection
  refine (readRelations_alike hus).bind ?_
  rintro ⟨relations, vs⟩ ⟨relations', vs'⟩ - ⟨hrelations, hvs⟩
  obtain rfl : relations = relations' := hrelations
  refine (readWhere_alike hvs).bind ?_
  rintro ⟨conditions, ws⟩ ⟨conditions', ws'⟩ - ⟨hconditions, hws⟩
  refine (choose_alike _ hws).bind fun _ _ _ _ => ?_
  by_cases hnamed : projection = .wildcard ∧ relations = []
  · simp only [if_pos hnamed]
    exact .error rfl
  · simp only [if_neg hnamed]
    exact .ok ⟨rfl, rfl, whereCondition_alike hconditions⟩

end ProfileQuery.Query
