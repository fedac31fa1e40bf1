import ProfileQuery.Proofs.Outcome
import ProfileQuery.Query.ConditionReader

/-!
# The grammar of conditions

`Reads` is the grammar of conditions as a relation between tokens, the conditions that they mean,
and the tokens that are left; a chain goes on as long as its connective follows. The readers return
what it relates, and nothing else (`reads_iff`).
-/

namespace ProfileQuery.Query

open Calendar (DateTime)
open Outcome (bind_eq_ok bind_ok map_eq_ok)

/-- What can be read of a condition. -/
inductive Phrase where
  /-- Items with a connective between them, as one condition. -/
  | chain (op : Connective)
  /-- Further items of a chain, each after the connective. -/
  | more (op : Connective)
  /-- A negation, a condition in parentheses, or a comparison. -/
  | unary
deriving DecidableEq

/-- The kind of the token for a connective. -/
def Connective.kind : Connective → Kind
  | and => .conjunction
  | or => .disjunction

/-- The items of a chain: `and` binds tighter than `or`. -/
def Connective.item : Connective → Phrase
  | and => .unary
  | or => .chain .and

/-- The conditions that are read, and the tokens that are left. -/
inductive Reads (now : DateTime) : Phrase → List Token → List Condition → List Token → Prop
  | chain {op ts c us cs vs} : Reads now op.item ts [c] us → Reads now (.more op) us cs vs →
      Reads now (.chain op) ts [.combine op (c :: cs)] vs
  | more {op t ts c us cs vs} : t.kind = op.kind → Reads now op.item ts [c] us →
      Reads now (.more op) us cs vs → Reads now (.more op) (t :: ts) (c :: cs) vs
  | done {op ts} : (∀ t ∈ ts.head?, t.kind ≠ op.kind) → Reads now (.more op) ts [] ts
  | negation {t ts c us} : t.kind = .negation → Reads now (.chain .or) ts [c] us →
      Reads now .unary (t :: ts) [.negation c] us
  | parens {t ts c u us} : t.kind = .leftParen → Reads now (.chain .or) ts [c] (u :: us) →
      u.kind = .rightParen → Reads now .unary (t :: ts) [c] us
  | comparison {column operator literal ts op value} :
      column.kind = .qualifiedName ∨ column.kind = .name → operator.kind = .comparison →
      Operator.ofSymbol? operator.literal = some op → literal.kind ∈ literalKinds op →
      literalValue now literal = .ok value →
      Reads now .unary (column :: operator :: literal :: ts)
        [.comparison op column.literal value] ts

/-! ## The readers as one function -/

/-- What a reader returns for a phrase. -/
def readPhrase (now : DateTime) (ts : List Token) :
    Phrase → Except SyntaxError (List Condition × List Token)
  | .chain .or => (readDisjunction now ts).map fun r => ([r.1], r.2.1)
  | .chain .and => (readConjunction now ts).map fun r => ([r.1], r.2.1)
  | .more .or => (readDisjuncts now ts).map fun r => (r.1, r.2.1)
  | .more .and => (readConjuncts now ts).map fun r => (r.1, r.2.1)
  | .unary => (readUnary now ts).map fun r => ([r.1], r.2.1)

theorem readPhrase_chain (now : DateTime) (ts : List Token) (op : Connective) :
    readPhrase now ts (.chain op) = (do
      let (first, us) ← readPhrase now ts op.item
      let (others, vs) ← readPhrase now us (.more op)
      return ([.combine op (first ++ others)], vs)) := by
  cases op with
  | or =>
    simp only [readPhrase, Connective.item]
    rw [readDisjunction]
    cases readConjunction now ts with
    | error e => rfl
    | ok first =>
      obtain ⟨c, us, hus⟩ := first
      simp only [Except.map, bind, Except.bind]
      cases readDisjuncts now us <;> rfl
  | and =>
    simp only [readPhrase, Connective.item]
    rw [readConjunction]
    cases readUnary now ts with
    | error e => rfl
    | ok first =>
      obtain ⟨c, us, hus⟩ := first
      simp only [Except.map, bind, Except.bind]
      cases readConjuncts now us <;> rfl

theorem readPhrase_done (now : DateTime) {ts : List Token} {op : Connective}
    (h : ∀ t ∈ ts.head?, t.kind ≠ op.kind) : readPhrase now ts (.more op) = .ok ([], ts) := by
  cases ts with
  | nil =>
    cases op with
    | or => simp only [readPhrase, readDisjuncts, Except.map]
    | and => simp only [readPhrase, readConjuncts, Except.map]
  | cons t ts =>
    cases op with
    | or =>
      have ht : t.kind ≠ .disjunction := h t (by simp)
      rw [readPhrase, readDisjuncts, if_neg ht]
      rfl
    | and =>
      have ht : t.kind ≠ .conjunction := h t (by simp)
      rw [readPhrase, readConjuncts, if_neg ht]
      rfl

theorem readPhrase_more (now : DateTime) {t : Token} (ts : List Token) {op : Connective}
    (h : t.kind = op.kind) :
    readPhrase now (t :: ts) (.more op) = (do
      let (first, us) ← readPhrase now ts op.item
      let (others, vs) ← readPhrase now us (.more op)
      return (first ++ others, vs)) := by
  cases op with
  | or =>
    simp only [readPhrase, Connective.item]
    rw [readDisjuncts, if_pos (show t.kind = .disjunction from h)]
    cases readConjunction now ts with
    | error e => rfl
    | ok first =>
      obtain ⟨c, us, hus⟩ := first
      simp only [Except.map, bind, Except.bind]
      cases readDisjuncts now us <;> rfl
  | and =>
    simp only [readPhrase, Connective.item]
    rw [readConjuncts, if_pos (show t.kind = .conjunction from h)]
    cases readUnary now ts with
    | error e => rfl
    | ok first =>
      obtain ⟨c, us, hus⟩ := first
      simp only [Except.map, bind, Except.bind]
      cases readConjuncts now us <;> rfl

theorem readPhrase_negation (now : DateTime) {t : Token} (ts : List Token)
    (h : t.kind = .negation) :
    readPhrase now (t :: ts) .unary = (do
      let (child, us) ← readPhrase now ts (.chain .or)
      return (child.map .negation, us)) := by
  simp only [readPhrase]
  rw [readUnary, choose, if_pos (by simp [h])]
  simp only [h]
  cases readDisjunction now ts <;> rfl

theorem readPhrase_parens (now : DateTime) {t : Token} (ts : List Token)
    (h : t.kind = .leftParen) :
    readPhrase now (t :: ts) .unary = (do
      let (child, us) ← readPhrase now ts (.chain .or)
      let (_, ⟨vs, _⟩) ← choose [.rightParen] us
      return (child, vs)) := by
  simp only [readPhrase]
  rw [readUnary, choose, if_pos (by simp [h])]
  simp only [h]
  cases readDisjunction now ts with
  | error e => rfl
  | ok child =>
    obtain ⟨c, us, hus⟩ := child
    simp only [Except.map, bind, Except.bind]
    cases choose [.rightParen] us <;> rfl

theorem readPhrase_comparison (now : DateTime) {t : Token} (ts : List Token)
    (h : t.kind = .qualifiedName ∨ t.kind = .name) :
    readPhrase now (t :: ts) .unary =
      (readComparison now t.literal ts).map fun r => ([r.1], r.2.1) := by
  simp only [readPhrase]
  rw [readUnary, choose, if_pos (by rcases h with h | h <;> simp [h])]
  rcases h with h | h
  · simp only [h]
    cases readComparison now t.literal ts <;> rfl
  · simp only [h]
    cases readComparison now t.literal ts <;> rfl

/-- No condition starts with any other token. -/
theorem readPhrase_start (now : DateTime) {ts : List Token}
    (h : (current ts).kind ∉ [.negation, .leftParen, .qualifiedName, .name]) :
    readPhrase now ts .unary =
      .error (.unexpectedToken [.negation, .leftParen, .qualifiedName, .name] (current ts)) := by
  have hchoose : choose [.negation, .leftParen, .qualifiedName, .name] ts =
      .error (.unexpectedToken [.negation, .leftParen, .qualifiedName, .name] (current ts)) := by
    cases ts with
    | nil => rfl
    | cons t ts => exact if_neg h
  rw [readPhrase, readUnary, hchoose]
  rfl

theorem choose_eq_ok {kinds : List Kind} {ts : List Token} {t : Token} {rest : Fewer ts}
    (h : choose kinds ts = .ok (t, rest)) : t.kind ∈ kinds ∧ ts = t :: rest.1 := by
  cases ts with
  | nil => cases h
  | cons u us =>
    by_cases hu : u.kind ∈ kinds
    · rw [choose, if_pos hu] at h
      obtain ⟨rfl, rfl⟩ := Prod.mk.inj (Except.ok.inj h)
      exact ⟨hu, rfl⟩
    · rw [choose, if_neg hu] at h
      cases h

theorem choose_cons {kinds : List Kind} {t : Token} (h : t.kind ∈ kinds) (ts : List Token) :
    choose kinds (t :: ts) = .ok (t, ⟨ts, Nat.lt_succ_self _⟩) :=
  if_pos h

/-- The reader of comparisons, as a sequence of readers. -/
theorem readComparison_eq (now : DateTime) (column : String) (ts : List Token) :
    (readComparison now column ts).map (fun r => ([r.1], r.2.1)) = (do
      let (operator, ⟨rest, _⟩) ← choose [.comparison] ts
      match Operator.ofSymbol? operator.literal with
      | none => .error (.invalidLiteral .unknownOperator operator)
      | some op => do
        let (literal, ⟨rest, _⟩) ← choose (literalKinds op) rest
        let value ← literalValue now literal
        return ([.comparison op column value], rest)) := by
  unfold readComparison
  cases choose [.comparison] ts with
  | error e => rfl
  | ok found =>
    obtain ⟨operator, rest, hrest⟩ := found
    simp only [bind_ok]
    cases Operator.ofSymbol? operator.literal with
    | none => rfl
    | some op =>
      simp only
      cases choose (literalKinds op) rest with
      | error e => rfl
      | ok found =>
        obtain ⟨literal, rest', hrest'⟩ := found
        simp only [bind_ok]
        cases literalValue now literal <;> rfl

/-- A comparison is read of an operator and a literal that it takes. -/
theorem readComparison_eq_ok {now : DateTime} {column : String} {ts : List Token}
    {r : Condition × Fewer ts} (h : readComparison now column ts = .ok r) :
    ∃ operator literal op value, ts = operator :: literal :: r.2.1 ∧
      operator.kind = .comparison ∧ Operator.ofSymbol? operator.literal = some op ∧
      literal.kind ∈ literalKinds op ∧ literalValue now literal = .ok value ∧
      r.1 = .comparison op column value := by
  unfold readComparison at h
  split at h
  · cases h
  · next operator rest hrest hoperator =>
    split at h
    · cases h
    · next op hop =>
      split at h
      · cases h
      · next literal rest' hrest' hliteral =>
        split at h
        · cases h
        · next value hvalue =>
          obtain rfl := Except.ok.inj h
          obtain ⟨hkind, hts⟩ := choose_eq_ok hoperator
          obtain ⟨hkind', hrest⟩ := choose_eq_ok hliteral
          exact ⟨operator, literal, op, value, hts.trans (congrArg _ hrest),
            List.mem_singleton.mp hkind, hop, hkind', hvalue, rfl⟩

theorem readComparison_cons {now : DateTime} (column : String) {operator literal : Token}
    {op : Operator} {value : Value} (ts : List Token) (hkind : operator.kind = .comparison)
    (hop : Operator.ofSymbol? operator.literal = some op) (hliteral : literal.kind ∈ literalKinds op)
    (hvalue : literalValue now literal = .ok value) :
    (readComparison now column (operator :: literal :: ts)).map (fun r => ([r.1], r.2.1)) =
      .ok ([.comparison op column value], ts) := by
  rw [readComparison, choose_cons (List.mem_singleton.mpr hkind)]
  simp only [hop, choose_cons hliteral, hvalue]
  rfl

/-! ## What is read is what the grammar says -/

/-- The readers return what the grammar relates. -/
theorem Reads.readPhrase {now : DateTime} {phrase : Phrase} {ts us : List Token}
    {cs : List Condition} (h : Reads now phrase ts cs us) :
    readPhrase now ts phrase = .ok (cs, us) := by
  induction h with
  | chain _ _ ihitem ihmore =>
    simp only [readPhrase_chain, ihitem, bind_ok, ihmore]
    rfl
  | more hkind _ _ ihitem ihmore =>
    simp only [readPhrase_more now _ hkind, ihitem, bind_ok, ihmore]
    rfl
  | done hkind => exact readPhrase_done now hkind
  | negation hkind _ ih =>
    simp only [readPhrase_negation now _ hkind, ih, bind_ok]
    rfl
  | parens hopen _ hclose ih =>
    simp only [readPhrase_parens now _ hopen, ih, bind_ok,
      choose_cons (List.mem_singleton.mpr hclose)]
    rfl
  | comparison hcolumn hoperator hop hliteral hvalue =>
    rw [readPhrase_comparison now _ hcolumn]
    exact readComparison_cons _ _ hoperator hop hliteral hvalue

/-- A chain or a unary condition is one condition, and leaves fewer tokens. -/
theorem readPhrase_single {now : DateTime} {phrase : Phrase} {ts us : List Token}
    {cs : List Condition} (hphrase : ∀ op, phrase ≠ .more op)
    (h : readPhrase now ts phrase = .ok (cs, us)) : (∃ c, cs = [c]) ∧ us.length < ts.length := by
  cases phrase with
  | more op => exact absurd rfl (hphrase op)
  | chain op =>
    cases op with
    | or =>
      obtain ⟨⟨c, us', hus⟩, -, heq⟩ := map_eq_ok.mp h
      obtain ⟨rfl, rfl⟩ := Prod.mk.inj heq
      exact ⟨⟨c, rfl⟩, hus⟩
    | and =>
      obtain ⟨⟨c, us', hus⟩, -, heq⟩ := map_eq_ok.mp h
      obtain ⟨rfl, rfl⟩ := Prod.mk.inj heq
      exact ⟨⟨c, rfl⟩, hus⟩
  | unary =>
    obtain ⟨⟨c, us', hus⟩, -, heq⟩ := map_eq_ok.mp h
    obtain ⟨rfl, rfl⟩ := Prod.mk.inj heq
    exact ⟨⟨c, rfl⟩, hus⟩

theorem item_ne_more (op op' : Connective) : op.item ≠ .more op' := by
  cases op <;> exact Phrase.noConfusion

section Sound

variable {now : DateTime} {n : Nat}

/-- What is read of fewer than `n` tokens is what the grammar says. -/
def SoundBelow (now : DateTime) (n : Nat) : Prop :=
  ∀ ts, ts.length < n → ∀ phrase cs us, readPhrase now ts phrase = .ok (cs, us) →
    Reads now phrase ts cs us

theorem reads_chain {ts us : List Token} {op : Connective} {cs : List Condition}
    (ih : SoundBelow now ts.length)
    (hitem : ∀ cs us, readPhrase now ts op.item = .ok (cs, us) → Reads now op.item ts cs us)
    (h : readPhrase now ts (.chain op) = .ok (cs, us)) : Reads now (.chain op) ts cs us := by
  rw [readPhrase_chain] at h
  obtain ⟨⟨first, mid⟩, hfirst, h⟩ := bind_eq_ok.mp h
  obtain ⟨⟨others, rest⟩, hothers, h⟩ := bind_eq_ok.mp h
  obtain ⟨rfl, rfl⟩ := Prod.mk.inj (Except.ok.inj h)
  obtain ⟨⟨c, rfl⟩, hlt⟩ := readPhrase_single (item_ne_more op) hfirst
  exact .chain (hitem _ _ hfirst) (ih mid hlt _ _ _ hothers)

theorem reads_more {ts us : List Token} {op : Connective} {cs : List Condition}
    (ih : SoundBelow now ts.length) (h : readPhrase now ts (.more op) = .ok (cs, us)) :
    Reads now (.more op) ts cs us := by
  -- a chain goes on as long as its connective follows
  by_cases hdone : ∀ t ∈ ts.head?, t.kind ≠ op.kind
  · rw [readPhrase_done now hdone] at h
    obtain ⟨rfl, rfl⟩ := Prod.mk.inj (Except.ok.inj h)
    exact .done hdone
  · cases ts with
    | nil => simp at hdone
    | cons t ts =>
      have hkind : t.kind = op.kind := by simpa using hdone
      rw [readPhrase_more now ts hkind] at h
      obtain ⟨⟨first, mid⟩, hfirst, h⟩ := bind_eq_ok.mp h
      obtain ⟨⟨others, rest⟩, hothers, h⟩ := bind_eq_ok.mp h
      obtain ⟨rfl, rfl⟩ := Prod.mk.inj (Except.ok.inj h)
      obtain ⟨⟨c, rfl⟩, hlt⟩ := readPhrase_single (item_ne_more op) hfirst
      have hts : ts.length < (t :: ts).length := Nat.lt_succ_self _
      exact .more hkind (ih ts hts _ _ _ hfirst) (ih mid (Nat.lt_trans hlt hts) _ _ _ hothers)

theorem reads_unary {ts us : List Token} {cs : List Condition}
    (ih : SoundBelow now ts.length) (h : readPhrase now ts .unary = .ok (cs, us)) :
    Reads now .unary ts cs us := by
  cases ts with
  | nil =>
    rw [readPhrase_start now (by decide)] at h
    cases h
  | cons t ts =>
    have hts : ts.length < (t :: ts).length := Nat.lt_succ_self _
    have hor : ∀ op', Phrase.chain .or ≠ .more op' := fun _ => Phrase.noConfusion
    by_cases hnegation : t.kind = .negation
    · rw [readPhrase_negation now ts hnegation] at h
      obtain ⟨⟨child, mid⟩, hchild, h⟩ := bind_eq_ok.mp h
      obtain ⟨rfl, rfl⟩ := Prod.mk.inj (Except.ok.inj h)
      obtain ⟨⟨c, rfl⟩, -⟩ := readPhrase_single hor hchild
      exact .negation hnegation (ih ts hts _ _ _ hchild)
    by_cases hparen : t.kind = .leftParen
    · rw [readPhrase_parens now ts hparen] at h
      obtain ⟨⟨child, mid⟩, hchild, h⟩ := bind_eq_ok.mp h
      obtain ⟨⟨close, rest, hrest⟩, hclose, h⟩ := bind_eq_ok.mp h
      obtain ⟨rfl, rfl⟩ := Prod.mk.inj (Except.ok.inj h)
      obtain ⟨⟨c, rfl⟩, -⟩ := readPhrase_single hor hchild
      obtain ⟨hkind, hmid⟩ := choose_eq_ok hclose
      rw [hmid] at hchild
      exact .parens hparen (ih ts hts _ _ _ hchild) (List.mem_singleton.mp hkind)
    by_cases hcolumn : t.kind = .qualifiedName ∨ t.kind = .name
    · rw [readPhrase_comparison now ts hcolumn] at h
      obtain ⟨⟨c, rest, hrest⟩, hc, h⟩ := map_eq_ok.mp h
      obtain ⟨rfl, rfl⟩ := Prod.mk.inj h
      obtain ⟨operator, literal, op, value, htokens, hoperator, hop, hliteral, hvalue, hc⟩ :=
        readComparison_eq_ok hc
      show Reads now .unary (t :: ts) [c] rest
      obtain rfl : c = .comparison op t.literal value := hc
      rw [htokens]
      exact .comparison hcolumn hoperator hop hliteral hvalue
    · have hkind : (current (t :: ts)).kind ∉
          [Kind.negation, .leftParen, .qualifiedName, .name] := by
        simp only [current, List.mem_cons, List.not_mem_nil, or_false]
        tauto
      rw [readPhrase_start now hkind] at h
      cases h

/-- What is read is what the grammar says. -/
theorem reads_of_readPhrase {phrase : Phrase} {ts us : List Token} {cs : List Condition}
    (h : readPhrase now ts phrase = .ok (cs, us)) : Reads now phrase ts cs us := by
  -- on the number of tokens, and for as many tokens from the unary conditions up
  induction hn : ts.length using Nat.strongRecOn generalizing phrase ts cs us with
  | ind n ih =>
    subst hn
    have ih : SoundBelow now ts.length := fun ts' hlt _ _ _ h => ih _ hlt h rfl
    cases phrase with
    | unary => exact reads_unary ih h
    | more op => exact reads_more ih h
    | chain op =>
      have hand : ∀ cs us, readPhrase now ts (.chain .and) = .ok (cs, us) →
          Reads now (.chain .and) ts cs us := fun cs us =>
        reads_chain ih fun cs us => reads_unary ih
      cases op with
      | and => exact hand _ _ h
      | or => exact reads_chain ih hand h

end Sound

/-- The readers return what the grammar relates, and nothing else. -/
theorem reads_iff {now : DateTime} {phrase : Phrase} {ts us : List Token} {cs : List Condition} :
    Reads now phrase ts cs us ↔ readPhrase now ts phrase = .ok (cs, us) :=
  ⟨Reads.readPhrase, reads_of_readPhrase⟩

/-- A disjunction is read exactly when the grammar has it. -/
theorem readDisjunction_eq_ok {now : DateTime} {ts us : List Token} {c : Condition} :
    (∃ h, readDisjunction now ts = .ok (c, ⟨us, h⟩)) ↔ Reads now (.chain .or) ts [c] us := by
  rw [reads_iff, readPhrase, map_eq_ok]
  constructor
  · rintro ⟨h, hread⟩
    exact ⟨_, hread, rfl⟩
  · rintro ⟨⟨d, vs, hvs⟩, hread, heq⟩
    obtain ⟨hd, rfl⟩ := Prod.mk.inj heq
    obtain rfl := List.singleton_inj.mp hd
    exact ⟨hvs, hread⟩

end ProfileQuery.Query
