import ProfileQuery.Proofs.Query.Grammar

/-!
# Derivations of conditions

The grammar of conditions with all of its freedom: a `Derivation` is a tree of the grammar, and one
sequence of tokens may have several, since a `not` may leave what follows its body to the chain that
it stands in. `scopes` measures how far each `not` of a tree extends. No `not` extends beyond the
parenthesis or the clause that it stands in (`scopes_le_reaches`); the trees in which each extends
that far are the `Far` ones.
-/

namespace ProfileQuery.Query

open Calendar (DateTime)

/-! ## Literals and operators -/

/-- The kinds of string literals. -/
def Kind.IsString (kind : Kind) : Prop := kind = .doubleQuoted ∨ kind = .singleQuoted

/-- The kinds of date literals. -/
def Kind.IsDate (kind : Kind) : Prop :=
  kind = .yearFirstDate ∨ kind = .dayFirstDate ∨ kind = .clockWord

/-- The kinds of literals that may fail to have a value. -/
def Kind.IsChecked (kind : Kind) : Prop := kind = .integer ∨ kind.IsDate

instance (kind : Kind) : Decidable kind.IsChecked :=
  inferInstanceAs (Decidable (_ ∨ _ ∨ _ ∨ _))

/-- The kinds of literals that an operator takes: a pattern is a string, only integers and dates are
ordered, and any two literals may be equal. -/
def Operator.Takes : Operator → Kind → Prop
  | .matched, kind | .notMatched, kind => kind.IsString
  | .less, kind | .lessEqual, kind | .greater, kind | .greaterEqual, kind =>
    kind.IsChecked
  | .equal, kind | .notEqual, kind => kind.IsChecked ∨ kind.IsString

theorem mem_literalKinds_iff {op : Operator} {kind : Kind} :
    kind ∈ literalKinds op ↔ op.Takes kind := by
  cases op <;> simp [literalKinds, Operator.isPattern, Operator.isOrdering, Operator.Takes,
    Kind.IsChecked, Kind.IsString, Kind.IsDate] <;> tauto

/-- Every integer and every date among some tokens has a value. -/
def Convertible (now : DateTime) (ts : List Token) : Prop :=
  ∀ t ∈ ts, t.kind.IsChecked → ∃ value, literalValue now t = .ok value

/-- The value of a literal that has one. -/
def Token.value (now : DateTime) (t : Token) : Value :=
  match literalValue now t with
  | .ok value => value
  | .error _ => .null

theorem convertible_append {now : DateTime} {ts us : List Token} :
    Convertible now (ts ++ us) ↔ Convertible now ts ∧ Convertible now us :=
  List.forall_mem_append

theorem convertible_cons {now : DateTime} {t : Token} {ts : List Token} (h : ¬ t.kind.IsChecked) :
    Convertible now (t :: ts) ↔ Convertible now ts := by
  rw [Convertible, List.forall_mem_cons]
  exact and_iff_right fun hchecked => absurd hchecked h

/-- A literal that an operator takes has a value, when it converts if it is an integer or a date. -/
theorem literalValue_of_takes {now : DateTime} {op : Operator} {t : Token}
    (htakes : op.Takes t.kind)
    (h : t.kind.IsChecked → ∃ value, literalValue now t = .ok value) :
    literalValue now t = .ok (t.value now) := by
  obtain ⟨value, hvalue⟩ : ∃ value, literalValue now t = .ok value := by
    by_cases hstring : t.kind.IsString
    · unfold literalValue
      rcases hstring with hkind | hkind
      · simp only [hkind]
        exact ⟨_, rfl⟩
      · simp only [hkind]
        exact ⟨_, rfl⟩
    · apply h
      cases op <;> simp_all [Operator.Takes]
  rw [Token.value, hvalue]

/-! ## Trees -/

/-- The trees of the grammar of conditions. -/
inductive Derivation : Phrase → Type
  | chain (op : Connective) (first : Derivation op.item) (others : Derivation (.more op)) :
    Derivation (.chain op)
  | more (op : Connective) (mark : Token) (hmark : mark.kind = op.kind) (item : Derivation op.item)
    (others : Derivation (.more op)) : Derivation (.more op)
  | done (op : Connective) : Derivation (.more op)
  | negation (mark : Token) (hmark : mark.kind = .negation) (body : Derivation (.chain .or)) :
    Derivation .unary
  | parens (left : Token) (hleft : left.kind = .leftParen) (body : Derivation (.chain .or))
    (right : Token) (hright : right.kind = .rightParen) : Derivation .unary
  | comparison (column operator literal : Token) (op : Operator)
    (hcolumn : column.kind = .qualifiedName ∨ column.kind = .name)
    (hoperator : operator.kind = .comparison)
    (hop : Operator.ofSymbol? operator.literal = some op) (hliteral : op.Takes literal.kind) :
    Derivation .unary

namespace Derivation

variable {p : Phrase}

/-- The tokens of a tree. -/
@[simp] def tokens : {p : Phrase} → Derivation p → List Token
  | _, chain _ first others => first.tokens ++ others.tokens
  | _, more _ mark _ item others => mark :: (item.tokens ++ others.tokens)
  | _, done _ => []
  | _, negation mark _ body => mark :: body.tokens
  | _, parens left _ body right _ => left :: (body.tokens ++ [right])
  | _, comparison column operator literal _ _ _ _ _ => [column, operator, literal]

/-- The number of tokens that each `not` of a tree extends over, from left to right. -/
@[simp] def scopes : {p : Phrase} → Derivation p → List Nat
  | _, chain _ first others => first.scopes ++ others.scopes
  | _, more _ _ _ item others => item.scopes ++ others.scopes
  | _, done _ => []
  | _, negation _ _ body => body.tokens.length :: body.scopes
  | _, parens _ _ body _ _ => body.scopes
  | _, comparison .. => []

/-- The conditions that are made of a tree: one, or for the rest of a chain any number. A chain of
one condition gives that condition. -/
@[simp] def conditions (now : DateTime) : {p : Phrase} → Derivation p → List Condition
  | _, chain op first others => [.combine op (first.conditions now ++ others.conditions now)]
  | _, more _ _ _ item others => item.conditions now ++ others.conditions now
  | _, done _ => []
  | _, negation _ _ body => (body.conditions now).map .negation
  | _, parens _ _ body _ _ => body.conditions now
  | _, comparison column _ literal op _ _ _ _ => [.comparison op column.literal (literal.value now)]

theorem conditions_single (d : Derivation p) (now : DateTime) (hp : ∀ op, p ≠ .more op) :
    ∃ c, d.conditions now = [c] := by
  induction d with
  | chain op first others => exact ⟨_, rfl⟩
  | more op => exact absurd rfl (hp op)
  | done op => exact absurd rfl (hp op)
  | negation mark hmark body ih =>
    obtain ⟨c, hc⟩ := ih fun _ => Phrase.noConfusion
    exact ⟨.negation c, by rw [conditions, hc]; rfl⟩
  | parens left hleft body right hright ih => exact ih fun _ => Phrase.noConfusion
  | comparison => exact ⟨_, rfl⟩

end Derivation

/-! ## How far a negation can extend -/

/-- Whether no condition goes on with these tokens: there are none, or the first one closes a
parenthesis, starts a clause, or ends the input. -/
def Stops (ts : List Token) : Prop :=
  ∀ t ∈ ts.head?, t.kind = .rightParen ∨ t.kind = .whereWord ∨ t.kind = .endOfInput

/-- The number of tokens up to the end of the clause or of the parenthesis, of which `depth` more
are open. -/
def reach : Nat → List Token → Nat
  | _, [] => 0
  | depth, t :: ts =>
    if t.kind = .leftParen then reach (depth + 1) ts + 1
    else if t.kind = .rightParen then
      match depth with
      | 0 => 0
      | depth + 1 => reach depth ts + 1
    else if t.kind = .whereWord ∨ t.kind = .endOfInput then 0
    else reach depth ts + 1

/-- What each `not` among some tokens can extend over, from left to right. -/
def reaches (rest : List Token) : List Token → List Nat
  | [] => []
  | t :: ts =>
    if t.kind = .negation then reach 0 (ts ++ rest) :: reaches rest ts else reaches rest ts

/-- The kinds of the tokens that stand inside a clause and are no parentheses. -/
def Kind.Inner (kind : Kind) : Prop :=
  kind ∉ [.leftParen, .rightParen, .whereWord, .endOfInput]

instance (kind : Kind) : Decidable kind.Inner := inferInstanceAs (Decidable (_ ∉ _))

theorem reach_inner {t : Token} (h : t.kind.Inner) (depth : Nat) (ts : List Token) :
    reach depth (t :: ts) = reach depth ts + 1 := by
  simp only [Kind.Inner, List.mem_cons, List.not_mem_nil, or_false, not_or] at h
  obtain ⟨hleft, hright, hwhere, hend⟩ := h
  conv_lhs => unfold reach
  rw [if_neg hleft, if_neg hright, if_neg (not_or.mpr ⟨hwhere, hend⟩)]

theorem reach_leftParen {t : Token} (h : t.kind = .leftParen) (depth : Nat) (ts : List Token) :
    reach depth (t :: ts) = reach (depth + 1) ts + 1 := by
  conv_lhs => unfold reach
  rw [if_pos h]

theorem reach_rightParen {t : Token} (h : t.kind = .rightParen) (depth : Nat) (ts : List Token) :
    reach (depth + 1) (t :: ts) = reach depth ts + 1 := by
  rw [reach, if_neg (by simp [h]), if_pos h]

/-- Nothing is reached of the tokens with which no condition goes on. -/
theorem reach_eq_zero_iff {ts : List Token} : reach 0 ts = 0 ↔ Stops ts := by
  cases ts with
  | nil => simp [reach, Stops]
  | cons t ts =>
    have hstops : Stops (t :: ts) ↔
        t.kind = .rightParen ∨ t.kind = .whereWord ∨ t.kind = .endOfInput := by
      simp [Stops]
    rw [hstops]
    unfold reach
    split
    · next h => simp [h]
    · split
      · next h => simp [h]
      · next hright =>
        split
        · next h => simp [h]
        · next h => simp [hright, h]

theorem reaches_append (front back rest : List Token) :
    reaches rest (front ++ back) = reaches (back ++ rest) front ++ reaches rest back := by
  induction front with
  | nil => rfl
  | cons t front ih =>
    simp only [List.cons_append, reaches, ih, List.append_assoc]
    split <;> rfl

theorem reaches_cons_of_ne {t : Token} (h : t.kind ≠ .negation) (rest ts : List Token) :
    reaches rest (t :: ts) = reaches rest ts :=
  if_neg h

theorem reaches_cons_negation {t : Token} (h : t.kind = .negation) (rest ts : List Token) :
    reaches rest (t :: ts) = reach 0 (ts ++ rest) :: reaches rest ts :=
  if_pos h

theorem reaches_eq_nil {rest ts : List Token} (h : ∀ t ∈ ts, t.kind ≠ .negation) :
    reaches rest ts = [] := by
  induction ts with
  | nil => rfl
  | cons t ts ih =>
    obtain ⟨ht, hts⟩ := List.forall_mem_cons.mp h
    rw [reaches_cons_of_ne ht, ih hts]

theorem Connective.inner_kind (op : Connective) : op.kind.Inner := by
  cases op <;> decide

theorem Connective.not_isChecked_kind (op : Connective) : ¬ op.kind.IsChecked := by
  cases op <;> decide

theorem Connective.kind_ne_negation (op : Connective) : op.kind ≠ .negation := by
  cases op <;> exact Kind.noConfusion

/-- No literal is a `not`, and none encloses others. -/
theorem Operator.Takes.inner {op : Operator} {kind : Kind} (h : op.Takes kind) :
    kind.Inner ∧ kind ≠ .negation := by
  have hkinds : ∀ kind ∈ literalKinds op, kind.Inner ∧ kind ≠ .negation := by
    cases op <;> decide
  exact hkinds kind (mem_literalKinds_iff.mpr h)

namespace Derivation

variable {p : Phrase} {now : DateTime}

/-- The parentheses of a tree are balanced, and no clause starts or ends in it. -/
theorem reach_tokens (d : Derivation p) (depth : Nat) (rest : List Token) :
    reach depth (d.tokens ++ rest) = d.tokens.length + reach depth rest := by
  induction d generalizing depth rest with
  | chain op first others ihfirst ihothers =>
    rw [tokens, List.append_assoc, ihfirst, ihothers, List.length_append, Nat.add_assoc]
  | more op mark hmark item others ihitem ihothers =>
    have hinner : mark.kind.Inner := hmark ▸ op.inner_kind
    rw [tokens, List.cons_append, reach_inner hinner, List.append_assoc, ihitem, ihothers]
    simp only [List.length_cons, List.length_append]
    omega
  | done op => simp [tokens]
  | negation mark hmark body ih =>
    have hinner : mark.kind.Inner := by rw [hmark]; decide
    rw [tokens, List.cons_append, reach_inner hinner, ih, List.length_cons, Nat.add_right_comm]
  | parens left hleft body right hright ih =>
    rw [tokens, List.cons_append, reach_leftParen hleft, List.append_assoc, ih, List.cons_append,
      reach_rightParen hright]
    simp only [List.length_cons, List.length_append, List.length_nil, List.nil_append]
    omega
  | comparison column operator literal op hcolumn hoperator hop hliteral =>
    have hinner : column.kind.Inner := by rcases hcolumn with h | h <;> rw [h] <;> decide
    have hinner' : operator.kind.Inner := by rw [hoperator]; decide
    show reach depth (column :: operator :: literal :: rest) = 3 + reach depth rest
    rw [reach_inner hinner, reach_inner hinner', reach_inner hliteral.inner.1]
    omega

/-- No `not` extends beyond the parenthesis or the clause that it stands in. -/
theorem scopes_le_reaches (d : Derivation p) (rest : List Token) :
    List.Forall₂ (· ≤ ·) d.scopes (reaches rest d.tokens) := by
  induction d generalizing rest with
  | chain op first others ihfirst ihothers =>
    rw [tokens, reaches_append]
    exact List.rel_append (ihfirst _) (ihothers _)
  | more op mark hmark item others ihitem ihothers =>
    rw [tokens, reaches_cons_of_ne (hmark ▸ op.kind_ne_negation), reaches_append]
    exact List.rel_append (ihitem _) (ihothers _)
  | done op => exact .nil
  | negation mark hmark body ih =>
    rw [tokens, reaches_cons_negation hmark, reach_tokens]
    exact .cons (Nat.le_add_right _ _) (ih _)
  | parens left hleft body right hright ih =>
    rw [tokens, reaches_cons_of_ne (by simp [hleft]), reaches_append,
      reaches_cons_of_ne (by simp [hright])]
    show List.Forall₂ _ body.scopes (reaches _ body.tokens ++ [])
    rw [List.append_nil]
    exact ih _
  | comparison column operator literal op hcolumn hoperator hop hliteral =>
    have hne : column.kind ≠ .negation := by rcases hcolumn with h | h <;> rw [h] <;> decide
    rw [tokens, reaches_cons_of_ne hne, reaches_cons_of_ne (by simp [hoperator]),
      reaches_cons_of_ne hliteral.inner.2]
    exact .nil

/-! ## Trees that extend each negation as far as possible -/

/-- Each `not` extends as far as it can, with some tokens behind the tree. -/
def Far (d : Derivation p) (rest : List Token) : Prop := d.scopes = reaches rest d.tokens

theorem far_chain {op : Connective} {first : Derivation op.item} {others : Derivation (.more op)}
    {rest : List Token} :
    (chain op first others).Far rest ↔ first.Far (others.tokens ++ rest) ∧ others.Far rest := by
  rw [Far, tokens, reaches_append]
  constructor
  · exact fun h => List.append_inj h (first.scopes_le_reaches _).length_eq
  · rintro ⟨hfirst, hothers⟩
    rw [scopes, hfirst, hothers]

theorem far_more {op : Connective} {mark : Token} {hmark : mark.kind = op.kind}
    {item : Derivation op.item} {others : Derivation (.more op)} {rest : List Token} :
    (more op mark hmark item others).Far rest ↔
      item.Far (others.tokens ++ rest) ∧ others.Far rest := by
  rw [Far, tokens, reaches_cons_of_ne (hmark ▸ op.kind_ne_negation)]
  show (chain op item others).Far rest ↔ _
  exact far_chain

theorem far_negation {mark : Token} {hmark : mark.kind = .negation}
    {body : Derivation (.chain .or)} {rest : List Token} :
    (negation mark hmark body).Far rest ↔ Stops rest ∧ body.Far rest := by
  rw [Far, tokens, reaches_cons_negation hmark, reach_tokens, scopes, List.cons.injEq,
    ← reach_eq_zero_iff, Far]
  refine and_congr_left' ?_
  omega

theorem far_parens {left right : Token} {hleft : left.kind = .leftParen}
    {hright : right.kind = .rightParen} {body : Derivation (.chain .or)} {rest : List Token} :
    (parens left hleft body right hright).Far rest ↔ body.Far (right :: rest) := by
  rw [Far, tokens, reaches_cons_of_ne (by simp [hleft]), reaches_append,
    reaches_cons_of_ne (by simp [hright])]
  show body.scopes = reaches (right :: rest) body.tokens ++ [] ↔ _
  rw [List.append_nil]
  rfl

end Derivation

end ProfileQuery.Query
