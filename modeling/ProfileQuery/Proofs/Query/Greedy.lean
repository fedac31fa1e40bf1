import ProfileQuery.Proofs.Query.Derivation

/-!
# The greedy reader against the grammar

The reader lets each `not` extend as far as it can. What it reads is the meaning of a `Far` tree
(`Reads.exists_far`), every `Far` tree is read as what it means (`Derivation.Far.reads`), and no
condition of the grammar is refused for the sake of greed (`Derivation.continues`): where a tree
leaves tokens to the chain around a `not`, the reader takes them as further items of the body.
-/

namespace ProfileQuery.Query

open Calendar (DateTime)

variable {p : Phrase} {now : DateTime} {ts us rest : List Token} {cs : List Condition}

/-! ## Ends of phrases -/

/-- Whether a phrase can end in front of some tokens, because its connectives do not follow. -/
def Ends : Phrase → List Token → Prop
  | .unary, _ => True
  | .chain .and, ts | .more .and, ts => ∀ t ∈ ts.head?, t.kind ≠ .conjunction
  | .chain .or, ts | .more .or, ts =>
    ∀ t ∈ ts.head?, t.kind ≠ .conjunction ∧ t.kind ≠ .disjunction

theorem Stops.ends (h : Stops rest) (p : Phrase) : Ends p rest := by
  have hend : ∀ t ∈ rest.head?, t.kind ≠ .conjunction ∧ t.kind ≠ .disjunction := by
    intro t ht
    rcases h t ht with hkind | hkind | hkind <;> rw [hkind] <;> decide
  match p with
  | .unary => trivial
  | .chain .and | .more .and => exact fun t ht => (hend t ht).1
  | .chain .or | .more .or => exact hend

theorem stops_of_rightParen {t : Token} (h : t.kind = .rightParen) : Stops (t :: rest) := by
  rintro u ⟨⟩
  exact .inl h

theorem stops_of_whereWord {t : Token} (h : t.kind = .whereWord) : Stops (t :: rest) := by
  rintro u ⟨⟩
  exact .inr (.inl h)

theorem stops_of_endOfInput {t : Token} (h : t.kind = .endOfInput) : Stops (t :: rest) := by
  rintro u ⟨⟩
  exact .inr (.inr h)

/-- What follows an item of a chain. -/
theorem Derivation.ends_item {op : Connective} (d : Derivation (.more op))
    (h : Ends (.chain op) rest) : Ends op.item (d.tokens ++ rest) := by
  cases op with
  | and => trivial
  | or =>
    cases d with
    | more _ mark hmark item others =>
      rintro t ⟨⟩
      rw [hmark]
      exact Kind.noConfusion
    | done => exact fun t ht => (h t ht).1

theorem Ends.ne_kind {op : Connective} (h : Ends (.chain op) rest) :
    ∀ t ∈ rest.head?, t.kind ≠ op.kind := by
  cases op with
  | and => exact h
  | or => exact fun t ht => (h t ht).2

/-! ## Every far tree is read -/

theorem Derivation.Far.reads {d : Derivation p} (hfar : d.Far rest) (hends : Ends p rest)
    (hconv : Convertible now d.tokens) :
    Reads now p (d.tokens ++ rest) (d.conditions now) rest := by
  induction d generalizing rest with
  | chain op first others ihfirst ihothers =>
    obtain ⟨hfirst, hothers⟩ := far_chain.mp hfar
    obtain ⟨hconv, hconv'⟩ := convertible_append.mp hconv
    have hread := ihfirst hfirst (others.ends_item hends) hconv
    obtain ⟨c, hc⟩ := first.conditions_single now (item_ne_more op)
    rw [hc] at hread
    have hends' : Ends (.more op) rest := by cases op <;> exact hends
    rw [tokens, List.append_assoc, conditions, hc]
    exact .chain hread (ihothers hothers hends' hconv')
  | more op mark hmark item others ihitem ihothers =>
    obtain ⟨hitem, hothers⟩ := far_more.mp hfar
    obtain ⟨hconv, hconv'⟩ := convertible_append.mp (List.forall_mem_cons.mp hconv).2
    have hends' : Ends (.chain op) rest := by cases op <;> exact hends
    have hread := ihitem hitem (others.ends_item hends') hconv
    obtain ⟨c, hc⟩ := item.conditions_single now (item_ne_more op)
    rw [hc] at hread
    rw [tokens, List.cons_append, List.append_assoc, conditions, hc]
    exact .more hmark hread (ihothers hothers hends hconv')
  | done op =>
    have hends' : Ends (.chain op) rest := by cases op <;> exact hends
    exact .done hends'.ne_kind
  | negation mark hmark body ih =>
    obtain ⟨hstops, hbody⟩ := far_negation.mp hfar
    have hread := ih hbody (hstops.ends _) (List.forall_mem_cons.mp hconv).2
    obtain ⟨c, hc⟩ := body.conditions_single now fun _ => Phrase.noConfusion
    rw [hc] at hread
    rw [conditions, hc]
    exact .negation hmark hread
  | parens left hleft body right hright ih =>
    have hstops : Stops (right :: rest) := stops_of_rightParen hright
    have hbody := (convertible_append.mp (List.forall_mem_cons.mp hconv).2).1
    have hread := ih (far_parens.mp hfar) (hstops.ends _) hbody
    obtain ⟨c, hc⟩ := body.conditions_single now fun _ => Phrase.noConfusion
    rw [hc] at hread
    rw [tokens, List.cons_append, List.append_assoc, conditions, hc]
    exact .parens hleft hread hright
  | comparison column operator literal op hcolumn hoperator hop hliteral =>
    have hvalue := literalValue_of_takes hliteral (hconv literal (by simp [tokens]))
    exact .comparison hcolumn hoperator hop (mem_literalKinds_iff.mpr hliteral) hvalue

/-! ## What is read is a far tree -/

/-- Whether some tokens can follow a phrase inside a query: a connective does, or nothing of the
condition. -/
def Follows (ts : List Token) : Prop :=
  ∀ t ∈ ts.head?, t.kind = .conjunction ∨ t.kind = .disjunction ∨
    t.kind = .rightParen ∨ t.kind = .whereWord ∨ t.kind = .endOfInput

theorem Stops.follows (h : Stops rest) : Follows rest :=
  fun t ht => .inr (.inr (h t ht))

theorem Follows.stops (h : Follows rest) (hends : Ends (.chain .or) rest) : Stops rest := by
  intro t ht
  obtain ⟨hand, hor⟩ := hends t ht
  exact ((h t ht).resolve_left hand).resolve_left hor

theorem Derivation.follows_more {op : Connective} (d : Derivation (.more op))
    (h : Follows rest) : Follows (d.tokens ++ rest) := by
  cases d with
  | more _ mark hmark item others =>
    rintro t ⟨⟩
    cases op with
    | and => exact .inl hmark
    | or => exact .inr (.inl hmark)
  | done => exact h

/-- A reader stops where its phrase can end. Further items of a disjunction end with one, or where
they start. -/
theorem Reads.ends (h : Reads now p ts cs us) :
    match p with
    | .more .or => Ends (.chain .and) ts → Ends (.more .or) us
    | p => Ends p us := by
  induction h with
  | @chain op ts c us cs vs _ _ ihitem ihmore =>
    cases op with
    | and => exact ihmore
    | or => exact ihmore ihitem
  | @more op t ts c us cs vs _ _ _ ihitem ihmore =>
    cases op with
    | and => exact ihmore
    | or => exact fun _ => ihmore ihitem
  | @done op ts hkind =>
    cases op with
    | and => exact hkind
    | or => exact fun hends t ht => ⟨hends t ht, hkind t ht⟩
  | negation | parens | comparison => trivial

/-- What is read is the meaning of a tree in which each `not` extends as far as it can. -/
theorem Reads.exists_far (h : Reads now p ts cs us) (hfollows : Follows us) :
    ∃ d : Derivation p, ts = d.tokens ++ us ∧ d.conditions now = cs ∧
      Convertible now d.tokens ∧ d.Far us := by
  induction h with
  | @chain op _ _ _ _ _ _ _ ihitem ihmore =>
    obtain ⟨others, rfl, rfl, hconv', hothers⟩ := ihmore hfollows
    obtain ⟨first, rfl, hc, hconv, hfirst⟩ := ihitem (others.follows_more hfollows)
    refine ⟨.chain op first others, (List.append_assoc ..).symm, ?_,
      convertible_append.mpr ⟨hconv, hconv'⟩, Derivation.far_chain.mpr ⟨hfirst, hothers⟩⟩
    rw [Derivation.conditions, hc]
    rfl
  | @more op mark _ _ _ _ _ hmark _ _ ihitem ihmore =>
    obtain ⟨others, rfl, rfl, hconv', hothers⟩ := ihmore hfollows
    obtain ⟨item, rfl, hc, hconv, hitem⟩ := ihitem (others.follows_more hfollows)
    refine ⟨.more op mark hmark item others, ?_, ?_, ?_,
      Derivation.far_more.mpr ⟨hitem, hothers⟩⟩
    · rw [Derivation.tokens, List.cons_append, List.append_assoc]
    · rw [Derivation.conditions, hc]
      rfl
    · exact (convertible_cons (hmark ▸ op.not_isChecked_kind)).mpr
        (convertible_append.mpr ⟨hconv, hconv'⟩)
  | @done op => exact ⟨.done op, rfl, rfl, fun _ ht => absurd ht List.not_mem_nil, rfl⟩
  | negation hmark hread ih =>
    obtain ⟨body, rfl, hc, hconv, hbody⟩ := ih hfollows
    refine ⟨.negation _ hmark body, rfl, ?_, ?_,
      Derivation.far_negation.mpr ⟨hfollows.stops hread.ends, hbody⟩⟩
    · rw [Derivation.conditions, hc]
      rfl
    · exact (convertible_cons (by rw [hmark]; decide)).mpr hconv
  | @parens left _ c right us hleft hread hright ih =>
    obtain ⟨body, rfl, hc, hconv, hbody⟩ := ih (stops_of_rightParen hright).follows
    refine ⟨.parens left hleft body right hright, ?_, hc, ?_, Derivation.far_parens.mpr hbody⟩
    · simp [Derivation.tokens]
    · refine (convertible_cons (by rw [hleft]; decide)).mpr (convertible_append.mpr ⟨hconv, ?_⟩)
      refine (convertible_cons (by rw [hright]; decide)).mpr ?_
      exact fun _ ht => absurd ht List.not_mem_nil
  | @comparison column operator literal _ op value hcolumn hoperator hop hliteral hvalue =>
    refine ⟨.comparison column operator literal op hcolumn hoperator hop
      (mem_literalKinds_iff.mp hliteral), rfl, ?_, ?_, ?_⟩
    · rw [Derivation.conditions, Token.value, hvalue]
    · have hcolumn' : ¬ column.kind.IsChecked := by
        rcases hcolumn with h | h <;> rw [h] <;> decide
      refine (convertible_cons hcolumn').mpr ((convertible_cons ?_).mpr ?_)
      · rw [hoperator]
        decide
      · intro t ht _
        obtain rfl := List.mem_singleton.mp ht
        exact ⟨value, hvalue⟩
    · exact List.forall₂_nil_left_iff.mp (Derivation.scopes_le_reaches
        (.comparison column operator literal op hcolumn hoperator hop
          (mem_literalKinds_iff.mp hliteral)) _) |>.symm

/-! ## No condition is refused -/

/-- The rest of a conjunction and then the rest of a disjunction are read of some tokens. -/
def Tail (now : DateTime) (ts us : List Token) : Prop :=
  ∃ as mid bs, Reads now (.more .and) ts as mid ∧ Reads now (.more .or) mid bs us

theorem Stops.tail (h : Stops us) : Tail now us us :=
  ⟨[], us, [], .done (h.ends (.more .and)), .done fun t ht => (h.ends (.more .or) t ht).2⟩

/-- What is read where the tokens of a phrase stand in front of the rest of a condition, up to where
that condition ends: a unary condition may take some of the rest with it. -/
def Continues (now : DateTime) (us : List Token) : Phrase → List Token → Prop
  | .unary, ts => ∃ c mid, Reads now .unary ts [c] mid ∧ Tail now mid us
  | .chain .and, ts => ∃ c mid bs, Reads now (.chain .and) ts [c] mid ∧
    Reads now (.more .or) mid bs us
  | .chain .or, ts => ∃ c, Reads now (.chain .or) ts [c] us
  | .more _, ts => Tail now ts us

/-- The tokens of any tree are read, whatever the reader makes of them. -/
theorem Derivation.continues (d : Derivation p) (hconv : Convertible now d.tokens)
    (hstops : Stops us) (htail : Tail now rest us) : Continues now us p (d.tokens ++ rest) := by
  induction d generalizing rest us with
  | chain op first others ihfirst ihothers =>
    obtain ⟨hconv, hconv'⟩ := convertible_append.mp hconv
    have hfirst := ihfirst hconv hstops (ihothers hconv' hstops htail)
    rw [tokens, List.append_assoc]
    cases op with
    | and =>
      obtain ⟨c, mid, hread, as, mid', bs, hmore, hrest⟩ := hfirst
      exact ⟨_, mid', bs, .chain hread hmore, hrest⟩
    | or =>
      obtain ⟨c, mid, bs, hread, hrest⟩ := hfirst
      exact ⟨_, .chain hread hrest⟩
  | more op mark hmark item others ihitem ihothers =>
    obtain ⟨hconv, hconv'⟩ := convertible_append.mp (List.forall_mem_cons.mp hconv).2
    have hitem := ihitem hconv hstops (ihothers hconv' hstops htail)
    rw [tokens, List.cons_append, List.append_assoc]
    cases op with
    | and =>
      obtain ⟨c, mid, hread, as, mid', bs, hmore, hrest⟩ := hitem
      exact ⟨c :: as, mid', bs, .more hmark hread hmore, hrest⟩
    | or =>
      obtain ⟨c, mid, bs, hread, hrest⟩ := hitem
      refine ⟨[], _, c :: bs, .done ?_, .more hmark hread hrest⟩
      rintro t ⟨⟩
      rw [hmark]
      exact Kind.noConfusion
  | done op => exact htail
  | negation mark hmark body ih =>
    -- The body takes the whole rest of the condition with it.
    obtain ⟨c, hread⟩ := ih (List.forall_mem_cons.mp hconv).2 hstops htail
    exact ⟨.negation c, us, .negation hmark hread, hstops.tail⟩
  | parens left hleft body right hright ih =>
    have hstops' : Stops (right :: rest) := stops_of_rightParen hright
    have hbody := (convertible_append.mp (List.forall_mem_cons.mp hconv).2).1
    obtain ⟨c, hread⟩ := ih hbody hstops' hstops'.tail
    rw [tokens, List.cons_append, List.append_assoc]
    exact ⟨c, rest, .parens hleft hread hright, htail⟩
  | comparison column operator literal op hcolumn hoperator hop hliteral =>
    have hvalue := literalValue_of_takes hliteral (hconv literal (by simp [tokens]))
    exact ⟨_, rest, .comparison hcolumn hoperator hop (mem_literalKinds_iff.mpr hliteral) hvalue,
      htail⟩

/-- The tokens of a condition have a tree in which each `not` extends as far as it can. -/
theorem Derivation.exists_far (d : Derivation (.chain .or)) (hconv : Convertible now d.tokens)
    (hstops : Stops rest) : ∃ d' : Derivation (.chain .or), d'.tokens = d.tokens ∧ d'.Far rest := by
  obtain ⟨c, hread⟩ := d.continues hconv hstops hstops.tail
  obtain ⟨d', htokens, -, -, hfar⟩ := hread.exists_far hstops.follows
  exact ⟨d', (List.append_cancel_right htokens).symm, hfar⟩

end ProfileQuery.Query
