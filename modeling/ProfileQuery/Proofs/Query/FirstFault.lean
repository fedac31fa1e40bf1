import ProfileQuery.Proofs.Query.RoundTrip
import ProfileQuery.Proofs.Query.ViablePrefix

/-!
# The token that is reported

Where a reader reports an unexpected token, the tokens in front of it begin a tree and lead to a
place where that token may not come next, and its kind is none of those that were expected; where it
reports an invalid one, no value stands for it (`Justified`). So a body is read up to the first token
that is impossible where it stands (`Select.ofBody_unexpectedToken`).
-/

namespace ProfileQuery.Query

open Calendar (DateTime)
open Outcome (FailsOnly bind_eq_ok)
open Stage

/-! ## Justified errors -/

/-- No value stands for a token: as an operator it is unknown, or as a literal that some operator
takes it has a fault. -/
def Refused (now : DateTime) (fault : LiteralFault) (t : Token) : Prop :=
  (t.kind = .comparison ∧ Operator.ofSymbol? t.literal = none) ∨
    (∃ op : Operator, op.Takes t.kind) ∧ literalValue now t = .error (.invalidLiteral fault t)

/-- What an error says of the tokens that were read from a place on: of those in front of an
unexpected one that they begin something, and that it may not come next; of an invalid one that it is
refused. -/
def Justified (now : DateTime) (s : Stage) (begins : List Token → Prop) (ts : List Token) :
    SyntaxError → Prop
  | .unexpectedToken expected found =>
    ∃ front rest s', ts = front ++ rest ∧ found = current rest ∧ begins front ∧
      s.run front = some s' ∧ s'.next? found = none ∧ found.kind ∉ expected
  | .invalidLiteral fault t => t ∈ ts ∧ Refused now fault t
  | _ => True

variable {s s' : Stage} {begins begins' : List Token → Prop} {ts us done : List Token}
  {now : DateTime} {p : Phrase}

/-- What is justified behind some tokens that were read is so behind the place they started at. -/
theorem Justified.behind {e : SyntaxError} (h : Justified now s' begins' us e)
    (hrun : s.run done = some s') (hbegins : ∀ front, begins' front → begins (done ++ front)) :
    Justified now s begins (done ++ us) e := by
  cases e with
  | unexpectedToken expected found =>
    obtain ⟨front, rest, s'', rfl, hfound, hfront, hrun', hnext, hkind⟩ := h
    refine ⟨done ++ front, rest, s'', (List.append_assoc ..).symm, hfound, hbegins _ hfront, ?_,
      hnext, hkind⟩
    rw [run_append_of_run hrun, hrun']
  | invalidLiteral fault t => exact ⟨List.mem_append_right done h.1, h.2⟩
  | _ => trivial

theorem Justified.mono {e : SyntaxError} (h : Justified now s begins' ts e)
    (hbegins : ∀ front, begins' front → begins front) : Justified now s begins ts e := by
  have hrun : s.run [] = some s := rfl
  exact h.behind hrun hbegins

/-- Of the tokens that may come next, only those of some kinds are not ruled out. -/
def Narrowed (s : Stage) (kinds : List Kind) (ts : List Token) : Prop :=
  ∀ s', s.next? (current ts) = some s' → (current ts).kind ∈ kinds

/-- A choice between all kinds that are not ruled out fails on a misplaced token. -/
theorem justified_choose (now : DateTime) {kinds : List Kind} (hnext : Narrowed s kinds ts)
    (hend : ts = [] → .endOfInput ∉ kinds) :
    FailsOnly (Justified now s (· = []) ts) (choose kinds ts) := by
  have hmisplaced (hkind : (current ts).kind ∉ kinds) :
      Justified now s (· = []) ts (.unexpectedToken kinds (current ts)) := by
    refine ⟨[], ts, s, rfl, rfl, rfl, rfl, ?_, hkind⟩
    exact Option.eq_none_iff_forall_ne_some.mpr fun s' hs' => hkind (hnext s' hs')
  cases ts with
  | nil => exact .error (hmisplaced (hend rfl))
  | cons t ts =>
    by_cases hkind : t.kind ∈ kinds
    · rw [choose_cons hkind]
      exact .ok _
    · rw [choose, if_neg hkind]
      exact .error (hmisplaced hkind)

/-- Only a literal itself is reported to have no value. -/
theorem exists_fault {t : Token} {e : SyntaxError} (h : literalValue now t = .error e) :
    ∃ fault, e = .invalidLiteral fault t := by
  unfold literalValue at h
  split at h
  · split at h
    · cases h
    · exact ⟨_, (Except.error.inj h).symm⟩
  · cases h
  · cases h
  iterate 3
    · split at h
      · cases h
      · exact ⟨_, (Except.error.inj h).symm⟩
  · exact ⟨_, (Except.error.inj h).symm⟩

theorem justified_literalValue {t : Token} (hmem : t ∈ ts) {op : Operator}
    (htakes : op.Takes t.kind) : FailsOnly (Justified now s begins ts) (literalValue now t) := by
  intro e he
  obtain ⟨fault, rfl⟩ := exists_fault he
  exact ⟨hmem, .inr ⟨⟨op, htakes⟩, he⟩⟩

/-! ## Conditions -/

/-- Whether some tokens begin a tree of a phrase. -/
def Phrase.Begins (p : Phrase) (front : List Token) : Prop :=
  ∃ d : Derivation p, front <+: d.tokens

/-- Every phrase has a tree. -/
theorem Derivation.nonempty (p : Phrase) : Nonempty (Derivation p) := by
  let unary : Derivation .unary := .comparison ⟨.name, "a", .start⟩ ⟨.comparison, "=", .start⟩
    ⟨.integer, "0", .start⟩ .equal (.inr rfl) rfl rfl (.inl (.inl rfl))
  let chain : Derivation (.chain .and) := .chain .and unary (.done .and)
  match p with
  | .unary => exact ⟨unary⟩
  | .more op => exact ⟨.done op⟩
  | .chain .and => exact ⟨chain⟩
  | .chain .or => exact ⟨.chain .or chain (.done .or)⟩

theorem Phrase.begins_nil (p : Phrase) : p.Begins [] := by
  obtain ⟨d⟩ := Derivation.nonempty p
  exact ⟨d, List.nil_prefix⟩

/-- What is read of a phrase is the tokens of a tree. -/
theorem Reads.exists_tokens {cs : List Condition} (h : Reads now p ts cs us) :
    ∃ d : Derivation p, ts = d.tokens ++ us := by
  induction h with
  | chain _ _ ihitem ihmore =>
    obtain ⟨first, rfl⟩ := ihitem
    obtain ⟨others, rfl⟩ := ihmore
    exact ⟨.chain _ first others, (List.append_assoc ..).symm⟩
  | more hkind _ _ ihitem ihmore =>
    obtain ⟨item, rfl⟩ := ihitem
    obtain ⟨others, rfl⟩ := ihmore
    exact ⟨.more _ _ hkind item others, by simp⟩
  | done => exact ⟨.done _, rfl⟩
  | negation hkind _ ih =>
    obtain ⟨body, rfl⟩ := ih
    exact ⟨.negation _ hkind body, rfl⟩
  | parens hleft _ hright ih =>
    obtain ⟨body, rfl⟩ := ih
    exact ⟨.parens _ hleft body _ hright, by simp⟩
  | comparison hcolumn hoperator hop hliteral =>
    exact ⟨.comparison _ _ _ _ hcolumn hoperator hop (mem_literalKinds_iff.mp hliteral), rfl⟩

/-- Behind a disjunction, no connective may come next any more. -/
theorem narrowed_afterItem {kinds : List Kind} {depth : Nat} (h : Ends (.chain .or) ts)
    (hkinds : match depth with
      | 0 => .whereWord ∈ kinds ∧ .endOfInput ∈ kinds
      | _ + 1 => .rightParen ∈ kinds) :
    Narrowed (.afterItem depth) kinds ts := by
  have hconnective : ¬ ((current ts).kind = .conjunction ∨ (current ts).kind = .disjunction) := by
    cases ts with
    | nil => decide
    | cons t ts => exact not_or.mpr (h t rfl)
  intro s' hs'
  cases depth with
  | zero =>
    rw [next?, if_neg hconnective] at hs'
    rcases kind_of_clause? hs' with hkind | hkind
    · exact hkind ▸ hkinds.1
    · exact hkind ▸ hkinds.2
  | succ depth =>
    rw [next?, if_neg hconnective] at hs'
    split at hs'
    · next hkind => exact hkind ▸ hkinds
    · cases hs'

section Conditions

variable {depth : Nat}

/-- Whether the errors of the readers of fewer than `n` tokens are justified. -/
def JustifiedBelow (now : DateTime) (n : Nat) : Prop :=
  ∀ ts, ts.length < n → ∀ p depth,
    FailsOnly (Justified now (Phrase.entry depth p) p.Begins ts) (readPhrase now ts p)

/-- An item and further items, whether at the start of a chain or behind a connective. -/
theorem justified_items {op : Connective} {q : Phrase} (mark : List Token)
    (below : ∀ us, us.length < ts.length → FailsOnly
      (Justified now (.afterItem depth) (Phrase.more op).Begins us) (readPhrase now us (.more op)))
    (hitem : FailsOnly (Justified now (.unary depth) op.item.Begins ts) (readPhrase now ts op.item))
    (hmark : s.run mark = some (.unary depth))
    (hbegins : ∀ (item : Derivation op.item) (others : Derivation (.more op)) front,
      front <+: item.tokens ++ others.tokens → q.Begins (mark ++ front))
    {f : List Condition → List Condition → List Condition} :
    FailsOnly (Justified now s q.Begins (mark ++ ts)) (do
      let (first, us) ← readPhrase now ts op.item
      let (others, vs) ← readPhrase now us (.more op)
      return (f first others, vs)) := by
  refine FailsOnly.bind (hitem.mono fun e he => he.behind hmark ?_) ?_
  · rintro front ⟨item, hfront⟩
    exact hbegins item (.done op) front (hfront.trans (List.prefix_append ..))
  · rintro ⟨first, us⟩ hfirst
    obtain ⟨-, hlt⟩ := readPhrase_single (item_ne_more op) hfirst
    obtain ⟨item, rfl⟩ := (reads_of_readPhrase hfirst).exists_tokens
    have hrun : (Stage.unary depth).run item.tokens = some (.afterItem depth) :=
      op.entry_item depth ▸ item.run_tokens depth
    refine FailsOnly.bind ((below us hlt).mono fun e he => ?_) fun _ _ => .ok _
    have hbehind : Justified now (.unary depth) (fun front => ∃ others : Derivation (.more op),
        front <+: item.tokens ++ others.tokens) (item.tokens ++ us) e := by
      refine he.behind hrun ?_
      rintro front ⟨others, hfront⟩
      exact ⟨others, (List.prefix_append_right_inj _).mpr hfront⟩
    refine hbehind.behind hmark ?_
    rintro front ⟨others, hfront⟩
    exact hbegins item others front hfront

theorem justified_chain {op : Connective} (below : JustifiedBelow now ts.length)
    (hitem : FailsOnly (Justified now (.unary depth) op.item.Begins ts) (readPhrase now ts op.item)) :
    FailsOnly (Justified now (.unary depth) (Phrase.chain op).Begins ts)
      (readPhrase now ts (.chain op)) := by
  rw [readPhrase_chain]
  refine justified_items (f := fun first others => [.combine op (first ++ others)]) []
    (fun us hlt => below us hlt _ depth) hitem rfl ?_
  intro item others front hfront
  exact ⟨.chain op item others, hfront⟩

theorem justified_more {op : Connective} (below : JustifiedBelow now ts.length) :
    FailsOnly (Justified now (.afterItem depth) (Phrase.more op).Begins ts)
      (readPhrase now ts (.more op)) := by
  by_cases hdone : ∀ t ∈ ts.head?, t.kind ≠ op.kind
  · rw [readPhrase_done now hdone]
    exact .ok _
  · cases ts with
    | nil => simp at hdone
    | cons t ts =>
      have hkind : t.kind = op.kind := by simpa using hdone
      have hts : ts.length < (t :: ts).length := Nat.lt_succ_self _
      rw [readPhrase_more now ts hkind]
      refine justified_items [t] (fun us hlt => below us (Nat.lt_trans hlt hts) _ depth)
        (op.entry_item depth ▸ below ts hts op.item depth)
        (run_cons_of_next (op.next?_afterItem hkind depth) []) ?_
      intro item others front hfront
      exact ⟨.more op t hkind item others, List.cons_prefix_cons.mpr ⟨rfl, hfront⟩⟩

theorem Operator.exists_takes : ∀ op : Operator, ∃ kind, op.Takes kind
  | .matched | .notMatched => ⟨.doubleQuoted, .inl rfl⟩
  | .less | .lessEqual | .greater | .greaterEqual => ⟨.integer, .inl rfl⟩
  | .equal | .notEqual => ⟨.integer, .inl (.inl rfl)⟩

/-- Whatever operator and literal complete it, a comparison starts with a column. -/
theorem begins_comparison {column : Token} (operator : Token) {op : Operator}
    (hcolumn : column.kind = .qualifiedName ∨ column.kind = .name)
    (hoperator : operator.kind = .comparison)
    (hop : Operator.ofSymbol? operator.literal = some op) :
    Phrase.unary.Begins [column, operator] := by
  obtain ⟨kind, hkind⟩ := op.exists_takes
  exact ⟨.comparison column operator ⟨kind, "", .start⟩ op hcolumn hoperator hop hkind, ⟨[_], rfl⟩⟩

theorem begins_column {column : Token}
    (hcolumn : column.kind = .qualifiedName ∨ column.kind = .name) :
    Phrase.unary.Begins [column] := by
  have hop : Operator.ofSymbol? "=" = some .equal := rfl
  obtain ⟨d, hd⟩ := begins_comparison ⟨.comparison, "=", .start⟩ hcolumn rfl hop
  exact ⟨d, (List.prefix_append [column] _).trans hd⟩

/-- Behind a column follow an operator and a literal that it takes. -/
theorem justified_comparison {t : Token} (ht : t.kind = .qualifiedName ∨ t.kind = .name) :
    FailsOnly (Justified now (.unary depth) Phrase.unary.Begins (t :: ts))
      (readPhrase now (t :: ts) .unary) := by
  have hcolumn := next?_column ht depth
  rw [readPhrase_comparison now ts ht, readComparison_eq]
  refine FailsOnly.bind ?_ ?_
  · have hnext : Narrowed (afterColumnOf depth) [.comparison] ts := by
      intro s' hs'
      rw [next?] at hs'
      split at hs'
      · next hkind => exact List.mem_singleton.mpr hkind
      · cases hs'
    intro e he
    have hchoose := justified_choose now hnext (by simp) _ he
    refine hchoose.behind (run_cons_of_next hcolumn []) ?_
    rintro _ rfl
    exact begins_column ht
  rintro ⟨operator, rest, hrest⟩ hoperator
  obtain ⟨hkind, hts⟩ := choose_eq_ok hoperator
  have hkind := List.mem_singleton.mp hkind
  simp only
  cases hop : Operator.ofSymbol? operator.literal with
  | none => exact .error ⟨by simp [hts], .inl ⟨hkind, hop⟩⟩
  | some op =>
    have hnext : Narrowed (afterOperator op depth) (literalKinds op) rest := by
      intro s' hs'
      rw [next?] at hs'
      split at hs'
      · assumption
      · cases hs'
    have hend : rest = [] → .endOfInput ∉ literalKinds op := fun _ => by cases op <;> decide
    have hlead : (Stage.unary depth).run [t, operator] = some (afterOperator op depth) := by
      rw [run_cons_of_next hcolumn, run_cons_of_next (next?_operator hkind hop depth)]
      rfl
    refine FailsOnly.bind ?_ ?_
    · intro e he
      have hchoose := justified_choose now hnext hend _ he
      rw [show t :: ts = [t, operator] ++ rest from congrArg (t :: ·) hts]
      refine hchoose.behind hlead ?_
      rintro _ rfl
      exact begins_comparison operator ht hkind hop
    · rintro ⟨literal, rest', hrest'⟩ hliteral
      obtain ⟨htakes, hrest⟩ := choose_eq_ok hliteral
      have hmem : literal ∈ t :: ts := by simp [hts, hrest]
      exact FailsOnly.bind (justified_literalValue hmem (mem_literalKinds_iff.mp htakes))
        fun _ _ => .ok _

theorem justified_negation {t : Token} (ht : t.kind = .negation)
    (below : JustifiedBelow now (t :: ts).length) :
    FailsOnly (Justified now (.unary depth) Phrase.unary.Begins (t :: ts))
      (readPhrase now (t :: ts) .unary) := by
  have hnext : (Stage.unary depth).next? t = some (.unary depth) := if_pos ht
  have hbody := below ts (Nat.lt_succ_self _) (.chain .or) depth
  rw [readPhrase_negation now ts ht]
  refine FailsOnly.bind (hbody.mono fun e he => he.behind (run_cons_of_next hnext []) ?_)
    fun _ _ => .ok _
  rintro front ⟨body, hfront⟩
  exact ⟨.negation t ht body, List.cons_prefix_cons.mpr ⟨rfl, hfront⟩⟩

theorem justified_parens {t : Token} (ht : t.kind = .leftParen)
    (below : JustifiedBelow now (t :: ts).length) :
    FailsOnly (Justified now (.unary depth) Phrase.unary.Begins (t :: ts))
      (readPhrase now (t :: ts) .unary) := by
  have hnext : (Stage.unary depth).next? t = some (.unary (depth + 1)) := by simp [next?, ht]
  have hleft : (Stage.unary depth).run [t] = some (.unary (depth + 1)) := run_cons_of_next hnext []
  have hbody := below ts (Nat.lt_succ_self _) (.chain .or) (depth + 1)
  have hbegins (body : Derivation (.chain .or)) (front : List Token) (h : front <+: body.tokens) :
      Phrase.unary.Begins (t :: front) := by
    refine ⟨.parens t ht body ⟨.rightParen, ")", .start⟩ rfl, ?_⟩
    exact List.cons_prefix_cons.mpr ⟨rfl, h.trans (List.prefix_append ..)⟩
  rw [readPhrase_parens now ts ht]
  refine FailsOnly.bind (hbody.mono fun e he => he.behind hleft ?_) ?_
  · rintro front ⟨body, hfront⟩
    exact hbegins body front hfront
  · rintro ⟨child, us⟩ hchild
    have hread := reads_of_readPhrase hchild
    obtain ⟨body, rfl⟩ := hread.exists_tokens
    have hclose : Narrowed (.afterItem (depth + 1)) [.rightParen] us :=
      narrowed_afterItem hread.ends (List.mem_singleton_self _)
    have hrun : (Stage.unary depth).run (t :: body.tokens) = some (.afterItem (depth + 1)) :=
      (run_cons_of_next hnext _).trans (body.run_tokens (depth + 1))
    refine FailsOnly.bind ?_ fun _ _ => .ok _
    intro e he
    have hchoose := justified_choose now hclose (by simp) _ he
    refine hchoose.behind hrun ?_
    rintro _ rfl
    rw [List.append_nil]
    exact hbegins body _ List.prefix_rfl

/-- No other token starts a condition. -/
theorem justified_start (h : (current ts).kind ∉ [.negation, .leftParen, .qualifiedName, .name]) :
    FailsOnly (Justified now (.unary depth) Phrase.unary.Begins ts) (readPhrase now ts .unary) := by
  have hnext : (Stage.unary depth).next? (current ts) = none := by
    simp only [List.mem_cons, List.not_mem_nil, or_false, not_or] at h
    simp [next?, h, columnKinds]
  rw [readPhrase_start now h]
  exact .error ⟨[], ts, _, rfl, rfl, Phrase.begins_nil _, rfl, hnext, h⟩

theorem justified_unary (below : JustifiedBelow now ts.length) :
    FailsOnly (Justified now (.unary depth) Phrase.unary.Begins ts) (readPhrase now ts .unary) := by
  by_cases hstart : (current ts).kind ∈ [.negation, .leftParen, .qualifiedName, .name]
  · cases ts with
    | nil => simp [current, Token.atEnd] at hstart
    | cons t ts =>
      have hkind : t.kind = .negation ∨ t.kind = .leftParen ∨
          t.kind = .qualifiedName ∨ t.kind = .name := by simpa [current] using hstart
      rcases hkind with hnegation | hparen | hcolumn
      · exact justified_negation hnegation below
      · exact justified_parens hparen below
      · exact justified_comparison hcolumn
  · exact justified_start hstart

/-- The errors of the readers of conditions are justified. -/
theorem justified_readPhrase (ts : List Token) (p : Phrase) (depth : Nat) :
    FailsOnly (Justified now (p.entry depth) p.Begins ts) (readPhrase now ts p) := by
  -- on the number of tokens, and for as many tokens from the unary conditions up
  induction hn : ts.length using Nat.strongRecOn generalizing ts p depth with
  | ind n ih =>
    subst hn
    have below : JustifiedBelow now ts.length := fun us hlt p depth => ih _ hlt us p depth rfl
    cases p with
    | unary => exact justified_unary below
    | more op => exact justified_more below
    | chain op =>
      have hand : FailsOnly (Justified now (.unary depth) (Phrase.chain .and).Begins ts)
          (readPhrase now ts (.chain .and)) := justified_chain below (justified_unary below)
      cases op with
      | and => exact hand
      | or => exact justified_chain below hand

end Conditions

/-! ## Clauses -/

/-- The error of the reader of the projection is justified. -/
theorem justified_readProjection (ts : List Token) :
    FailsOnly (Justified now .start (· = []) ts) (readProjection ts) := by
  have hnext : Narrowed .start (.star :: columnKinds) ts := by
    intro s' hs'
    rw [next?] at hs'
    split at hs'
    · next hkind => exact hkind ▸ List.mem_cons_self
    · split at hs'
      · next hkind => exact List.mem_cons_of_mem _ hkind
      · cases hs'
  refine FailsOnly.bind (justified_choose now hnext fun _ => by decide) ?_
  rintro ⟨first, rest, hrest⟩ -
  by_cases hstar : first.kind = .star
  · simp only [if_pos hstar]
    exact .ok _
  · simp only [if_neg hstar]
    exact .ok _

/-- Behind a projection that was read, no further column may come next. -/
theorem narrowed_projection {d : ProjectionTree} (h : readProjection ts = .ok (d.meaning, us)) :
    Narrowed d.exit [.fromWord, .whereWord, .endOfInput] us := by
  intro s' hs'
  have hrest : (if (current us).kind = .fromWord then some afterFrom
      else clause? (current us).kind) = some s' := by
    cases d with
    | star mark hmark => exact hs'
    | columns first others hkinds =>
      have hcolumn : (current us).kind ∉ columnKinds := by
        cases us with
        | nil => decide
        | cons t us => exact kind_behind_columns h t rfl
      rwa [ProjectionTree.exit, next?, if_neg hcolumn] at hs'
  split at hrest
  · next hkind => exact hkind ▸ List.mem_cons_self
  · rcases kind_of_clause? hrest with hkind | hkind <;> simp [hkind]

/-- The error of the reader of the relations is justified. -/
theorem justified_readRelations
    (hs : ∀ t : Token, t.kind = .fromWord → s.next? t = some afterFrom) (ts : List Token) :
    FailsOnly (Justified now s (fun front => ∃ d, front <+: FromTree.tokens d) ts)
      (readRelations ts) := by
  unfold readRelations
  split
  · next hfrom =>
    cases ts with
    | nil => cases hfrom
    | cons t ts =>
      have hnext : Narrowed afterFrom [.name] ts := by
        intro s' hs'
        rw [next?] at hs'
        split at hs'
        · next hkind => exact List.mem_singleton.mpr hkind
        · cases hs'
      refine FailsOnly.bind ?_ fun _ _ => .ok _
      intro e he
      have hchoose := justified_choose now hnext (by simp) _ he
      refine hchoose.behind (run_cons_of_next (hs t hfrom) []) ?_
      rintro _ rfl
      refine ⟨some ⟨t, hfrom, ⟨.name, "a", .start⟩, [], ?_⟩, ⟨[_], rfl⟩⟩
      simp
  · exact .ok _

/-- Behind relations that were read, no further relation may come next. -/
theorem narrowed_relations {d : Option FromTree}
    (hs : Narrowed s [.fromWord, .whereWord, .endOfInput] (FromTree.tokens d ++ us))
    (h : readRelations ts = .ok (FromTree.meaning d, us)) :
    Narrowed (FromTree.exit s d) [.whereWord, .endOfInput] us := by
  intro s' hs'
  cases d with
  | none =>
    have hfrom : (current us).kind ≠ .fromWord := by
      cases us with
      | nil => decide
      | cons t us => exact (kind_behind_relations h t rfl).1 rfl
    exact (List.mem_cons.mp (hs s' hs')).resolve_left hfrom
  | some tree =>
    have hname : (current us).kind ≠ .name := by
      cases us with
      | nil => decide
      | cons t us => exact (kind_behind_relations h t rfl).2 (by simp [FromTree.meaning])
    rw [FromTree.exit, next?, if_neg hname] at hs'
    rcases kind_of_clause? hs' with hkind | hkind <;> simp [hkind]

/-- A condition that was read is the tokens of a tree, and no connective stands behind it. -/
theorem exists_of_readDisjunction {c : Condition} {hus : us.length < ts.length}
    (h : readDisjunction now ts = .ok (c, ⟨us, hus⟩)) :
    (∃ d : Derivation (.chain .or), ts = d.tokens ++ us) ∧
      Narrowed (.afterItem 0) [.whereWord, .endOfInput] us := by
  have hread : Reads now (.chain .or) ts [c] us := readDisjunction_eq_ok.mp ⟨hus, h⟩
  exact ⟨hread.exists_tokens, narrowed_afterItem hread.ends (by simp)⟩

/-- The error of the reader of the conditions is justified. -/
theorem justified_readWhere (hs : EndsClause s) (ts : List Token) :
    FailsOnly (Justified now s (fun front => ∃ clauses, front <+: WhereTree.tokens clauses) ts)
      (readWhere now ts) := by
  fun_induction readWhere now ts generalizing s with
  | case1 => exact .ok _
  | case2 t ts hkind e hread =>
    have hphrase : readPhrase now ts (.chain .or) = .error e := by
      rw [readPhrase, hread]
      rfl
    refine .error ((justified_readPhrase ts _ 0 e hphrase).behind
      (run_cons_of_next (hs.whereWord t hkind) []) ?_)
    rintro front ⟨d, hfront⟩
    refine ⟨[⟨t, hkind, d⟩], ?_⟩
    rw [WhereTree.tokens_cons]
    exact List.cons_prefix_cons.mpr ⟨rfl, hfront.trans (List.prefix_append ..)⟩
  | case3 t ts hkind condition rest hrest hread e hothers ih =>
    obtain ⟨⟨d, rfl⟩, -⟩ := exists_of_readDisjunction hread
    have hclause : s.run (t :: d.tokens) = some (.afterItem 0) :=
      (run_cons_of_next (hs.whereWord t hkind) _).trans (d.run_tokens 0)
    refine .error ((ih endsClause_afterItem e hothers).behind hclause ?_)
    rintro front ⟨clauses, hfront⟩
    refine ⟨⟨t, hkind, d⟩ :: clauses, ?_⟩
    rw [WhereTree.tokens_cons, List.cons_append]
    exact List.cons_prefix_cons.mpr ⟨rfl, (List.prefix_append_right_inj _).mpr hfront⟩
  | case4 => exact .ok _
  | case5 => exact .ok _

/-- Conditions that were read are the tokens of trees, and only the end of the input may come next.
-/
theorem exists_of_readWhere {conditions : List Condition} (hs : EndsClause s)
    (hts : Narrowed s [.whereWord, .endOfInput] ts)
    (h : readWhere now ts = .ok (conditions, us)) :
    ∃ clauses, ts = WhereTree.tokens clauses ++ us ∧
      Narrowed (WhereTree.exit s clauses) [.endOfInput] us := by
  fun_induction readWhere now ts generalizing s conditions us with
  | case1 =>
    obtain ⟨-, rfl⟩ := Prod.mk.inj (Except.ok.inj h)
    exact ⟨[], rfl, fun _ _ => List.mem_singleton_self _⟩
  | case2 | case3 => cases h
  | case4 t ts hkind condition rest hrest hread others rest' hothers ih =>
    obtain ⟨-, rfl⟩ := Prod.mk.inj (Except.ok.inj h)
    obtain ⟨⟨d, rfl⟩, hnarrowed⟩ := exists_of_readDisjunction hread
    obtain ⟨clauses, rfl, hlast⟩ := ih endsClause_afterItem hnarrowed hothers
    refine ⟨⟨t, hkind, d⟩ :: clauses, ?_, ?_⟩
    · rw [WhereTree.tokens_cons, List.cons_append, List.append_assoc]
    · cases clauses <;> exact hlast
  | case5 t ts hkind =>
    obtain ⟨-, rfl⟩ := Prod.mk.inj (Except.ok.inj h)
    exact ⟨[], rfl, fun s' hs' => (List.mem_cons.mp (hts s' hs')).resolve_left hkind⟩

/-! ## Bodies -/

/-- Whether some tokens begin a body. -/
def BodyTree.Begins (front : List Token) : Prop := ∃ d : BodyTree, front <+: d.tokens

theorem BodyTree.begins_nil : Begins [] :=
  ⟨⟨.star ⟨.star, "*", .start⟩ rfl, none, []⟩, List.nil_prefix⟩

/-- The error of the reader of bodies is justified, if the end of the input is marked. -/
theorem justified_readBody {text : String} (hend : ∃ t ∈ ts, t.kind = .endOfInput) :
    FailsOnly (Justified now .start BodyTree.Begins ts) (readBody now text ts) := by
  refine FailsOnly.bind ((justified_readProjection ts).mono fun e he => he.mono ?_) ?_
  · rintro _ rfl
    exact BodyTree.begins_nil
  rintro ⟨projection, us⟩ hprojection
  obtain ⟨p, rfl, rfl⟩ := exists_of_readProjection hprojection
  have hnarrowed := narrowed_projection hprojection
  have hrun := p.run_tokens
  refine FailsOnly.bind ?_ ?_
  · refine (justified_readRelations (fun _ => p.next?_exit) us).mono fun e he => he.behind hrun ?_
    rintro front ⟨r, hfront⟩
    refine ⟨⟨p, r, []⟩, (List.prefix_append_right_inj _).mpr ?_⟩
    exact hfront.trans (List.prefix_append ..)
  rintro ⟨relations, vs⟩ hrelations
  obtain ⟨r, rfl, rfl⟩ := exists_of_readRelations hrelations
  have hnarrowed := narrowed_relations hnarrowed hrelations
  have hrun' := FromTree.run_tokens (fun _ => p.next?_exit) r
  have hends := FromTree.endsClause_exit p.endsClause_exit r
  refine FailsOnly.bind ?_ ?_
  · refine (justified_readWhere hends vs).mono fun e he => ?_
    have hbehind : Justified now p.exit
        (fun front => ∃ clauses, front <+: FromTree.tokens r ++ WhereTree.tokens clauses)
        (FromTree.tokens r ++ vs) e := by
      refine he.behind hrun' ?_
      rintro front ⟨clauses, hfront⟩
      exact ⟨clauses, (List.prefix_append_right_inj _).mpr hfront⟩
    refine hbehind.behind hrun ?_
    rintro front ⟨clauses, hfront⟩
    exact ⟨⟨p, r, clauses⟩, (List.prefix_append_right_inj _).mpr hfront⟩
  rintro ⟨conditions, ws⟩ hconditions
  obtain ⟨clauses, rfl, hlast⟩ := exists_of_readWhere hends hnarrowed hconditions
  -- the mark for the end of the input is no token of the body
  let d : BodyTree := ⟨p, r, clauses⟩
  have hsplit : p.tokens ++ (FromTree.tokens r ++ (WhereTree.tokens clauses ++ ws)) =
      d.tokens ++ ws := by
    rw [BodyTree.tokens, List.append_assoc, List.append_assoc]
  rw [hsplit] at hend ⊢
  have hws : ws ≠ [] := by
    rintro rfl
    obtain ⟨t, ht, hkind⟩ := hend
    rw [List.append_nil] at ht
    exact kind_ne_endOfInput d.run_tokens d.endsClause_exit.ne_finished t ht hkind
  refine FailsOnly.bind ?_ ?_
  · intro e he
    have hchoose := justified_choose now hlast (absurd · hws) e he
    refine hchoose.behind d.run_tokens ?_
    rintro _ rfl
    exact ⟨d, by rw [List.append_nil]⟩
  · intro _ _
    split
    · exact .error trivial
    · exact .ok _

/-- A body is read up to the first token that is impossible: the tokens in front of an unexpected
one begin a body of the grammar, together with it they begin none, even with the end of the input
behind the body, and its kind is none of those that are reported as expected. -/
theorem Select.ofBody_unexpectedToken {now : DateTime} {text : String} {expected : List Kind}
    {found : Token} (h : Select.ofBody now text = .error (.unexpectedToken expected found)) :
    ∃ front rest, scan text = front ++ found :: rest ∧
      (∃ d : BodyTree, front <+: d.tokens) ∧
      (∀ (d : BodyTree) (last : Token), last.kind = .endOfInput →
        ¬ front ++ [found] <+: d.tokens ++ [last]) ∧
      found.kind ∉ expected := by
  obtain ⟨ts, place, hscan, -⟩ := exists_scan text
  have hend : ∃ t ∈ scan text, t.kind = .endOfInput := by
    rw [hscan]
    exact ⟨.atEnd place, by simp, rfl⟩
  obtain ⟨front, rest, s, hsplit, hfound, ⟨d, hfront⟩, hrun, hnext, hkind⟩ :=
    justified_readBody hend _ h
  refine ⟨front, rest.tail, ?_, ⟨d, hfront⟩, ?_, hkind⟩
  · cases rest with
    | nil =>
      -- the end of the input is marked behind every body
      obtain ⟨t, ht, hkind⟩ := hend
      rw [hsplit, List.append_nil] at ht
      exact absurd hkind (kind_ne_endOfInput d.run_tokens d.endsClause_exit.ne_finished t
        (hfront.subset ht))
    | cons t rest => rw [hsplit, hfound, current, List.tail_cons]
  · intro d last hlast
    exact not_prefix hrun hnext (d.run_tokens_end hlast)

/-- Inside a negation and a parenthesis, a text is no literal for an order. -/
theorem Select.ofBody_unexpectedToken_text :
    Select.ofBody leapDay "a from r where not (b = 1 or c < 'x')" = .error (.unexpectedToken
      [.integer, .yearFirstDate, .dayFirstDate, .clockWord] ⟨.singleQuoted, "'x'", ⟨1, 34⟩⟩) ∧
    ∃ front rest, scan "a from r where not (b = 1 or c < 'x')" =
        front ++ ⟨.singleQuoted, "'x'", ⟨1, 34⟩⟩ :: rest ∧
      (∃ d : BodyTree, front <+: d.tokens) ∧
      (∀ (d : BodyTree) (last : Token), last.kind = .endOfInput →
        ¬ front ++ [⟨.singleQuoted, "'x'", ⟨1, 34⟩⟩] <+: d.tokens ++ [last]) ∧
      Kind.singleQuoted ∉ [.integer, .yearFirstDate, .dayFirstDate, .clockWord] := by
  have h : Select.ofBody leapDay "a from r where not (b = 1 or c < 'x')" =
      .error (.unexpectedToken [.integer, .yearFirstDate, .dayFirstDate, .clockWord]
        ⟨.singleQuoted, "'x'", ⟨1, 34⟩⟩) := by cbv
  exact ⟨h, Select.ofBody_unexpectedToken h⟩

end ProfileQuery.Query
