import ProfileQuery.Proofs.Query.Acceptance
import ProfileQuery.Proofs.Query.RoundTrip

/-!
# Where a body first goes wrong

`Stage` is the place in a body that some tokens lead to; it alone decides which token may come next
(`Stage.next?`). The tokens of every tree lead through to the end (`BodyTree.run_tokens`), so tokens
that lead nowhere begin no tree. Where a reader finds a token that it did not expect, the tokens in
front of it begin a tree, and from the place that they lead to the token leads nowhere.
-/

namespace ProfileQuery.Query

open Calendar (DateTime)
open Outcome (FailsOnly bind_eq_ok)

/-! ## Places in a body -/

/-- The places in a body; in a condition, `depth` parentheses are open. -/
inductive Stage where
  | start
  | afterStar
  | afterColumn
  | afterFrom
  | afterRelation
  /-- A condition starts. -/
  | unary (depth : Nat)
  | afterColumnOf (depth : Nat)
  | afterOperator (op : Operator) (depth : Nat)
  /-- A condition ends. -/
  | afterItem (depth : Nat)
  | finished

namespace Stage

/-- What a token of a kind leads to where a clause may end. -/
def clause? : Kind → Option Stage
  | .whereWord => some (unary 0)
  | .endOfInput => some finished
  | _ => none

theorem kind_of_clause? {kind : Kind} {s : Stage} (h : clause? kind = some s) :
    kind = .whereWord ∨ kind = .endOfInput := by
  unfold clause? at h
  split at h
  · exact .inl rfl
  · exact .inr rfl
  · cases h

/-- What a token leads to, if it may come next. -/
def next? (t : Token) : Stage → Option Stage
  | start =>
    if t.kind = .star then some afterStar
    else if t.kind ∈ columnKinds then some afterColumn
    else none
  | afterStar => if t.kind = .fromWord then some afterFrom else clause? t.kind
  | afterColumn =>
    if t.kind ∈ columnKinds then some afterColumn
    else if t.kind = .fromWord then some afterFrom
    else clause? t.kind
  | afterFrom => if t.kind = .name then some afterRelation else none
  | afterRelation => if t.kind = .name then some afterRelation else clause? t.kind
  | unary depth =>
    if t.kind = .negation then some (unary depth)
    else if t.kind = .leftParen then some (unary (depth + 1))
    else if t.kind ∈ columnKinds then some (afterColumnOf depth)
    else none
  | afterColumnOf depth =>
    if t.kind = .comparison then (Operator.ofSymbol? t.literal).map (afterOperator · depth)
    else none
  | afterOperator op depth => if t.kind ∈ literalKinds op then some (afterItem depth) else none
  | afterItem 0 =>
    if t.kind = .conjunction ∨ t.kind = .disjunction then some (unary 0) else clause? t.kind
  | afterItem (depth + 1) =>
    if t.kind = .conjunction ∨ t.kind = .disjunction then some (unary (depth + 1))
    else if t.kind = .rightParen then some (afterItem depth)
    else none
  | finished => none

/-- What some tokens lead to, one after another. -/
def run : Stage → List Token → Option Stage
  | s, [] => some s
  | s, t :: ts => (s.next? t).bind (run · ts)

theorem run_append (s : Stage) (ts us : List Token) :
    s.run (ts ++ us) = (s.run ts).bind (run · us) := by
  induction ts generalizing s with
  | nil => rfl
  | cons t ts ih =>
    simp only [List.cons_append, run, ih]
    cases s.next? t <;> rfl

theorem run_cons_of_next {s s' : Stage} {t : Token} (h : s.next? t = some s') (ts : List Token) :
    s.run (t :: ts) = s'.run ts := by
  rw [run, h]
  rfl

theorem run_append_of_run {s s' : Stage} {ts : List Token} (h : s.run ts = some s')
    (us : List Token) : s.run (ts ++ us) = s'.run us := by
  rw [run_append, h]
  rfl

theorem run_eq_self {s : Stage} {ts : List Token} (h : ∀ t ∈ ts, s.next? t = some s) :
    s.run ts = some s := by
  induction ts with
  | nil => rfl
  | cons t ts ih =>
    obtain ⟨ht, hts⟩ := List.forall_mem_cons.mp h
    rw [run_cons_of_next ht, ih hts]

/-- A token that leads nowhere does not stand in what leads somewhere. -/
theorem not_prefix {s s' s'' : Stage} {front ts : List Token} {t : Token}
    (hfront : s.run front = some s') (ht : s'.next? t = none) (hts : s.run ts = some s'') :
    ¬ front ++ [t] <+: ts := by
  rintro ⟨back, rfl⟩
  rw [List.append_assoc, run_append_of_run hfront, List.singleton_append, run, ht] at hts
  cases hts

theorem next?_of_endOfInput {s s' : Stage} {t : Token} (hkind : t.kind = .endOfInput)
    (h : s.next? t = some s') : s' = finished := by
  have hcolumn : Kind.endOfInput ∉ columnKinds := by decide
  have hliteral : ∀ op, Kind.endOfInput ∉ literalKinds op := by
    intro op
    cases op <;> decide
  have hclause : clause? .endOfInput = some finished := rfl
  cases s with
  | afterItem depth => cases depth <;> simp_all [next?]
  | _ => simp_all [next?]

/-- What the end of the input stands in leads to the end. -/
theorem kind_ne_endOfInput {s s' : Stage} {ts : List Token} (h : s.run ts = some s')
    (hs' : s' ≠ finished) : ∀ t ∈ ts, t.kind ≠ .endOfInput := by
  induction ts generalizing s with
  | nil => simp
  | cons t ts ih =>
    obtain ⟨mid, hmid, h⟩ := Option.bind_eq_some_iff.mp h
    refine List.forall_mem_cons.mpr ⟨?_, ih h⟩
    intro hkind
    obtain rfl := next?_of_endOfInput hkind hmid
    cases ts with
    | nil => exact hs' (Option.some.inj h).symm
    | cons u us => cases h

/-- Whether a clause may end at a place. -/
structure EndsClause (s : Stage) : Prop where
  whereWord : ∀ t : Token, t.kind = .whereWord → s.next? t = some (unary 0)
  endOfInput : ∀ t : Token, t.kind = .endOfInput → s.next? t = some finished

theorem endsClause_afterStar : EndsClause afterStar where
  whereWord t ht := by simp [next?, ht, clause?]
  endOfInput t ht := by simp [next?, ht, clause?]

theorem endsClause_afterColumn : EndsClause afterColumn where
  whereWord t ht := by simp [next?, ht, clause?, columnKinds]
  endOfInput t ht := by simp [next?, ht, clause?, columnKinds]

theorem endsClause_afterRelation : EndsClause afterRelation where
  whereWord t ht := by simp [next?, ht, clause?]
  endOfInput t ht := by simp [next?, ht, clause?]

theorem endsClause_afterItem : EndsClause (afterItem 0) where
  whereWord t ht := by simp [next?, ht, clause?]
  endOfInput t ht := by simp [next?, ht, clause?]

theorem EndsClause.ne_finished {s : Stage} (h : EndsClause s) : s ≠ finished := by
  rintro rfl
  exact nomatch h.endOfInput (.atEnd .start) rfl

end Stage

/-! ## The tokens of a tree lead through -/

open Stage

/-- The place at which a phrase starts. -/
def Phrase.entry (depth : Nat) : Phrase → Stage
  | .more _ => .afterItem depth
  | .chain _ | .unary => .unary depth

theorem Connective.entry_item (op : Connective) (depth : Nat) :
    op.item.entry depth = .unary depth := by
  cases op <;> rfl

theorem Connective.next?_afterItem {op : Connective} {t : Token} (h : t.kind = op.kind)
    (depth : Nat) : (afterItem depth).next? t = some (.unary depth) := by
  have hkind : t.kind = .conjunction ∨ t.kind = .disjunction := by
    cases op
    · exact .inl h
    · exact .inr h
  cases depth with
  | zero => exact if_pos hkind
  | succ depth => exact if_pos hkind

theorem next?_rightParen {t : Token} (h : t.kind = .rightParen) (depth : Nat) :
    (afterItem (depth + 1)).next? t = some (afterItem depth) := by
  simp [next?, h]

theorem next?_operator {t : Token} {op : Operator} (h : t.kind = .comparison)
    (hop : Operator.ofSymbol? t.literal = some op) (depth : Nat) :
    (afterColumnOf depth).next? t = some (afterOperator op depth) := by
  rw [next?, if_pos h, hop]
  rfl

theorem next?_column {t : Token} (h : t.kind = .qualifiedName ∨ t.kind = .name) (depth : Nat) :
    (Stage.unary depth).next? t = some (afterColumnOf depth) := by
  rcases h with h | h <;> simp [next?, h, columnKinds]

/-- The tokens of a condition lead from its start to its end. -/
theorem Derivation.run_tokens {p : Phrase} (d : Derivation p) (depth : Nat) :
    (p.entry depth).run d.tokens = some (.afterItem depth) := by
  induction d generalizing depth with
  | chain op first others ihfirst ihothers =>
    have hfirst := ihfirst depth
    rw [op.entry_item] at hfirst
    exact (run_append_of_run hfirst _).trans (ihothers depth)
  | more op mark hmark item others ihitem ihothers =>
    have hitem := ihitem depth
    rw [op.entry_item] at hitem
    calc (afterItem depth).run (mark :: (item.tokens ++ others.tokens))
        = (Stage.unary depth).run (item.tokens ++ others.tokens) :=
          run_cons_of_next (Connective.next?_afterItem hmark depth) _
      _ = (afterItem depth).run others.tokens := run_append_of_run hitem _
      _ = some (afterItem depth) := ihothers depth
  | done op => rfl
  | negation mark hmark body ih =>
    have hnext : (Stage.unary depth).next? mark = some (.unary depth) := if_pos hmark
    exact (run_cons_of_next hnext _).trans (ih depth)
  | parens left hleft body right hright ih =>
    have hnext : (Stage.unary depth).next? left = some (.unary (depth + 1)) := by
      simp [next?, hleft]
    calc (Stage.unary depth).run (left :: (body.tokens ++ [right]))
        = (Stage.unary (depth + 1)).run (body.tokens ++ [right]) := run_cons_of_next hnext _
      _ = (afterItem (depth + 1)).run [right] := run_append_of_run (ih (depth + 1)) _
      _ = some (afterItem depth) := run_cons_of_next (next?_rightParen hright depth) []
  | comparison column operator literal op hcolumn hoperator hop hliteral =>
    have hnext : (afterOperator op depth).next? literal = some (afterItem depth) :=
      if_pos (mem_literalKinds_iff.mpr hliteral)
    calc (Stage.unary depth).run [column, operator, literal]
        = (afterColumnOf depth).run [operator, literal] :=
          run_cons_of_next (next?_column hcolumn depth) _
      _ = (afterOperator op depth).run [literal] :=
          run_cons_of_next (next?_operator hoperator hop depth) _
      _ = some (afterItem depth) := run_cons_of_next hnext []

/-- The place behind a projection. -/
def ProjectionTree.exit : ProjectionTree → Stage
  | star _ _ => .afterStar
  | columns _ _ _ => .afterColumn

theorem ProjectionTree.run_tokens (d : ProjectionTree) : start.run d.tokens = some d.exit := by
  cases d with
  | star mark hmark =>
    have hnext : start.next? mark = some afterStar := if_pos hmark
    exact run_cons_of_next hnext []
  | columns first others hkinds =>
    obtain ⟨hfirst, hothers⟩ := List.forall_mem_cons.mp hkinds
    have hstar : first.kind ≠ .star := by
      intro heq
      rw [heq] at hfirst
      exact absurd hfirst (by decide)
    have hnext : start.next? first = some afterColumn := by
      rw [next?, if_neg hstar, if_pos hfirst]
    exact (run_cons_of_next hnext others).trans (run_eq_self fun t ht => if_pos (hothers t ht))

theorem ProjectionTree.endsClause_exit (d : ProjectionTree) : EndsClause d.exit := by
  cases d with
  | star => exact endsClause_afterStar
  | columns => exact endsClause_afterColumn

theorem ProjectionTree.next?_exit (d : ProjectionTree) {t : Token} (h : t.kind = .fromWord) :
    d.exit.next? t = some afterFrom := by
  cases d with
  | star => exact if_pos h
  | columns => simp [exit, next?, h, columnKinds]

/-- The place behind the relations, if there are any. -/
def FromTree.exit (s : Stage) : Option FromTree → Stage
  | none => s
  | some _ => .afterRelation

theorem FromTree.run_tokens {s : Stage} (hs : ∀ t : Token, t.kind = .fromWord →
    s.next? t = some afterFrom) (d : Option FromTree) :
    s.run (tokens d) = some (exit s d) := by
  cases d with
  | none => rfl
  | some tree =>
    obtain ⟨hfirst, hothers⟩ := List.forall_mem_cons.mp tree.names
    have hnext : afterFrom.next? tree.first = some afterRelation := if_pos hfirst
    calc s.run (tree.mark :: tree.first :: tree.others)
        = afterFrom.run (tree.first :: tree.others) :=
          run_cons_of_next (hs tree.mark tree.mark_kind) _
      _ = afterRelation.run tree.others := run_cons_of_next hnext _
      _ = some afterRelation := run_eq_self fun t ht => if_pos (hothers t ht)

theorem FromTree.endsClause_exit {s : Stage} (h : EndsClause s) (d : Option FromTree) :
    EndsClause (exit s d) := by
  cases d with
  | none => exact h
  | some tree => exact endsClause_afterRelation

/-- The place behind the conditions, if there are any. -/
def WhereTree.exit (s : Stage) : List WhereTree → Stage
  | [] => s
  | _ :: _ => .afterItem 0

theorem WhereTree.run_tokens {s : Stage} (hs : EndsClause s) (clauses : List WhereTree) :
    s.run (tokens clauses) = some (exit s clauses) := by
  induction clauses generalizing s with
  | nil => rfl
  | cons clause clauses ih =>
    have hcondition : (Stage.unary 0).run clause.condition.tokens = some (afterItem 0) :=
      clause.condition.run_tokens 0
    have hexit : exit (afterItem 0) clauses = afterItem 0 := by cases clauses <;> rfl
    rw [tokens_cons, run_cons_of_next (hs.whereWord _ clause.mark_kind),
      run_append_of_run hcondition, ih endsClause_afterItem, hexit]
    rfl

theorem WhereTree.endsClause_exit {s : Stage} (h : EndsClause s) (clauses : List WhereTree) :
    EndsClause (exit s clauses) := by
  cases clauses with
  | nil => exact h
  | cons clause clauses => exact endsClause_afterItem

namespace BodyTree

/-- The place behind a body. -/
def exit (d : BodyTree) : Stage :=
  WhereTree.exit (FromTree.exit d.projection.exit d.relations) d.clauses

theorem endsClause_exit (d : BodyTree) : EndsClause d.exit :=
  WhereTree.endsClause_exit (FromTree.endsClause_exit d.projection.endsClause_exit _) _

/-- The tokens of a body lead from its start to its end. -/
theorem run_tokens (d : BodyTree) : start.run d.tokens = some d.exit := by
  have hrelations := FromTree.run_tokens (fun _ => d.projection.next?_exit) d.relations
  have hends := FromTree.endsClause_exit d.projection.endsClause_exit d.relations
  rw [tokens, run_append_of_run d.projection.run_tokens, run_append_of_run hrelations,
    WhereTree.run_tokens hends]
  rfl

theorem run_tokens_end (d : BodyTree) {last : Token} (hlast : last.kind = .endOfInput) :
    start.run (d.tokens ++ [last]) = some finished := by
  rw [run_append_of_run d.run_tokens]
  exact run_cons_of_next (d.endsClause_exit.endOfInput last hlast) []

end BodyTree

end ProfileQuery.Query
