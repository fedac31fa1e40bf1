import ProfileQuery.Proofs.Query.Clauses
import ProfileQuery.Proofs.Query.Greedy
import ProfileQuery.Proofs.Query.Scan

/-!
# The queries that are accepted

`BodyTree` is a tree of the grammar of query bodies. A body is accepted exactly when its tokens are
those of a tree, its integers and dates can be read, and a star does not stand without relations;
the query is made of the trees that no other tree of the same tokens surpasses in how far each `not`
extends (`Select.ofBody_eq_ok_iff_query`). Here the parts of a query are made by the functions that
read them.
-/

namespace ProfileQuery.Query

open Calendar (DateTime)

/-! ## Trees of bodies -/

/-- A star, or one or more columns. -/
inductive ProjectionTree where
  | star (mark : Token) (hmark : mark.kind = .star)
  | columns (first : Token) (others : List Token)
    (hkinds : ∀ t ∈ first :: others, t.kind ∈ columnKinds)

/-- The word `from` and one or more names. -/
structure FromTree where
  mark : Token
  mark_kind : mark.kind = .fromWord
  first : Token
  others : List Token
  names : ∀ t ∈ first :: others, t.kind = .name

/-- The word `where` and a disjunction. -/
structure WhereTree where
  mark : Token
  mark_kind : mark.kind = .whereWord
  condition : Derivation (.chain .or)

/-- A projection, perhaps relations, and any number of conditions. -/
structure BodyTree where
  projection : ProjectionTree
  relations : Option FromTree
  clauses : List WhereTree

namespace ProjectionTree

def tokens : ProjectionTree → List Token
  | star mark _ => [mark]
  | columns first others _ => first :: others

def meaning : ProjectionTree → Projection
  | star _ _ => .wildcard
  | columns first others _ => .columns ((first :: others).map (·.literal))

end ProjectionTree

namespace FromTree

def tokens : Option FromTree → List Token
  | none => []
  | some tree => tree.mark :: tree.first :: tree.others

def meaning : Option FromTree → List String
  | none => []
  | some tree => (tree.first :: tree.others).map (·.literal)

end FromTree

namespace WhereTree

def tokens (clauses : List WhereTree) : List Token :=
  clauses.flatMap fun clause => clause.mark :: clause.condition.tokens

def scopes (clauses : List WhereTree) : List Nat := clauses.flatMap (·.condition.scopes)

def conditions (now : DateTime) (clauses : List WhereTree) : List Condition :=
  clauses.flatMap (·.condition.conditions now)

end WhereTree

namespace BodyTree

/-- The tokens of a body. -/
def tokens (d : BodyTree) : List Token :=
  d.projection.tokens ++ (FromTree.tokens d.relations ++ WhereTree.tokens d.clauses)

/-- The number of tokens that each `not` of a body extends over, from left to right. -/
def scopes (d : BodyTree) : List Nat := WhereTree.scopes d.clauses

/-- The query that is made of a body. Several `where` clauses give their conjunction. -/
def query (now : DateTime) (d : BodyTree) : Select where
  projection := d.projection.meaning
  relations := FromTree.meaning d.relations
  condition := whereCondition (WhereTree.conditions now d.clauses)

/-- A star does not stand without relations. -/
def Named (d : BodyTree) : Prop := ¬ (d.projection.meaning = .wildcard ∧ d.relations = none)

/-- Each `not` extends as far to the right as it does in any tree of the same tokens. -/
def Farthest (d : BodyTree) : Prop :=
  ∀ d' : BodyTree, d'.tokens = d.tokens → List.Forall₂ (· ≤ ·) d'.scopes d.scopes

end BodyTree

/-! ## The conditions of a body -/

namespace WhereTree

variable {now : DateTime} {us : List Token} {clause : WhereTree} {clauses : List WhereTree}

theorem tokens_cons : tokens (clause :: clauses) =
    clause.mark :: (clause.condition.tokens ++ tokens clauses) := by
  simp [tokens]

theorem stops_tokens (clauses : List WhereTree) (h : Stops us) : Stops (tokens clauses ++ us) := by
  cases clauses with
  | nil => exact h
  | cons clause clauses =>
    rintro t ⟨⟩
    exact .inr (.inl clause.mark_kind)

theorem reaches_cons : reaches us (tokens (clause :: clauses)) =
    reaches (tokens clauses ++ us) clause.condition.tokens ++ reaches us (tokens clauses) := by
  rw [tokens_cons, reaches_cons_of_ne (by simp [clause.mark_kind]), reaches_append]

theorem scopes_le_reaches (clauses : List WhereTree) (us : List Token) :
    List.Forall₂ (· ≤ ·) (scopes clauses) (reaches us (tokens clauses)) := by
  induction clauses with
  | nil => exact .nil
  | cons clause clauses ih =>
    rw [reaches_cons]
    exact List.rel_append (clause.condition.scopes_le_reaches _) ih

/-- Each `not` of the clauses extends as far as it can. -/
def Far (clauses : List WhereTree) (us : List Token) : Prop :=
  scopes clauses = reaches us (tokens clauses)

theorem far_cons : Far (clause :: clauses) us ↔
    clause.condition.Far (tokens clauses ++ us) ∧ Far clauses us := by
  rw [Far, reaches_cons]
  constructor
  · exact fun h => List.append_inj h (clause.condition.scopes_le_reaches _).length_eq
  · rintro ⟨hclause, hclauses⟩
    exact congrArg₂ (· ++ ·) hclause hclauses

theorem convertible_cons : Convertible now (tokens (clause :: clauses)) ↔
    Convertible now clause.condition.tokens ∧ Convertible now (tokens clauses) := by
  rw [tokens_cons, Query.convertible_cons (by rw [clause.mark_kind]; decide), convertible_append]

/-- Clauses in which each `not` extends as far as it can are read as what they mean. -/
theorem Far.readWhere (hfar : Far clauses us) (hconv : Convertible now (tokens clauses))
    (hstops : Stops us) (hwhere : ∀ t ∈ us.head?, t.kind ≠ .whereWord) :
    readWhere now (tokens clauses ++ us) = .ok (conditions now clauses, us) := by
  induction clauses with
  | nil => exact readWhere_done now hwhere
  | cons clause clauses ih =>
    obtain ⟨hclause, hclauses⟩ := far_cons.mp hfar
    obtain ⟨hconv, hconv'⟩ := convertible_cons.mp hconv
    have hread := hclause.reads ((stops_tokens clauses hstops).ends _) hconv
    obtain ⟨c, hc⟩ := clause.condition.conditions_single now fun _ => Phrase.noConfusion
    rw [hc] at hread
    rw [tokens_cons, List.cons_append, List.append_assoc, conditions, List.flatMap_cons, hc]
    exact readWhere_cons clause.mark_kind hread (ih hclauses hconv')

/-- What is read of clauses is the meaning of trees in which each `not` extends as far as it can. -/
theorem exists_far_of_readWhere {ts : List Token} {cs : List Condition}
    (h : Query.readWhere now ts = .ok (cs, us)) (hstops : Stops us) :
    ∃ clauses, ts = tokens clauses ++ us ∧ conditions now clauses = cs ∧
      Convertible now (tokens clauses) ∧ Far clauses us := by
  induction cs generalizing ts with
  | nil =>
    obtain ⟨rfl, -⟩ | ⟨_, _, _, _, _, _, _, heq, _⟩ := readWhere_eq_ok h
    · exact ⟨[], rfl, rfl, fun _ ht => absurd ht List.not_mem_nil, rfl⟩
    · cases heq
  | cons c cs ih =>
    obtain ⟨-, heq⟩ | ⟨mark, rest, c', others, mid, hmark, rfl, heq, hread, hothers⟩ :=
      readWhere_eq_ok h
    · cases heq
    · obtain ⟨rfl, rfl⟩ := List.cons.inj heq
      obtain ⟨clauses, rfl, hcs, hconv', hfar⟩ := ih hothers
      have hfollows := (stops_tokens clauses hstops).follows
      obtain ⟨d, rfl, hc, hconv, hfar'⟩ := hread.exists_far hfollows
      refine ⟨⟨mark, hmark, d⟩ :: clauses, ?_, ?_, convertible_cons.mpr ⟨hconv, hconv'⟩,
        far_cons.mpr ⟨hfar', hfar⟩⟩
      · rw [tokens_cons, List.cons_append, List.append_assoc]
      · rw [conditions, List.flatMap_cons, hc]
        exact congrArg (c :: ·) hcs

/-- The tokens of clauses have trees in which each `not` extends as far as it can. -/
theorem exists_far (clauses : List WhereTree) (hconv : Convertible now (tokens clauses))
    (hstops : Stops us) : ∃ clauses', tokens clauses' = tokens clauses ∧ Far clauses' us := by
  induction clauses with
  | nil => exact ⟨[], rfl, rfl⟩
  | cons clause clauses ih =>
    obtain ⟨hconv, hconv'⟩ := convertible_cons.mp hconv
    obtain ⟨clauses', htokens, hfar⟩ := ih hconv'
    have hstops' := stops_tokens clauses' hstops
    obtain ⟨d, htokens', hfar'⟩ := clause.condition.exists_far hconv hstops'
    refine ⟨⟨clause.mark, clause.mark_kind, d⟩ :: clauses', ?_, far_cons.mpr ⟨hfar', hfar⟩⟩
    rw [tokens_cons, tokens_cons, htokens, htokens']

end WhereTree

/-! ## The projection and the relations of a body -/

section Clauses

variable {now : DateTime} {ts us : List Token}

theorem ProjectionTree.readProjection (d : ProjectionTree)
    (hus : ∀ t ∈ us.head?, t.kind ∉ columnKinds) :
    Query.readProjection (d.tokens ++ us) = .ok (d.meaning, us) := by
  cases d with
  | star mark hmark => exact readProjection_star hmark us
  | columns first others hkinds => exact readProjection_names hkinds hus

theorem exists_of_readProjection {projection : Projection}
    (h : readProjection ts = .ok (projection, us)) :
    ∃ d : ProjectionTree, ts = d.tokens ++ us ∧ d.meaning = projection := by
  obtain ⟨mark, hmark, rfl, rfl⟩ | ⟨first, others, hkinds, rfl, rfl⟩ := readProjection_eq_ok h
  · exact ⟨.star mark hmark, rfl, rfl⟩
  · exact ⟨.columns first others hkinds, rfl, rfl⟩

theorem FromTree.readRelations (d : Option FromTree) (hus : Stops us) :
    Query.readRelations (tokens d ++ us) = .ok (meaning d, us) := by
  have hkinds : ∀ t ∈ us.head?, t.kind ≠ .fromWord ∧ t.kind ≠ .name := by
    intro t ht
    rcases hus t ht with hkind | hkind | hkind <;> rw [hkind] <;> decide
  cases d with
  | none => exact readRelations_none fun t ht => (hkinds t ht).1
  | some tree => exact readRelations_names tree.mark_kind tree.names fun t ht => (hkinds t ht).2

theorem exists_of_readRelations {relations : List String}
    (h : readRelations ts = .ok (relations, us)) :
    ∃ d, ts = FromTree.tokens d ++ us ∧ FromTree.meaning d = relations := by
  obtain ⟨rfl, rfl⟩ | ⟨mark, first, others, hmark, hnames, rfl, rfl⟩ := readRelations_eq_ok h
  · exact ⟨none, rfl, rfl⟩
  · exact ⟨some ⟨mark, hmark, first, others, hnames⟩, rfl, rfl⟩

theorem FromTree.meaning_eq_nil_iff {d : Option FromTree} : meaning d = [] ↔ d = none := by
  cases d with
  | none => simp [meaning]
  | some tree => simp [meaning]

/-- What stands behind a projection is no column. -/
theorem FromTree.kind_notMem_columnKinds (d : Option FromTree) (hus : Stops us) :
    ∀ t ∈ (tokens d ++ us).head?, t.kind ∉ columnKinds := by
  intro t ht
  cases d with
  | none => rcases hus t ht with hkind | hkind | hkind <;> rw [hkind] <;> decide
  | some tree =>
    obtain rfl : tree.mark = t := Option.some.inj ht
    rw [tree.mark_kind]
    decide

/-- What a projection and relations consist of. -/
theorem kind_mem_front (p : ProjectionTree) (r : Option FromTree) :
    ∀ t ∈ p.tokens ++ FromTree.tokens r,
      t.kind ∈ [Kind.star, .qualifiedName, .name, .fromWord] := by
  intro t ht
  rcases List.mem_append.mp ht with ht | ht
  · cases p with
    | star mark hmark =>
      obtain rfl : t = mark := by simpa [ProjectionTree.tokens] using ht
      simp [hmark]
    | columns first others hkinds =>
      have hkind := hkinds t ht
      simp only [columnKinds, List.mem_cons, List.not_mem_nil, or_false] at hkind
      rcases hkind with hkind | hkind <;> simp [hkind]
  · cases r with
    | none => cases ht
    | some tree =>
      rcases List.mem_cons.mp ht with rfl | ht
      · simp [tree.mark_kind]
      · simp [tree.names t ht]

end Clauses

/-! ## Bodies -/

theorem eq_of_forall₂_le {ms ns : List Nat} (h : List.Forall₂ (· ≤ ·) ms ns)
    (h' : List.Forall₂ (· ≤ ·) ns ms) : ms = ns := by
  induction h with
  | nil => rfl
  | cons hle _ ih =>
    cases h' with
    | cons hge hrest => rw [Nat.le_antisymm hle hge, ih hrest]

namespace BodyTree

variable {now : DateTime} {text : String} {us : List Token} {d : BodyTree}

/-- In front of the conditions there are neither negations nor literals. -/
theorem kind_of_mem_front (d : BodyTree) :
    ∀ t ∈ d.projection.tokens ++ FromTree.tokens d.relations,
      t.kind ≠ .negation ∧ ¬ t.kind.IsChecked := by
  intro t ht
  have hkinds : ∀ kind ∈ [Kind.star, .qualifiedName, .name, .fromWord],
      kind ≠ .negation ∧ ¬ kind.IsChecked := by decide
  exact hkinds t.kind (kind_mem_front _ _ t ht)

theorem convertible_tokens :
    Convertible now d.tokens ↔ Convertible now (WhereTree.tokens d.clauses) := by
  rw [tokens, ← List.append_assoc, convertible_append]
  exact and_iff_right fun t ht hchecked => absurd hchecked (d.kind_of_mem_front t ht).2

theorem reaches_tokens (d : BodyTree) (us : List Token) :
    reaches us d.tokens = reaches us (WhereTree.tokens d.clauses) := by
  have hnone : ∀ rest, reaches rest (d.projection.tokens ++ FromTree.tokens d.relations) = [] :=
    fun rest => reaches_eq_nil fun t ht => (d.kind_of_mem_front t ht).1
  rw [tokens, ← List.append_assoc, reaches_append, hnone, List.nil_append]

/-- The tokens of a body have a tree in which each `not` extends as far as it can. -/
theorem exists_far (hconv : Convertible now d.tokens) (hstops : Stops us) :
    ∃ d' : BodyTree, d'.tokens = d.tokens ∧ (d'.Named ↔ d.Named) ∧ WhereTree.Far d'.clauses us := by
  obtain ⟨clauses, htokens, hfar⟩ :=
    WhereTree.exists_far d.clauses (convertible_tokens.mp hconv) hstops
  exact ⟨⟨d.projection, d.relations, clauses⟩, by rw [tokens, tokens, htokens], Iff.rfl, hfar⟩

/-- The trees that no other tree surpasses are those in which each `not` extends up to the end of
its parenthesis or its clause. -/
theorem farthest_iff (hconv : Convertible now d.tokens) (hstops : Stops us) :
    d.Farthest ↔ WhereTree.Far d.clauses us := by
  constructor
  · intro h
    obtain ⟨d', htokens, -, hfar⟩ := exists_far hconv hstops
    have hle := WhereTree.scopes_le_reaches d.clauses us
    have hreaches : reaches us (WhereTree.tokens d.clauses) = d'.scopes := by
      rw [← reaches_tokens, ← htokens, reaches_tokens, ← hfar, scopes]
    rw [hreaches] at hle
    rw [WhereTree.Far, hreaches]
    exact eq_of_forall₂_le hle (h d' htokens)
  · intro hfar d' htokens
    have hle := WhereTree.scopes_le_reaches d'.clauses us
    rwa [← reaches_tokens, htokens, reaches_tokens, ← hfar] at hle

/-- A body in which each `not` extends as far as it can is read as what it means. -/
theorem readBody_of_far {last : Token} (hlast : last.kind = .endOfInput)
    (hfar : WhereTree.Far d.clauses [last]) (hconv : Convertible now d.tokens) (hnamed : d.Named) :
    readBody now text (d.tokens ++ [last]) = .ok (d.query now) := by
  have hstops : Stops [last] := stops_of_endOfInput hlast
  have hstops' := WhereTree.stops_tokens d.clauses hstops
  have hconditions := hfar.readWhere (convertible_tokens.mp hconv) hstops (by
    rintro t ⟨⟩
    rw [hlast]
    exact Kind.noConfusion)
  have hrelations := FromTree.readRelations d.relations hstops'
  have hprojection :=
    d.projection.readProjection (FromTree.kind_notMem_columnKinds d.relations hstops')
  have hnamed' : ¬ (d.projection.meaning = .wildcard ∧ FromTree.meaning d.relations = []) := by
    rwa [FromTree.meaning_eq_nil_iff]
  rw [tokens, List.append_assoc, List.append_assoc]
  exact readBody_eq_ok.mpr ⟨_, _, _, last, [], hprojection, hrelations, hconditions, hlast, hnamed',
    rfl⟩

/-- What is read of a body is the meaning of a tree in which each `not` extends as far as it can. -/
theorem exists_of_readBody {ts : List Token} {q : Select} (h : readBody now text ts = .ok q) :
    ∃ (d : BodyTree) (last : Token) (rest : List Token), last.kind = .endOfInput ∧
      ts = d.tokens ++ last :: rest ∧ Convertible now d.tokens ∧ d.Named ∧
      WhereTree.Far d.clauses (last :: rest) ∧ d.query now = q := by
  obtain ⟨us, vs, conditions, last, rest, hprojection, hrelations, hconditions, hlast, hnamed,
    hcondition⟩ := readBody_eq_ok.mp h
  have hstops : Stops (last :: rest) := by
    rintro t ⟨⟩
    exact .inr (.inr hlast)
  obtain ⟨p, rfl, hp⟩ := exists_of_readProjection hprojection
  obtain ⟨r, rfl, hr⟩ := exists_of_readRelations hrelations
  obtain ⟨clauses, rfl, rfl, hconv, hfar⟩ := WhereTree.exists_far_of_readWhere hconditions hstops
  refine ⟨⟨p, r, clauses⟩, last, rest, hlast, ?_, convertible_tokens.mpr hconv, ?_, hfar, ?_⟩
  · rw [tokens, List.append_assoc, List.append_assoc]
  · rwa [← hp, ← hr, FromTree.meaning_eq_nil_iff] at hnamed
  · rw [query, hp, hr, hcondition]

end BodyTree

/-- Where the end of the input is marked once only, a mark of it is the last token. -/
theorem eq_of_append_end {ts us rest : List Token} {final last : Token}
    (hkinds : ∀ t ∈ ts, t.kind ≠ .endOfInput) (hlast : last.kind = .endOfInput)
    (h : ts ++ [final] = us ++ last :: rest) : us = ts ∧ last = final ∧ rest = [] := by
  rcases List.eq_nil_or_concat' rest with rfl | ⟨front, t, rfl⟩
  · obtain ⟨hts, hfinal⟩ := List.append_inj' h rfl
    exact ⟨hts.symm, (List.singleton_inj.mp hfinal).symm, rfl⟩
  · rw [← List.cons_append, ← List.append_assoc] at h
    obtain ⟨hts, -⟩ := List.append_inj' h rfl
    have hmem : last ∈ ts := hts ▸ List.mem_append_right us List.mem_cons_self
    exact absurd hlast (hkinds last hmem)

/-- A body is accepted exactly when the tokens in front of the end of the input are those of a tree
of the grammar, its integers and dates can be read, and a star does not stand without relations. The
query is made of that tree in which each `not` extends as far to the right as in any other. -/
theorem Select.ofBody_eq_ok_iff_query (now : DateTime) (text : String) :
    ((∃ q, Select.ofBody now text = .ok q) ↔
      ∃ d : BodyTree, d.tokens = (scan text).dropLast ∧ Convertible now d.tokens ∧ d.Named) ∧
    ∀ q, Select.ofBody now text = .ok q ↔
      ∃ d : BodyTree, d.tokens = (scan text).dropLast ∧ Convertible now d.tokens ∧ d.Named ∧
        d.Farthest ∧ d.query now = q := by
  obtain ⟨ts, place, hscan, hkinds⟩ := exists_scan text
  have hstops : Stops [Token.atEnd place] := by
    rintro t ⟨⟩
    exact .inr (.inr rfl)
  have hdrop : (scan text).dropLast = ts := by rw [hscan, List.dropLast_concat]
  have hbody : ∀ q, Select.ofBody now text = .ok q ↔
      ∃ d : BodyTree, d.tokens = ts ∧ Convertible now d.tokens ∧ d.Named ∧
        d.Farthest ∧ d.query now = q := by
    intro q
    rw [Select.ofBody, hscan]
    constructor
    · intro h
      obtain ⟨d, last, rest, hlast, hts, hconv, hnamed, hfar, hq⟩ := BodyTree.exists_of_readBody h
      obtain ⟨rfl, rfl, rfl⟩ := eq_of_append_end hkinds hlast hts
      exact ⟨d, rfl, hconv, hnamed, (BodyTree.farthest_iff hconv hstops).mpr hfar, hq⟩
    · rintro ⟨d, rfl, hconv, hnamed, hfarthest, rfl⟩
      have hfar := (BodyTree.farthest_iff hconv hstops).mp hfarthest
      exact BodyTree.readBody_of_far rfl hfar hconv hnamed
  rw [hdrop]
  refine ⟨⟨?_, ?_⟩, hbody⟩
  · rintro ⟨q, hq⟩
    obtain ⟨d, htokens, hconv, hnamed, -⟩ := (hbody q).mp hq
    exact ⟨d, htokens, hconv, hnamed⟩
  · rintro ⟨d, rfl, hconv, hnamed⟩
    obtain ⟨d', htokens, hnamed', hfar⟩ := BodyTree.exists_far hconv hstops
    have hconv' : Convertible now d'.tokens := htokens ▸ hconv
    have hfarthest := (BodyTree.farthest_iff hconv' hstops).mpr hfar
    exact ⟨_, (hbody _).mpr ⟨d', htokens, hconv', hnamed'.mpr hnamed, hfarthest, rfl⟩⟩

end ProfileQuery.Query
