import ProfileQuery.Proofs.Query.Alike
import ProfileQuery.Proofs.Query.RoundTrip

/-!
# Several conditions

What the reader takes as a condition, it takes to the same point and with the same meaning in front
of everything that ends a condition, and at every moment, as long as no clock word is in it
(`Reads.respell`). So parentheses around a condition change nothing. Main statement: several `where`
clauses are read as the query that one clause is read as, in which the conditions stand in
parentheses with `and` between them (`readBody_conjoined`).
-/

namespace ProfileQuery.Query

open Calendar (DateTime)

/-! ## The same tokens elsewhere and later -/

/-- Whether a token has its value at every moment. -/
def Steady (t : Token) : Prop := t.kind ≠ .clockWord ∧ Lexeme t.kind t.literal.toList

/-- A literal other than a clock word has the same value at every moment and at every place. -/
theorem literalValue_respell {now now' : DateTime} {t t' : Token} {value : Value} (h : Steady t)
    (hsame : t'.spelling = t.spelling) (hvalue : literalValue now t = .ok value) :
    literalValue now' t' = .ok value := by
  have halike := literalValue_spelling hsame now'
  rw [← literalValue_eq_of_lexeme h.1 (fun _ => h.2) now now', hvalue] at halike
  generalize literalValue now' t' = outcome at halike ⊢
  cases halike with
  | ok heq => rw [heq]

/-- Whether no connective follows in the second place that does not follow in the first. -/
def Closes (us rest : List Token) : Prop :=
  ∀ op : Connective, (∀ t ∈ us.head?, t.kind ≠ op.kind) → ∀ t ∈ rest.head?, t.kind ≠ op.kind

theorem Stops.closes {us rest : List Token} (h : Stops rest) : Closes us rest :=
  fun op _ => (h.ends (.chain op)).ne_kind

theorem Closes.append {us rest front front' : List Token} (h : Closes us rest)
    (hsame : front'.map Token.spelling = front.map Token.spelling) :
    Closes (front ++ us) (front' ++ rest) := by
  cases front with
  | nil =>
    obtain rfl := List.map_eq_nil_iff.mp hsame
    exact h
  | cons t front =>
    obtain ⟨t', front', rfl, ht, -⟩ := List.map_eq_cons_iff.mp hsame
    intro op hop u hu
    obtain rfl := Option.some.inj hu
    rw [show t'.kind = t.kind from congrArg Prod.fst ht]
    exact hop t rfl

/-- What is read of some tokens is read of the same tokens at every moment, and in front of all
others that do not continue it. -/
theorem Reads.respell {now : DateTime} {p : Phrase} {ts us : List Token} {cs : List Condition}
    (h : Reads now p ts cs us) : ∃ front, ts = front ++ us ∧
      ∀ (now' : DateTime) (front' rest : List Token),
        front'.map Token.spelling = front.map Token.spelling → (∀ t ∈ front, Steady t) →
        Closes us rest → Reads now' p (front' ++ rest) cs rest := by
  induction h with
  | chain _ _ ihitem ihmore =>
    obtain ⟨others, rfl, hothers⟩ := ihmore
    obtain ⟨first, rfl, hfirst⟩ := ihitem
    refine ⟨first ++ others, by simp, fun now' front' rest hsame hsteady hcloses => ?_⟩
    rw [List.map_append] at hsame
    obtain ⟨first', others', rfl, hsame, hsame'⟩ := List.map_eq_append_iff.mp hsame
    obtain ⟨hsteady, hsteady'⟩ := List.forall_mem_append.mp hsteady
    rw [List.append_assoc]
    exact .chain (hfirst now' _ _ hsame hsteady (hcloses.append hsame'))
      (hothers now' _ _ hsame' hsteady' hcloses)
  | @more op t _ _ _ _ _ hmark _ _ ihitem ihmore =>
    obtain ⟨others, rfl, hothers⟩ := ihmore
    obtain ⟨first, rfl, hfirst⟩ := ihitem
    refine ⟨t :: (first ++ others), by simp, fun now' front' rest hsame hsteady hcloses => ?_⟩
    obtain ⟨t', front', rfl, ht, hsame⟩ := List.map_eq_cons_iff.mp hsame
    rw [List.map_append] at hsame
    obtain ⟨first', others', rfl, hsame, hsame'⟩ := List.map_eq_append_iff.mp hsame
    obtain ⟨hsteady, hsteady'⟩ := List.forall_mem_append.mp (List.forall_mem_cons.mp hsteady).2
    rw [List.cons_append, List.append_assoc]
    exact .more ((congrArg Prod.fst ht).trans hmark)
      (hfirst now' _ _ hsame hsteady (hcloses.append hsame'))
      (hothers now' _ _ hsame' hsteady' hcloses)
  | @done op us hus =>
    refine ⟨[], rfl, fun now' front' rest hsame _ hcloses => ?_⟩
    obtain rfl := List.map_eq_nil_iff.mp hsame
    exact .done (hcloses op hus)
  | @negation t _ _ _ hmark _ ih =>
    obtain ⟨body, rfl, hbody⟩ := ih
    refine ⟨t :: body, rfl, fun now' front' rest hsame hsteady hcloses => ?_⟩
    obtain ⟨t', body', rfl, ht, hsame⟩ := List.map_eq_cons_iff.mp hsame
    exact .negation ((congrArg Prod.fst ht).trans hmark)
      (hbody now' _ _ hsame (List.forall_mem_cons.mp hsteady).2 hcloses)
  | @parens t _ _ u _ hopen _ hclose ih =>
    obtain ⟨body, rfl, hbody⟩ := ih
    refine ⟨t :: (body ++ [u]), by simp, fun now' front' rest hsame hsteady _ => ?_⟩
    obtain ⟨t', front', rfl, ht, hsame⟩ := List.map_eq_cons_iff.mp hsame
    rw [List.map_append] at hsame
    obtain ⟨body', last, rfl, hsame', hlast⟩ := List.map_eq_append_iff.mp hsame
    obtain ⟨u', _, rfl, hu, hnil⟩ := List.map_eq_cons_iff.mp hlast
    obtain rfl := List.map_eq_nil_iff.mp hnil
    have hclose' : u'.kind = .rightParen := (congrArg Prod.fst hu).trans hclose
    have hsteady := (List.forall_mem_append.mp (List.forall_mem_cons.mp hsteady).2).1
    rw [List.cons_append, List.append_assoc]
    -- whatever follows, the body ends in front of the parenthesis
    exact .parens ((congrArg Prod.fst ht).trans hopen)
      (hbody now' _ _ hsame' hsteady (stops_of_rightParen hclose').closes) hclose'
  | @comparison column operator literal _ _ _ hcolumn hoperator hop hliteral hvalue =>
    refine ⟨[column, operator, literal], rfl, fun now' front' rest hsame hsteady _ => ?_⟩
    obtain ⟨column', _, rfl, hc, hsame⟩ := List.map_eq_cons_iff.mp hsame
    obtain ⟨operator', _, rfl, ho, hsame⟩ := List.map_eq_cons_iff.mp hsame
    obtain ⟨literal', _, rfl, hl, hnil⟩ := List.map_eq_cons_iff.mp hsame
    obtain rfl := List.map_eq_nil_iff.mp hnil
    obtain ⟨hckind, hcliteral⟩ := Prod.mk.inj hc
    obtain ⟨hokind, holiteral⟩ := Prod.mk.inj ho
    rw [← hcliteral]
    refine .comparison (hckind ▸ hcolumn) (hokind ▸ hoperator) (holiteral ▸ hop) ?_
      (literalValue_respell (hsteady literal (by simp)) hl hvalue)
    rw [show literal'.kind = literal.kind from congrArg Prod.fst hl]
    exact hliteral

/-! ## Fronts and conditions -/

/-- A token without its place. -/
abbrev Spelling := Kind × String

/-- Some tokens that are a query body on their own: a projection and perhaps relations. -/
def IsFront (front : List Spelling) (projection : Projection) (relations : List String) : Prop :=
  ∃ (now : DateTime) (text : String), spelled text.toList = front ++ [(.endOfInput, "")] ∧
    Select.ofBody now text = .ok ⟨projection, relations, none⟩

/-- Some tokens, none of them a clock word, that are accepted in a query as its one condition. -/
structure IsCondition (part : List Spelling) (c : Condition) : Prop where
  kinds : ∀ s ∈ part, s.1 ≠ .whereWord ∧ s.1 ≠ .clockWord
  accepted : ∃ now text front projection relations, (∀ s ∈ front, s.1 ≠ .whereWord) ∧
    spelled text.toList = front ++ (.whereWord, "where") :: part ++ [(.endOfInput, "")] ∧
    Select.ofBody now text = .ok ⟨projection, relations, some c⟩

/-- Where two texts start with tokens that are not of a kind, and then one of the kind comes in each,
these are the same tokens. -/
theorem eq_of_first {kind : Kind} {xs ys xs' ys' : List Token} {x y : Token}
    (h : xs ++ x :: xs' = ys ++ y :: ys') (hxs : ∀ t ∈ xs, t.kind ≠ kind)
    (hys : ∀ t ∈ ys, t.kind ≠ kind) (hx : x.kind = kind) (hy : y.kind = kind) :
    xs = ys ∧ x :: xs' = y :: ys' := by
  have hxs' : (xs ++ x :: xs').takeWhile (fun t => decide (t.kind ≠ kind)) = xs :=
    takeWhile_append (by simpa using hxs) (by simp [hx])
  have hys' : (ys ++ y :: ys').takeWhile (fun t => decide (t.kind ≠ kind)) = ys :=
    takeWhile_append (by simpa using hys) (by simp [hy])
  have heq : xs = ys := by rw [← hxs', h, hys']
  exact ⟨heq, List.append_cancel_left (heq ▸ h)⟩

theorem kind_mem_of_spelling {ts : List Token} {ss : List Spelling} {P : Kind → Prop}
    (h : ts.map Token.spelling = ss) (hss : ∀ s ∈ ss, P s.1) : ∀ t ∈ ts, P t.kind := by
  intro t ht
  exact hss t.spelling (h ▸ List.mem_map_of_mem ht)

/-- The tokens in front of the end of the input of a text. -/
theorem exists_tokens {text : String} {ss : List Spelling}
    (h : spelled text.toList = ss ++ [(Kind.endOfInput, "")]) :
    ∃ (ts : List Token) (last : Token), scan text = ts ++ [last] ∧ ts.map Token.spelling = ss ∧
      last.kind = .endOfInput ∧
      ∀ t ∈ ts, t.kind ≠ .endOfInput ∧ Lexeme t.kind t.literal.toList := by
  obtain ⟨ts, place, hscan, hkinds⟩ := exists_scan text
  rw [spelled, ← scan, hscan, List.map_append] at h
  obtain ⟨hts, -⟩ := List.append_inj' h rfl
  refine ⟨ts, _, hscan, hts, rfl, fun t ht => ⟨hkinds t ht, ?_⟩⟩
  have hmem : t ∈ scan text := by
    rw [hscan]
    exact List.mem_append_left _ ht
  exact lexeme_of_mem_scan hmem (hkinds t ht)

theorem map_literal_of_spelling {ts us : List Token}
    (h : ts.map Token.spelling = us.map Token.spelling) :
    ts.map (·.literal) = us.map (·.literal) := by
  have := congrArg (List.map Prod.snd) h
  simpa [List.map_map, Function.comp_def, Token.spelling] using this

theorem ProjectionTree.respell (p : ProjectionTree) {ts : List Token}
    (h : ts.map Token.spelling = p.tokens.map Token.spelling) :
    ∃ p' : ProjectionTree, p'.tokens = ts ∧ p'.meaning = p.meaning := by
  cases p with
  | star mark hmark =>
    obtain ⟨t, us, rfl, ht, hnil⟩ := List.map_eq_cons_iff.mp h
    obtain rfl := List.map_eq_nil_iff.mp hnil
    exact ⟨.star t ((congrArg Prod.fst ht).trans hmark), rfl, rfl⟩
  | columns first others hkinds =>
    have hkinds' := kind_mem_of_spelling h (P := (· ∈ columnKinds)) (by
      intro s hs
      obtain ⟨t, ht, rfl⟩ := List.mem_map.mp hs
      exact hkinds t ht)
    have hliterals := map_literal_of_spelling h
    obtain ⟨t, us, rfl, -, -⟩ := List.map_eq_cons_iff.mp h
    exact ⟨.columns t us hkinds', rfl, congrArg Projection.columns hliterals⟩

theorem FromTree.respell (r : Option FromTree) {ts : List Token}
    (h : ts.map Token.spelling = (tokens r).map Token.spelling) :
    ∃ r', tokens r' = ts ∧ meaning r' = meaning r := by
  cases r with
  | none =>
    obtain rfl := List.map_eq_nil_iff.mp h
    exact ⟨none, rfl, rfl⟩
  | some tree =>
    obtain ⟨mark, us, rfl, hmark, hus⟩ := List.map_eq_cons_iff.mp h
    have hnames := kind_mem_of_spelling hus (P := (· = .name)) (by
      intro s hs
      obtain ⟨t, ht, rfl⟩ := List.mem_map.mp hs
      exact tree.names t ht)
    have hliterals := map_literal_of_spelling hus
    obtain ⟨first, others, rfl, -, -⟩ := List.map_eq_cons_iff.mp hus
    exact ⟨some ⟨mark, (congrArg Prod.fst hmark).trans tree.mark_kind, first, others, hnames⟩, rfl,
      hliterals⟩

/-- What is read in front of the conditions. -/
theorem exists_front {ts us vs : List Token} {projection : Projection} {relations : List String}
    (hprojection : readProjection ts = .ok (projection, us))
    (hrelations : readRelations us = .ok (relations, vs)) :
    ∃ (p : ProjectionTree) (r : Option FromTree), ts = p.tokens ++ FromTree.tokens r ++ vs ∧
      p.meaning = projection ∧ FromTree.meaning r = relations := by
  obtain ⟨p, rfl, hp⟩ := exists_of_readProjection hprojection
  obtain ⟨r, rfl, hr⟩ := exists_of_readRelations hrelations
  exact ⟨p, r, (List.append_assoc ..).symm, hp, hr⟩

/-- A front is read the same in front of everything that ends a condition. -/
theorem IsFront.reads {front : List Spelling} {projection : Projection} {relations : List String}
    (h : IsFront front projection relations) {ts rest : List Token}
    (hts : ts.map Token.spelling = front) (hrest : Stops rest) :
    ∃ us, readProjection (ts ++ rest) = .ok (projection, us) ∧
      readRelations us = .ok (relations, rest) := by
  obtain ⟨now, text, hspelled, hbody⟩ := h
  obtain ⟨alone, last, hscan, halone, -, hkinds⟩ := exists_tokens hspelled
  obtain ⟨us, vs, conditions, end', more, hprojection, hrelations, hwhere, hend, -, hcondition⟩ :=
    readBody_eq_ok.mp hbody
  obtain ⟨p, r, htokens, rfl, rfl⟩ := exists_front hprojection hrelations
  -- without a condition there is no clause
  obtain ⟨rfl, -⟩ | ⟨_, _, _, _, _, -, -, rfl, -⟩ := readWhere_eq_ok hwhere
  · rw [hscan] at htokens
    obtain ⟨rfl, -⟩ := eq_of_append_end (fun t ht => (hkinds t ht).1) hend htokens
    rw [← halone, List.map_append] at hts
    obtain ⟨ps, rs, rfl, hps, hrs⟩ := List.map_eq_append_iff.mp hts
    obtain ⟨p', rfl, hp⟩ := p.respell hps
    obtain ⟨r', rfl, hr⟩ := FromTree.respell r hrs
    refine ⟨FromTree.tokens r' ++ rest, ?_, hr ▸ FromTree.readRelations r' hrest⟩
    rw [List.append_assoc, ← hp]
    exact p'.readProjection (FromTree.kind_notMem_columnKinds r' hrest)
  · cases hcondition

/-- A front that is accepted is no star without relations. -/
theorem IsFront.named {front : List Spelling} {projection : Projection} {relations : List String}
    (h : IsFront front projection relations) : ¬ (projection = .wildcard ∧ relations = []) := by
  obtain ⟨now, text, -, hbody⟩ := h
  obtain ⟨_, _, _, _, _, -, -, -, -, hnamed, -⟩ := readBody_eq_ok.mp hbody
  exact hnamed

/-- A condition is read the same in front of everything that ends a condition. -/
theorem IsCondition.reads {part : List Spelling} {c : Condition} (h : IsCondition part c)
    (now : DateTime) {ts rest : List Token} (hts : ts.map Token.spelling = part)
    (hrest : Stops rest) : Reads now (.chain .or) (ts ++ rest) [c] rest := by
  obtain ⟨now', text, front, projection, relations, hfront, hspelled, hbody⟩ := h.accepted
  obtain ⟨alone, last, hscan, halone, hlast, hkinds⟩ := exists_tokens hspelled
  obtain ⟨before, more, rfl, hbefore, hmore⟩ := List.map_eq_append_iff.mp halone
  obtain ⟨mark, body, rfl, hmark, hpart⟩ := List.map_eq_cons_iff.mp hmore
  have hmark : mark.kind = .whereWord := congrArg Prod.fst hmark
  obtain ⟨us, vs, conditions, end', rest', hprojection, hrelations, hwhere, hend, -, hcondition⟩ :=
    readBody_eq_ok.mp hbody
  obtain ⟨p, r, htokens, -, -⟩ := exists_front hprojection hrelations
  rw [hscan, List.append_assoc, List.cons_append] at htokens
  have hnot : ∀ t ∈ body ++ [last], t.kind ≠ .whereWord := by
    refine List.forall_mem_append.mpr
      ⟨kind_mem_of_spelling hpart (P := (· ≠ .whereWord)) fun s hs => (h.kinds s hs).1, ?_⟩
    rintro t ht
    obtain rfl := List.mem_singleton.mp ht
    rw [hlast]
    decide
  have hfrontKinds : ∀ kind ∈ [Kind.star, .qualifiedName, .name, .fromWord],
      kind ≠ .whereWord := by decide
  obtain ⟨-, rfl⟩ | ⟨mark', mid, d, others, mid', hmark', rfl, rfl, hread, hothers⟩ :=
    readWhere_eq_ok hwhere
  · cases hcondition
  · -- the first clause starts at the first of the words, which is the only one
    obtain ⟨-, heq⟩ := eq_of_first htokens
      (kind_mem_of_spelling hbefore (P := (· ≠ .whereWord)) hfront)
      (fun t ht => hfrontKinds t.kind (kind_mem_front p r t ht)) hmark hmark'
    obtain ⟨rfl, rfl⟩ := List.cons.inj heq
    obtain ⟨body', hbody', hsame⟩ := hread.respell
    obtain ⟨rfl, rfl⟩ | ⟨mark', _, _, _, _, hmark', rfl, -⟩ := readWhere_eq_ok hothers
    · obtain ⟨rfl, -⟩ := eq_of_append_end
        (fun t ht => (hkinds t (by simp [ht])).1) hend hbody'
      obtain rfl : d = c := Option.some.inj hcondition
      refine hsame now ts rest (hts.trans hpart.symm) (fun t ht => ⟨?_, ?_⟩) hrest.closes
      · exact kind_mem_of_spelling hpart (P := (· ≠ .clockWord)) (fun s hs => (h.kinds s hs).2) t ht
      · exact (hkinds t (by simp [ht])).2
    · exact absurd hmark' (hnot mark' (by rw [hbody']; simp))

/-! ## Several conditions -/

/-- A `where` clause for each of some parts. -/
def clausesOf (parts : List (List Spelling)) : List Spelling :=
  parts.flatMap ((.whereWord, "where") :: ·)

/-- A part in parentheses. -/
def enclosed (part : List Spelling) : List Spelling :=
  (.leftParen, "(") :: part ++ [(.rightParen, ")")]

/-- Further parts in parentheses, each behind a word for `and`. -/
def furtherEnclosed (word : String) (parts : List (List Spelling)) : List Spelling :=
  parts.flatMap fun part => (.conjunction, word) :: enclosed part

/-- One `where` clause for all of some parts, which stand in parentheses with a word for `and` between
them. -/
def conjoinedClause (word : String) : List (List Spelling) → List Spelling
  | [] => []
  | part :: parts => (.whereWord, "where") :: enclosed part ++ furtherEnclosed word parts

section

variable {part : List Spelling} {parts : List (List Spelling)} {c : Condition}
  {cs : List Condition} {ts : List Token} {last : Token}

theorem stops_of_clausesOf (h : ts.map Token.spelling = clausesOf parts)
    (hlast : last.kind = .endOfInput) : Stops (ts ++ [last]) := by
  cases parts with
  | nil =>
    obtain rfl := List.map_eq_nil_iff.mp h
    exact stops_of_endOfInput hlast
  | cons part parts =>
    obtain ⟨mark, us, rfl, hmark, -⟩ := List.map_eq_cons_iff.mp h
    exact stops_of_whereWord (congrArg Prod.fst hmark)

/-- Several clauses are read one after another. -/
theorem readWhere_clausesOf (hparts : List.Forall₂ IsCondition parts cs) (now : DateTime)
    (hts : ts.map Token.spelling = clausesOf parts) (hlast : last.kind = .endOfInput) :
    readWhere now (ts ++ [last]) = .ok (cs, [last]) := by
  induction hparts generalizing ts with
  | nil =>
    obtain rfl := List.map_eq_nil_iff.mp hts
    exact readWhere_end now hlast
  | @cons part c parts cs hpart _ ih =>
    rw [clausesOf, List.flatMap_cons] at hts
    obtain ⟨mark, us, rfl, hmark, hus⟩ := List.map_eq_cons_iff.mp hts
    obtain ⟨body, more, rfl, hbody, hmore⟩ := List.map_eq_append_iff.mp hus
    rw [List.cons_append, List.append_assoc]
    exact readWhere_cons (congrArg Prod.fst hmark)
      (hpart.reads now hbody (stops_of_clausesOf hmore hlast)) (ih hmore)

/-- A condition in parentheses is read as an item, whatever follows. -/
theorem IsCondition.reads_enclosed (h : IsCondition part c) (now : DateTime)
    (hts : ts.map Token.spelling = enclosed part) (rest : List Token) :
    Reads now .unary (ts ++ rest) [c] rest := by
  obtain ⟨open', us, rfl, hopen, hus⟩ := List.map_eq_cons_iff.mp hts
  obtain ⟨body, close, rfl, hbody, hclose⟩ := List.map_eq_append_iff.mp hus
  obtain ⟨u, _, rfl, hu, hnil⟩ := List.map_eq_cons_iff.mp hclose
  obtain rfl := List.map_eq_nil_iff.mp hnil
  have hright : u.kind = .rightParen := congrArg Prod.fst hu
  rw [List.cons_append, List.append_assoc]
  exact .parens (congrArg Prod.fst hopen) (h.reads now hbody (stops_of_rightParen hright)) hright

theorem reads_furtherEnclosed (hparts : List.Forall₂ IsCondition parts cs) (now : DateTime)
    {word : String} (hts : ts.map Token.spelling = furtherEnclosed word parts)
    {rest : List Token} (hrest : Stops rest) : Reads now (.more .and) (ts ++ rest) cs rest := by
  induction hparts generalizing ts with
  | nil =>
    obtain rfl := List.map_eq_nil_iff.mp hts
    exact .done (hrest.ends (.more .and))
  | @cons part c parts cs hpart _ ih =>
    rw [furtherEnclosed, List.flatMap_cons] at hts
    obtain ⟨mark, us, rfl, hmark, hus⟩ := List.map_eq_cons_iff.mp hts
    obtain ⟨body, more, rfl, hbody, hmore⟩ := List.map_eq_append_iff.mp hus
    rw [List.cons_append, List.append_assoc]
    exact .more (congrArg Prod.fst hmark) (hpart.reads_enclosed now hbody _) (ih hmore)

/-- One clause for all parts is read as the conjunction of their conditions. -/
theorem readWhere_conjoinedClause (hparts : List.Forall₂ IsCondition parts cs) (hne : parts ≠ [])
    (now : DateTime) {word : String} (hts : ts.map Token.spelling = conjoinedClause word parts)
    (hlast : last.kind = .endOfInput) :
    readWhere now (ts ++ [last]) = .ok ([.combine .and cs], [last]) := by
  cases hparts with
  | nil => exact absurd rfl hne
  | @cons part c parts cs hpart hparts =>
    have hstops : Stops [last] := stops_of_endOfInput hlast
    obtain ⟨mark, us, rfl, hmark, hus⟩ := List.map_eq_cons_iff.mp hts
    obtain ⟨body, more, rfl, hbody, hmore⟩ := List.map_eq_append_iff.mp hus
    have hchain : Reads now (.chain .and) (body ++ (more ++ [last])) [.combine .and (c :: cs)]
        [last] :=
      .chain (hpart.reads_enclosed now hbody _) (reads_furtherEnclosed hparts now hmore hstops)
    have hdone : Reads now (.more .or) [last] [] [last] :=
      .done fun t ht => (hstops.ends (.more .or) t ht).2
    rw [List.cons_append, List.append_assoc]
    exact readWhere_cons (congrArg Prod.fst hmark) (.chain hchain hdone) (readWhere_end now hlast)

end

/-- A front with clauses behind it is read as a query for what the clauses mean. -/
theorem IsFront.readBody {front clauses : List Spelling} {projection : Projection}
    {relations : List String} {condition : Option Condition}
    (hfront : IsFront front projection relations) {now : DateTime}
    (hclauses : ∀ us last, us.map Token.spelling = clauses → last.kind = .endOfInput →
      ∃ conditions, readWhere now (us ++ [last]) = .ok (conditions, [last]) ∧
        Stops (us ++ [last]) ∧ whereCondition conditions = condition) {ts : List Token}
    (hts : ts.map Token.spelling = front ++ clauses ++ [(.endOfInput, "")]) (text : String) :
    readBody now text ts = .ok ⟨projection, relations, condition⟩ := by
  obtain ⟨body, ends, rfl, hbody, hends⟩ := List.map_eq_append_iff.mp hts
  obtain ⟨last, _, rfl, hlast, hnil⟩ := List.map_eq_cons_iff.mp hends
  obtain rfl := List.map_eq_nil_iff.mp hnil
  obtain ⟨before, us, rfl, hbefore, hus⟩ := List.map_eq_append_iff.mp hbody
  have hlast : last.kind = .endOfInput := congrArg Prod.fst hlast
  obtain ⟨conditions, hwhere, hstops, hcondition⟩ := hclauses us last hus hlast
  obtain ⟨mid, hprojection, hrelations⟩ := hfront.reads hbefore hstops
  rw [List.append_assoc]
  exact readBody_eq_ok.mpr ⟨mid, _, conditions, last, [], hprojection, hrelations, hwhere, hlast,
    hfront.named, hcondition⟩

/-- Several conditions, each of which is accepted on its own, are read as the same query when each of
them has its `where` clause and when they stand in one clause, in parentheses with `and` between
them; the query asks for their conjunction. For a single condition, parentheses change nothing. The
two may be read at different moments, and behind any front that is accepted on its own. -/
theorem readBody_conjoined {front : List Spelling} {projection : Projection}
    {relations : List String} {parts : List (List Spelling)} {cs : List Condition}
    (hfront : IsFront front projection relations) (hparts : List.Forall₂ IsCondition parts cs)
    (hne : parts ≠ []) {word : String} {ts ts' : List Token}
    (hts : ts.map Token.spelling = front ++ clausesOf parts ++ [(.endOfInput, "")])
    (hts' : ts'.map Token.spelling =
      front ++ conjoinedClause word parts ++ [(.endOfInput, "")])
    (now now' : DateTime) (text text' : String) :
    readBody now text ts = .ok ⟨projection, relations, some (.combine .and cs)⟩ ∧
      readBody now' text' ts' = .ok ⟨projection, relations, some (.combine .and cs)⟩ := by
  constructor
  · refine hfront.readBody (fun us last hus hlast => ?_) hts text
    refine ⟨cs, readWhere_clausesOf hparts now hus hlast, stops_of_clausesOf hus hlast, ?_⟩
    cases hparts with
    | nil => exact absurd rfl hne
    | cons _ _ => rfl
  · refine hfront.readBody (fun us last hus hlast => ?_) hts' text'
    refine ⟨_, readWhere_conjoinedClause hparts hne now' hus hlast, ?_, rfl⟩
    cases parts with
    | nil => exact absurd rfl hne
    | cons part parts =>
      obtain ⟨mark, _, rfl, hmark, -⟩ := List.map_eq_cons_iff.mp hus
      exact stops_of_whereWord (congrArg Prod.fst hmark)

/-! ## A query -/

/-- The tokens of `not a == 1 or b == 2`. -/
def openNegation : List Spelling :=
  [(.negation, "not"), (.name, "a"), (.comparison, "=="), (.integer, "1"), (.disjunction, "or"),
    (.name, "b"), (.comparison, "=="), (.integer, "2")]

/-- The tokens of `(b < 3)`. -/
def closedComparison : List Spelling :=
  [(.leftParen, "("), (.name, "b"), (.comparison, "<"), (.integer, "3"), (.rightParen, ")")]

/-- A negation that goes on to the end of its clause, and a comparison in parentheses. -/
theorem readBody_conjoined_scopes :
    readBody leapDay "" (scan "a from r where not a == 1 or b == 2 where (b < 3)") =
        readBody leapDay "" (scan "a from r where (not a == 1 or b == 2) and ((b < 3))") ∧
      readBody leapDay "" (scan "a from r where not a == 1 or b == 2 where (b < 3)") =
        .ok ⟨.columns ["a"], ["r"], some (.junction .and [
          .negation (.junction .or [.comparison .equal "a" (.integer 1),
            .comparison .equal "b" (.integer 2)]),
          .comparison .less "b" (.integer 3)])⟩ := by
  have hfront : IsFront [(.name, "a"), (.fromWord, "from"), (.name, "r")] (.columns ["a"]) ["r"] :=
    ⟨leapDay, "a from r", by cbv, by cbv⟩
  have hopen : IsCondition openNegation (.negation (.junction .or
      [.comparison .equal "a" (.integer 1), .comparison .equal "b" (.integer 2)])) :=
    ⟨by decide, leapDay, "a where not a == 1 or b == 2", [(.name, "a")], .columns ["a"], [],
      by decide, by cbv, by cbv⟩
  have hclosed : IsCondition closedComparison (.comparison .less "b" (.integer 3)) :=
    ⟨by decide, leapDay, "a where (b < 3)", [(.name, "a")], .columns ["a"], [], by decide, by cbv,
      by cbv⟩
  obtain ⟨hclauses, hclause⟩ := readBody_conjoined hfront (.cons hopen (.cons hclosed .nil))
    (by decide)
    (show (scan "a from r where not a == 1 or b == 2 where (b < 3)").map Token.spelling = _ by cbv)
    (show (scan "a from r where (not a == 1 or b == 2) and ((b < 3))").map Token.spelling =
      _ ++ conjoinedClause "and" _ ++ _ by cbv) leapDay leapDay "" ""
  exact ⟨hclauses.trans hclause.symm, hclauses⟩

end ProfileQuery.Query
