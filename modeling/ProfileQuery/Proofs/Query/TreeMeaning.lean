import ProfileQuery.Proofs.Query.CellLiteral
import ProfileQuery.Proofs.Query.Quoting

/-!
# What trees mean

The meaning of the trees of the grammar, told without the functions that read a query. A literal
denotes a text, a number or a moment (`Token.Denotes`). A chain of one condition means that
condition, and a longer one a junction (`Derivation.Means`); several clauses mean one conjunction
(`WhereTree.Mean`). What is read of the tokens of a text agrees with that (`BodyTree.means_iff`).
Main statement: a body is accepted exactly when its tokens are those of a tree in which all integers
and dates denote something and no star stands without relations, and it is read as the meaning of
the trees whose negations extend as far as in any other (`Select.ofBody_eq_ok_iff`).
-/

namespace ProfileQuery.Query

open Calendar (DateSpelling DateTime)
open Text

/-! ## Literals -/

/-- What the characters between two quotes stand for: each for itself, but for a backslash in front
of a quote, which is left out. -/
inductive StandsFor (quote : Char) : List Char → List Char → Prop
  | nil : StandsFor quote [] []
  | quote {cs v} : StandsFor quote cs v → StandsFor quote ('\\' :: quote :: cs) (quote :: v)
  | other {c cs v} : (c = '\\' → cs.head? ≠ some quote) → StandsFor quote cs v →
      StandsFor quote (c :: cs) (c :: v)

/-- What a literal denotes: quoted characters the text they stand for, digits the number that is
written with them, a spelled date the moment that its parts name, and a word for the present moment
that moment. -/
inductive Token.Denotes (now : DateTime) (t : Token) : Value → Prop
  | text {quote : Char} {inner v : List Char} (kind : t.kind.quote? = some quote)
      (literal : t.literal.toList = quote :: inner ++ [quote]) (stands : StandsFor quote inner v) :
      Denotes now t (.text (String.ofList v))
  | integer {n : Int64} (w : Numeral) (kind : t.kind = .integer)
      (literal : t.literal.toList = w.text) (value : w.value = n.toInt) : Denotes now t (.integer n)
  | date {d : DateTime} (s : DateSpelling) (kind : t.kind = .yearFirstDate ∨ t.kind = .dayFirstDate)
      (literal : t.literal.toList = s.text) (names : s.parts.Names d) : Denotes now t (.date d)
  | clock (kind : t.kind = .clockWord) : Denotes now t (.date now)

/-! ## Trees -/

/-- What the trees of a phrase mean: one condition, or for the rest of a chain one for each item. -/
inductive Derivation.Means (now : DateTime) : {p : Phrase} → Derivation p → List Condition → Prop
  | alone {op : Connective} {first : Derivation op.item} {c : Condition} :
      first.Means now [c] → (chain op first (.done op)).Means now [c]
  | joined {op : Connective} {first : Derivation op.item} {others : Derivation (.more op)}
      {c : Condition} {cs : List Condition} :
      first.Means now [c] → others.Means now cs → cs ≠ [] →
      (chain op first others).Means now [.junction op (c :: cs)]
  | more {op : Connective} {mark : Token} {hmark : mark.kind = op.kind} {item : Derivation op.item}
      {others : Derivation (.more op)} {c : Condition} {cs : List Condition} :
      item.Means now [c] → others.Means now cs →
      (more op mark hmark item others).Means now (c :: cs)
  | done {op : Connective} : (done op).Means now []
  | negation {mark : Token} {hmark : mark.kind = .negation} {body : Derivation (.chain .or)}
      {c : Condition} : body.Means now [c] → (negation mark hmark body).Means now [.negation c]
  | parens {left right : Token} {hleft : left.kind = .leftParen} {body : Derivation (.chain .or)}
      {hright : right.kind = .rightParen} {c : Condition} :
      body.Means now [c] → (parens left hleft body right hright).Means now [c]
  | comparison {column operator literal : Token} {op : Operator}
      {hcolumn : column.kind = .qualifiedName ∨ column.kind = .name}
      {hoperator : operator.kind = .comparison}
      {hop : Operator.ofSymbol? operator.literal = some op} {hliteral : op.Takes literal.kind}
      {v : Value} : literal.Denotes now v →
      (comparison column operator literal op hcolumn hoperator hop hliteral).Means now
        [.comparison op column.literal v]

/-- What `where` clauses mean together: nothing, a condition, or one conjunction. -/
inductive WhereTree.Mean (now : DateTime) : List WhereTree → Option Condition → Prop
  | none : Mean now [] none
  | one {clause : WhereTree} {c : Condition} :
      clause.condition.Means now [c] → Mean now [clause] (some c)
  | several {clauses : List WhereTree} {cs : List Condition} :
      List.Forall₂ (fun clause c => clause.condition.Means now [c]) clauses cs →
      2 ≤ cs.length → Mean now clauses (some (.junction .and cs))

/-- The query that a body means. -/
structure BodyTree.Means (now : DateTime) (d : BodyTree) (q : Select) : Prop where
  projection : d.projection.meaning = q.projection
  relations : FromTree.meaning d.relations = q.relations
  condition : WhereTree.Mean now d.clauses q.condition

/-- Every integer and every date of a body denotes a value. -/
def BodyTree.Denoting (now : DateTime) (d : BodyTree) : Prop :=
  ∀ t ∈ d.tokens, t.kind.IsChecked → ∃ v, t.Denotes now v

/-! ## The values of literals -/

section Literals

variable {now : DateTime} {quote : Char} {cs v : List Char} {t : Token} {value : Value}

theorem standsFor_iff : StandsFor quote cs v ↔ unescape quote cs = v := by
  constructor
  · intro h
    induction h with
    | nil => rfl
    | quote _ ih => rw [unescape_quote, ih]
    | @other c cs v hc _ ih =>
      by_cases hslash : c = '\\'
      · rw [hslash, unescape_backslash (hc hslash), ih]
      · rw [unescape_plain hslash, ih]
  · rintro rfl
    induction cs using unescape.induct quote with
    | case1 => exact .nil
    | case2 c => exact .other (fun _ => nofun) .nil
    | case3 c d cs h ih =>
      obtain ⟨rfl, rfl⟩ := h
      rw [unescape_quote]
      exact .quote ih
    | case4 c d cs h ih =>
      rw [unescape, if_neg h]
      exact .other (fun hslash hquote => h ⟨hslash, Option.some.inj hquote⟩) ih

theorem Token.Denotes.literalValue (ht : Lexeme t.kind t.literal.toList) (h : t.Denotes now value) :
    literalValue now t = .ok value := by
  cases h with
  | text kind literal stands =>
    rw [literalValue_quoted kind, literal, unquote_quoted, standsFor_iff.mp stands]
  | integer w kind literal value =>
    have hread := readInteger_eq_ok_iff.mpr ⟨0, w, literal, value⟩
    simp only [Query.literalValue, kind, hread]
  | date s kind literal names =>
    rw [literalValue_date_eq kind, Value.ofCell, literal, trim_isEmpty s.hyphen_mem,
      s.readDateTime?_eq_some_iff.mpr names]
    rfl
  | clock kind => exact literalValue_clockWord kind (kind ▸ ht) now

theorem denotes_integer (hkind : t.kind = .integer) (ht : Lexeme t.kind t.literal.toList)
    (h : literalValue now t = .ok value) : t.Denotes now value := by
  obtain ⟨w, hw⟩ := exists_numeral (matches_integerShape hkind ht)
  simp only [literalValue, hkind, hw] at h
  split at h
  · next n hread =>
    obtain rfl := Except.ok.inj h
    obtain ⟨m, hm, rfl⟩ := Outcome.map_eq_ok.mp ((readInteger_text 0 w).symm.trans hread)
    obtain ⟨rfl, hmin, hmax⟩ := ranged_eq_ok_iff.mp hm
    exact .integer w hkind hw (Int64.toInt_ofInt_of_le hmin (Int.lt_add_one_of_le hmax)).symm
  · cases h

theorem denotes_date (hkind : t.kind = .yearFirstDate ∨ t.kind = .dayFirstDate)
    (ht : Lexeme t.kind t.literal.toList) (h : literalValue now t = .ok value) :
    t.Denotes now value := by
  obtain ⟨s, htext, -⟩ := exists_spelling ht hkind
  rw [literalValue_date_eq hkind, Value.ofCell, ← htext, trim_isEmpty s.hyphen_mem] at h
  cases hread : Calendar.readDateTime? now s.text with
  | none => simp [hread] at h
  | some d =>
    obtain rfl : Value.date d = value := by simpa [hread] using h
    exact .date s hkind htext.symm (s.readDateTime?_eq_some_iff.mp hread)

theorem denotes_quoted (hquote : t.kind.quote? = some quote) (ht : Lexeme t.kind t.literal.toList)
    (h : literalValue now t = .ok value) : t.Denotes now value := by
  obtain ⟨inner, hliteral, -⟩ := ht.exists_inside hquote
  rw [literalValue_quoted hquote, hliteral, unquote_quoted] at h
  obtain rfl := Except.ok.inj h
  exact .text hquote hliteral (standsFor_iff.mpr rfl)

theorem denotes_of_literalValue (ht : Lexeme t.kind t.literal.toList)
    (h : literalValue now t = .ok value) : t.Denotes now value := by
  cases hkind : t.kind with
  | integer => exact denotes_integer hkind ht h
  | doubleQuoted => exact denotes_quoted (congrArg Kind.quote? hkind) ht h
  | singleQuoted => exact denotes_quoted (congrArg Kind.quote? hkind) ht h
  | yearFirstDate => exact denotes_date (.inl hkind) ht h
  | dayFirstDate => exact denotes_date (.inr hkind) ht h
  | clockWord =>
    rw [literalValue_clockWord hkind (hkind ▸ ht)] at h
    obtain rfl := Except.ok.inj h
    exact .clock hkind
  | _ =>
    simp only [literalValue, hkind] at h
    cases h

/-- A token of a text is read as the value that it denotes. -/
theorem denotes_iff (ht : Lexeme t.kind t.literal.toList) :
    t.Denotes now value ↔ literalValue now t = .ok value :=
  ⟨fun h => h.literalValue ht, denotes_of_literalValue ht⟩

end Literals

/-! ## The meaning of trees -/

variable {now : DateTime}

/-- Every literal of a text denotes something exactly when it can be read. -/
theorem denoting_iff {ts : List Token} (hts : ∀ t ∈ ts, Lexeme t.kind t.literal.toList) :
    (∀ t ∈ ts, t.kind.IsChecked → ∃ v, t.Denotes now v) ↔ Convertible now ts :=
  forall₂_congr fun t ht => imp_congr_right fun _ => exists_congr fun _ => denotes_iff (hts t ht)

theorem combine_of_ne_nil {op : Connective} {c : Condition} {cs : List Condition} (h : cs ≠ []) :
    Condition.combine op (c :: cs) = .junction op (c :: cs) := by
  obtain ⟨c', cs, rfl⟩ := List.exists_cons_of_ne_nil h
  rfl

namespace Derivation

variable {p : Phrase} {cs : List Condition}

/-- What is read of the tokens of a tree is what the tree means. -/
theorem means_iff {d : Derivation p} (hlexeme : ∀ t ∈ d.tokens, Lexeme t.kind t.literal.toList) :
    d.Means now cs ↔ Convertible now d.tokens ∧ d.conditions now = cs := by
  induction d generalizing cs with
  | chain op first others ihfirst ihothers =>
    obtain ⟨hfirst, hothers⟩ := List.forall_mem_append.mp hlexeme
    rw [tokens, convertible_append, conditions]
    constructor
    · intro h
      cases h with
      | alone hc =>
        obtain ⟨hconv, hc⟩ := (ihfirst hfirst).mp hc
        exact ⟨⟨hconv, List.forall_mem_nil _⟩, by rw [hc]; rfl⟩
      | joined hc hcs hne =>
        obtain ⟨hconv, hc⟩ := (ihfirst hfirst).mp hc
        obtain ⟨hconv', hcs⟩ := (ihothers hothers).mp hcs
        refine ⟨⟨hconv, hconv'⟩, ?_⟩
        rw [hc, hcs, List.singleton_append, combine_of_ne_nil hne]
    · rintro ⟨⟨hconv, hconv'⟩, rfl⟩
      obtain ⟨c, hc⟩ := first.conditions_single now (item_ne_more op)
      have hmeans := (ihfirst hfirst).mpr ⟨hconv, hc⟩
      rw [hc, List.singleton_append]
      cases others with
      | done => exact .alone hmeans
      | more _ mark hmark item others =>
        have hne : (more op mark hmark item others).conditions now ≠ [] := by
          obtain ⟨c', hc'⟩ := item.conditions_single now (item_ne_more op)
          simp [hc']
        rw [combine_of_ne_nil hne]
        exact .joined hmeans ((ihothers hothers).mpr ⟨hconv', rfl⟩) hne
  | more op mark hmark item others ihitem ihothers =>
    obtain ⟨-, hlexeme⟩ := List.forall_mem_cons.mp hlexeme
    obtain ⟨hitem, hothers⟩ := List.forall_mem_append.mp hlexeme
    rw [tokens, convertible_cons (hmark ▸ op.not_isChecked_kind), convertible_append, conditions]
    constructor
    · intro h
      cases h with
      | more hc hcs =>
        obtain ⟨hconv, hc⟩ := (ihitem hitem).mp hc
        obtain ⟨hconv', hcs⟩ := (ihothers hothers).mp hcs
        exact ⟨⟨hconv, hconv'⟩, by rw [hc, hcs, List.singleton_append]⟩
    · rintro ⟨⟨hconv, hconv'⟩, rfl⟩
      obtain ⟨c, hc⟩ := item.conditions_single now (item_ne_more op)
      rw [hc, List.singleton_append]
      exact .more ((ihitem hitem).mpr ⟨hconv, hc⟩) ((ihothers hothers).mpr ⟨hconv', rfl⟩)
  | done op =>
    constructor
    · rintro ⟨⟩
      exact ⟨List.forall_mem_nil _, rfl⟩
    · rintro ⟨-, rfl⟩
      exact .done
  | negation mark hmark body ih =>
    obtain ⟨-, hbody⟩ := List.forall_mem_cons.mp hlexeme
    rw [tokens, convertible_cons (by rw [hmark]; decide), conditions]
    constructor
    · intro h
      cases h with
      | negation hc =>
        obtain ⟨hconv, hc⟩ := (ih hbody).mp hc
        exact ⟨hconv, by rw [hc]; rfl⟩
    · rintro ⟨hconv, rfl⟩
      obtain ⟨c, hc⟩ := body.conditions_single now fun _ => Phrase.noConfusion
      rw [hc]
      exact .negation ((ih hbody).mpr ⟨hconv, hc⟩)
  | parens left hleft body right hright ih =>
    obtain ⟨-, hlexeme⟩ := List.forall_mem_cons.mp hlexeme
    obtain ⟨hbody, -⟩ := List.forall_mem_append.mp hlexeme
    have hright' : Convertible now [right] :=
      (convertible_cons (by rw [hright]; decide)).mpr (List.forall_mem_nil _)
    rw [tokens, convertible_cons (by rw [hleft]; decide), convertible_append, conditions,
      and_iff_left hright']
    constructor
    · intro h
      cases h with
      | parens hc => exact (ih hbody).mp hc
    · rintro ⟨hconv, rfl⟩
      obtain ⟨c, hc⟩ := body.conditions_single now fun _ => Phrase.noConfusion
      rw [hc]
      exact .parens ((ih hbody).mpr ⟨hconv, hc⟩)
  | comparison column operator literal op hcolumn hoperator hop hliteral =>
    have hdenotes : ∀ v, literal.Denotes now v ↔ literalValue now literal = .ok v :=
      fun _ => denotes_iff (hlexeme literal (by simp))
    rw [tokens, conditions, convertible_cons (by rcases hcolumn with h | h <;> rw [h] <;> decide),
      convertible_cons (by rw [hoperator]; decide)]
    constructor
    · intro h
      cases h with
      | @comparison _ _ _ _ _ _ _ _ v hv =>
        have hvalue := (hdenotes v).mp hv
        refine ⟨List.forall_mem_singleton.mpr fun _ => ⟨v, hvalue⟩, ?_⟩
        rw [Token.value, hvalue]
    · rintro ⟨hconv, rfl⟩
      have hvalue := literalValue_of_takes hliteral (List.forall_mem_singleton.mp hconv)
      exact .comparison ((hdenotes _).mpr hvalue)

end Derivation

namespace WhereTree

variable {clauses : List WhereTree} {cs : List Condition} {condition : Option Condition}

/-- What is read of the tokens of clauses are the conditions that the clauses mean. -/
theorem forall₂_means_iff (hlexeme : ∀ t ∈ tokens clauses, Lexeme t.kind t.literal.toList) :
    List.Forall₂ (fun clause c => clause.condition.Means now [c]) clauses cs ↔
      Convertible now (tokens clauses) ∧ conditions now clauses = cs := by
  induction clauses generalizing cs with
  | nil =>
    rw [List.forall₂_nil_left_iff]
    exact ⟨fun h => ⟨List.forall_mem_nil _, h.symm⟩, fun h => h.2.symm⟩
  | cons clause clauses ih =>
    rw [tokens_cons] at hlexeme
    obtain ⟨-, hlexeme⟩ := List.forall_mem_cons.mp hlexeme
    obtain ⟨hclause, hclauses⟩ := List.forall_mem_append.mp hlexeme
    rw [convertible_cons, List.forall₂_cons_left_iff, conditions, List.flatMap_cons]
    constructor
    · rintro ⟨c, cs, hc, hcs, rfl⟩
      obtain ⟨hconv, hc⟩ := (Derivation.means_iff hclause).mp hc
      obtain ⟨hconv', hcs⟩ := (ih hclauses).mp hcs
      exact ⟨⟨hconv, hconv'⟩, by rw [hc, ← hcs]; rfl⟩
    · rintro ⟨⟨hconv, hconv'⟩, rfl⟩
      obtain ⟨c, hc⟩ := clause.condition.conditions_single now fun _ => Phrase.noConfusion
      exact ⟨c, conditions now clauses, (Derivation.means_iff hclause).mpr ⟨hconv, hc⟩,
        (ih hclauses).mpr ⟨hconv', rfl⟩, by rw [hc]; rfl⟩

theorem whereCondition_of_two_le (h : 2 ≤ cs.length) :
    whereCondition cs = some (.junction .and cs) := by
  match cs, h with
  | c :: c' :: cs, _ => rfl

/-- What is read of the tokens of clauses is what they mean together. -/
theorem mean_iff (hlexeme : ∀ t ∈ tokens clauses, Lexeme t.kind t.literal.toList) :
    Mean now clauses condition ↔
      Convertible now (tokens clauses) ∧ whereCondition (conditions now clauses) = condition := by
  have hmeans : ∀ cs, List.Forall₂ (fun clause c => clause.condition.Means now [c]) clauses cs ↔
      Convertible now (tokens clauses) ∧ conditions now clauses = cs :=
    fun _ => forall₂_means_iff hlexeme
  constructor
  · intro h
    cases h with
    | none => exact ⟨List.forall_mem_nil _, rfl⟩
    | one hc =>
      obtain ⟨hconv, hconditions⟩ := (hmeans _).mp (.cons hc .nil)
      exact ⟨hconv, by rw [hconditions]; rfl⟩
    | several hcs hlength =>
      obtain ⟨hconv, rfl⟩ := (hmeans _).mp hcs
      exact ⟨hconv, whereCondition_of_two_le hlength⟩
  · rintro ⟨hconv, rfl⟩
    have hforall := (hmeans _).mpr ⟨hconv, rfl⟩
    generalize conditions now clauses = cs at hforall
    cases hforall with
    | nil => exact .none
    | cons hc hrest =>
      cases hrest with
      | nil => exact .one hc
      | cons hc' hrest => exact .several (.cons hc (.cons hc' hrest)) (by simp)

end WhereTree

/-- What is read of the tokens of a body is the query that the body means. -/
theorem BodyTree.means_iff {d : BodyTree} {q : Select}
    (hlexeme : ∀ t ∈ d.tokens, Lexeme t.kind t.literal.toList) :
    d.Means now q ↔ Convertible now d.tokens ∧ d.query now = q := by
  have hclauses : ∀ t ∈ WhereTree.tokens d.clauses, Lexeme t.kind t.literal.toList :=
    fun t ht => hlexeme t (by simp [tokens, ht])
  rw [convertible_tokens]
  constructor
  · rintro ⟨hprojection, hrelations, hcondition⟩
    obtain ⟨hconv, hcondition⟩ := (WhereTree.mean_iff hclauses).mp hcondition
    exact ⟨hconv, by rw [query, hprojection, hrelations, hcondition]⟩
  · rintro ⟨hconv, rfl⟩
    exact ⟨rfl, rfl, (WhereTree.mean_iff hclauses).mpr ⟨hconv, rfl⟩⟩

/-- A body is accepted exactly when the tokens in front of the end of the input are those of a tree
of the grammar in which every integer and every date denotes a value, and a star does not stand
without relations. The query is what that tree means in which each `not` extends as far to the right
as in any other. -/
theorem Select.ofBody_eq_ok_iff (now : DateTime) (text : String) :
    ((∃ q, Select.ofBody now text = .ok q) ↔
      ∃ d : BodyTree, d.tokens = (scan text).dropLast ∧ d.Denoting now ∧ d.Named) ∧
    ∀ q, Select.ofBody now text = .ok q ↔
      ∃ d : BodyTree, d.tokens = (scan text).dropLast ∧ d.Denoting now ∧ d.Named ∧
        d.Farthest ∧ d.Means now q := by
  obtain ⟨haccepted, hquery⟩ := Select.ofBody_eq_ok_iff_query now text
  have hlexeme : ∀ d : BodyTree, d.tokens = (scan text).dropLast →
      ∀ t ∈ d.tokens, Lexeme t.kind t.literal.toList := by
    obtain ⟨ts, place, hscan, hkinds⟩ := exists_scan text
    rw [hscan, List.dropLast_concat]
    rintro d rfl t ht
    exact lexeme_of_mem_scan (hscan ▸ List.mem_append_left _ ht) (hkinds t ht)
  constructor
  · rw [haccepted]
    refine exists_congr fun d => and_congr_right fun htokens => and_congr_left fun _ => ?_
    exact (denoting_iff (hlexeme d htokens)).symm
  · intro q
    rw [hquery]
    refine exists_congr fun d => and_congr_right fun htokens => ?_
    have hdenoting : d.Denoting now ↔ Convertible now d.tokens := denoting_iff (hlexeme d htokens)
    have hmeans : d.Means now q ↔ Convertible now d.tokens ∧ d.query now = q :=
      BodyTree.means_iff (hlexeme d htokens)
    constructor
    · rintro ⟨hconv, hnamed, hfarthest, hq⟩
      exact ⟨hdenoting.mpr hconv, hnamed, hfarthest, hmeans.mpr ⟨hconv, hq⟩⟩
    · rintro ⟨hdenotes, hnamed, hfarthest, hq⟩
      exact ⟨hdenoting.mp hdenotes, hnamed, hfarthest, (hmeans.mp hq).2⟩

end ProfileQuery.Query
