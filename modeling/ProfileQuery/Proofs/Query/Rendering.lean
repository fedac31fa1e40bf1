import ProfileQuery.Proofs.Query.Grammar
import ProfileQuery.Proofs.Query.Literal
import ProfileQuery.Proofs.Query.Origin
import ProfileQuery.Proofs.Query.Rereading
import ProfileQuery.Query.Reader

/-!
# Reading what is written for a condition

A condition that was read, all of its literals integers or dates, is written as a text that reads
again: as the condition that `reread` names (`reads_render`).
-/

namespace ProfileQuery.Query

open Calendar (DateTime)
open Shape
open Text (isBlank isDigit)

/-! ## Words and symbols -/

/-- A word without a hyphen, in front of a space. -/
theorem spelled_word {kind : Kind} {w : List Char} (more : List Char)
    (hfirst : firstToken w = (kind, w.length))
    (hstart : w.head?.any (fun c => !isBlank c && c != '"' && c != '\'') = true)
    (hhyphen : '-' ∉ w) :
    spelled (w ++ ' ' :: more) = (kind, String.ofList w) :: spelled more := by
  cases w with
  | nil => cases hstart
  | cons c w =>
    simp only [List.head?_cons, Option.any_some, Bool.and_eq_true, Bool.not_eq_true', bne_iff_ne,
      ne_eq] at hstart
    obtain ⟨⟨hblank, hdouble⟩, hsingle⟩ := hstart
    have hlexeme : Lexeme kind (c :: w) := ⟨hfirst, c, w, rfl, hblank⟩
    have hquiet : Quiet (c :: w) (' ' :: more) := Or.inr ⟨rfl, Or.inl hhyphen⟩
    rw [hlexeme.spelled_quiet (by simpa using hdouble) (by simpa using hsingle) hquiet,
      spelled_space]

theorem spelled_select (more : List Char) :
    spelled ("select".toList ++ ' ' :: more) = (.name, "select") :: spelled more :=
  spelled_word more (by decide +kernel) (by decide) (by decide)

theorem spelled_from (more : List Char) :
    spelled ("from".toList ++ ' ' :: more) = (.fromWord, "from") :: spelled more :=
  spelled_word more (by decide +kernel) (by decide) (by decide)

theorem spelled_where (more : List Char) :
    spelled ("where".toList ++ ' ' :: more) = (.whereWord, "where") :: spelled more :=
  spelled_word more (by decide +kernel) (by decide) (by decide)

theorem spelled_not (more : List Char) :
    spelled ("not".toList ++ ' ' :: more) = (.negation, "not") :: spelled more :=
  spelled_word more (by decide +kernel) (by decide) (by decide)

theorem spelled_connective (op : Connective) (more : List Char) :
    spelled (op.word.toList ++ ' ' :: more) = (op.kind, op.word) :: spelled more := by
  cases op with
  | and => exact spelled_word more (by decide +kernel) (by decide) (by decide)
  | or => exact spelled_word more (by decide +kernel) (by decide) (by decide)

theorem spelled_operator (op : Operator) (more : List Char) :
    spelled (op.symbol.toList ++ ' ' :: more) = (.comparison, op.symbol) :: spelled more := by
  cases op <;> exact spelled_word more (by decide +kernel) (by decide) (by decide)

theorem spelled_leftParen (more : List Char) :
    spelled ('(' :: more) = (.leftParen, "(") :: spelled more :=
  @spelled_token _ _ [] more rfl rfl

theorem spelled_rightParen (more : List Char) :
    spelled (')' :: more) = (.rightParen, ")") :: spelled more :=
  @spelled_token _ _ [] more rfl rfl

theorem spelled_star (more : List Char) : spelled ('*' :: more) = (.star, "*") :: spelled more :=
  @spelled_token _ _ [] more rfl rfl

/-! ## Names and literals -/

/-- What stands behind a part of a written condition: nothing, a closing parenthesis, or a space
that no time of day follows. -/
def Behind : List Char → Prop
  | [] => True
  | c :: rest => c = ')' ∨ (c = ' ' ∧ ∀ d ∈ rest.head?, startsTime d = false)

theorem Behind.quiet {literal more : List Char} (h : Behind more) (hopen : '(' ∉ literal) :
    Quiet literal more := by
  cases more with
  | nil => trivial
  | cons c rest =>
    rcases h with rfl | ⟨rfl, hrest⟩
    · exact .inl ⟨rfl, hopen⟩
    · exact .inr ⟨rfl, .inr hrest⟩

/-- A lexeme of a shape that uses neither quotes nor parentheses. -/
theorem Lexeme.spelled_behind {kind : Kind} {s : Shape} {literal more : List Char}
    (h : Lexeme kind literal) (hmatches : s.Matches literal)
    (hplain : (s.uses '"' || s.uses '\'' || s.uses '(') = false) (hmore : Behind more) :
    spelled (literal ++ more) = (kind, String.ofList literal) :: spelled more := by
  simp only [Bool.or_eq_false_iff] at hplain
  obtain ⟨⟨hdouble, hsingle⟩, hopen⟩ := hplain
  refine h.spelled_quiet ?_ ?_ (hmore.quiet (hmatches.not_mem hopen))
  · exact fun heq => hmatches.not_mem hdouble (List.mem_of_head? heq)
  · exact fun heq => hmatches.not_mem hsingle (List.mem_of_head? heq)

/-- The text of a token that names a column. -/
def IsColumn (column : String) : Prop := ∃ kind ∈ columnKinds, Lexeme kind column.toList

theorem Lexeme.spelled_name {kind : Kind} {name : String} (h : Lexeme kind name.toList)
    (hkind : kind ∈ columnKinds) {more : List Char} (hmore : Behind more) :
    spelled (name.toList ++ more) = (kind, name) :: spelled more := by
  simp only [columnKinds, List.mem_cons, List.not_mem_nil, or_false] at hkind
  rcases hkind with rfl | rfl
  · rw [h.spelled_behind (h.matches_rule (by decide) rfl) (by decide) hmore, String.ofList_toList]
  · rw [h.spelled_behind (h.matches_rule (by decide) rfl) (by decide) hmore, String.ofList_toList]

theorem spelled_integer (n : Int) {more : List Char} (hmore : Behind more) :
    spelled ((Text.writeInteger n).toList ++ more) =
      (.integer, Text.writeInteger n) :: spelled more := by
  have h := lexeme_integer n
  rw [h.spelled_behind (h.matches_rule (by decide) rfl) (by decide) hmore, String.ofList_toList]

/-- The text of a date is made of digits, hyphens, colons and a space. -/
theorem mem_dateText {d : DateTime} (h : d.Written) {c : Char} (hc : c ∈ d.text) :
    isDigit c = true ∨ c ∈ ['-', ':', ' '] := by
  have hpadded : ∀ {width n}, c ∈ Text.padded width n → isDigit c = true :=
    fun hmem => Text.isDigit_of_mem_padded hmem
  have htime : c ∈ d.timeText → isDigit c = true ∨ c ∈ ['-', ':', ' '] := by
    intro hmem
    unfold DateTime.timeText at hmem
    split at hmem
    · cases hmem
    · rw [Calendar.TimeOfDay.text_eq h.nanos] at hmem
      simp only [List.mem_cons, List.mem_append, List.not_mem_nil, or_false] at hmem ⊢
      rcases hmem with rfl | hmem | rfl | hmem | rfl | hmem
      · simp
      · exact .inl (hpadded hmem)
      · simp
      · exact .inl (hpadded hmem)
      · simp
      · exact .inl (hpadded hmem)
  -- year, month and day with their hyphens, then the time of day
  rw [DateTime.text_eq h] at hc
  rcases List.mem_append.mp hc with hmem | hc
  · exact .inl (hpadded hmem)
  rcases List.mem_cons.mp hc with rfl | hc
  · simp
  rcases List.mem_append.mp hc with hmem | hc
  · exact .inl (hpadded hmem)
  rcases List.mem_cons.mp hc with rfl | hc
  · simp
  rcases List.mem_append.mp hc with hmem | hc
  · exact .inl (hpadded hmem)
  · exact htime hc

theorem spelled_date {d : DateTime} (h : d.Written) {more : List Char} (hmore : Behind more) :
    spelled (d.text ++ more) = (.yearFirstDate, String.ofList d.text) :: spelled more := by
  have hnot : ∀ c, isDigit c = false → c ∉ ['-', ':', ' '] → c ∉ d.text := by
    intro c hdigit hmark hmem
    rcases mem_dateText h hmem with hc | hc
    · rw [hdigit] at hc
      cases hc
    · exact hmark hc
  have hdouble := hnot '"' (by decide) (by decide)
  have hsingle := hnot '\'' (by decide) (by decide)
  refine (lexeme_date h).spelled_quiet ?_ ?_ (hmore.quiet (hnot '(' (by decide) (by decide)))
  · exact fun heq => hdouble (List.mem_of_head? heq)
  · exact fun heq => hsingle (List.mem_of_head? heq)

/-! ## Conditions that were read -/

/-- A comparison of a column with a literal that is written as it was read. -/
structure Writable (op : Operator) (column : String) (value : Value) : Prop where
  plain : op.isPattern = false
  column : IsColumn column
  value : (∃ n, value = .integer n) ∨ ∃ d : DateTime, value = .date d ∧ d.Written

/-- A token of a scan that is neither quoted nor a clock word. -/
structure Plain (t : Token) : Prop where
  lexeme : t.kind ≠ .endOfInput → Lexeme t.kind t.literal.toList
  kind : t.kind ∉ [Kind.doubleQuoted, .singleQuoted, .clockWord]

theorem isColumn_of_plain {t : Token} (h : Plain t) (hkind : t.kind ∈ columnKinds) :
    IsColumn t.literal := by
  refine ⟨t.kind, hkind, h.lexeme ?_⟩
  intro heq
  rw [heq] at hkind
  exact absurd hkind (by decide)

theorem writable_of_plain {now : DateTime} {column literal : Token} {op : Operator}
    {value : Value} (hcolumn : column.kind ∈ columnKinds)
    (hliteral : literal.kind ∈ literalKinds op) (hvalue : literalValue now literal = .ok value)
    (hcolumn' : Plain column) (hliteral' : Plain literal) :
    Writable op column.literal value := by
  have hkind : op.isPattern = false ∧
      (literal.kind = .integer ∨ literal.kind = .yearFirstDate ∨ literal.kind = .dayFirstDate) := by
    have := hliteral'.kind
    unfold literalKinds at hliteral
    split at hliteral
    · next hpattern => simp_all
    · next hpattern =>
      refine ⟨by simpa using hpattern, ?_⟩
      split at hliteral <;> simp_all
  refine ⟨hkind.1, ?_, ?_⟩
  · exact isColumn_of_plain hcolumn' hcolumn
  · rcases hkind.2 with h | h
    · simp only [literalValue, h] at hvalue
      split at hvalue
      · next n _ => exact .inl ⟨n, (Except.ok.inj hvalue).symm⟩
      · cases hvalue
    · exact .inr (written_of_literalValue (hliteral'.lexeme (by rcases h with h | h <;> simp [h])) h
        hvalue)

/-! ## Reading the text of a condition -/

/-- The tokens of a text, wherever it stands. -/
def Spells (ts : List Token) (cs : List Char) : Prop := ts.map Token.spelling = spelled cs

theorem Spells.cons {ts : List Token} {cs more : List Char} {kind : Kind} {w : String}
    (hts : Spells ts cs) (h : spelled cs = (kind, w) :: spelled more) :
    ∃ place us, ts = ⟨kind, w, place⟩ :: us ∧ Spells us more := by
  unfold Spells at hts
  rw [h] at hts
  obtain ⟨⟨kind', w', place⟩, us, rfl, ht, hus⟩ := List.map_eq_cons_iff.mp hts
  obtain ⟨rfl, rfl⟩ := Prod.mk.inj ht
  exact ⟨place, us, rfl, hus⟩

theorem Spells.space {ts : List Token} {cs : List Char} (h : Spells ts (' ' :: cs)) :
    Spells ts cs := by
  unfold Spells at h
  rwa [spelled_space] at h

/-- What ends a written condition: the end of the text or a closing parenthesis. -/
def Closing : List Char → Prop
  | [] => True
  | c :: _ => c = ')'

theorem Closing.behind {more : List Char} (h : Closing more) : Behind more := by
  cases more with
  | nil => trivial
  | cons c rest => exact .inl h

/-- Nothing that ends a condition is a connective. -/
theorem Spells.kind_of_closing {ts : List Token} {more : List Char} (h : Spells ts more)
    (hclosing : Closing more) (op : Connective) : ∀ t ∈ ts.head?, t.kind ≠ op.kind := by
  cases more with
  | nil =>
    unfold Spells at h
    rw [spelled_nil] at h
    obtain ⟨t, us, rfl, ht, -⟩ := List.map_eq_cons_iff.mp h
    intro u hu
    obtain rfl : t = u := by simpa using hu
    rw [show t.kind = .endOfInput from congrArg Prod.fst ht]
    cases op <;> exact Kind.noConfusion
  | cons c rest =>
    obtain rfl : c = ')' := hclosing
    obtain ⟨place, us, rfl, -⟩ := h.cons (spelled_rightParen rest)
    intro u hu
    obtain rfl := Option.some.inj hu
    cases op <;> exact Kind.noConfusion

/-- Conditions that are read one after another, with a connective between them. -/
def ReadsItems (now : DateTime) (op : Connective) (ts : List Token) (cs : List Condition)
    (us : List Token) : Prop :=
  ∃ c others mid, cs = c :: others ∧ Reads now .unary ts [c] mid ∧
    Reads now (.more op) mid others us ∧ ∀ t ∈ mid.head?, t.kind = .conjunction → op = .and

theorem reads_item {now : DateTime} {op : Connective} {ts mid : List Token} {c : Condition}
    (h : Reads now .unary ts [c] mid) (hmid : ∀ t ∈ mid.head?, t.kind = .conjunction → op = .and) :
    Reads now op.item ts [c] mid := by
  cases op with
  | and => exact h
  | or =>
    have hdone : Reads now (.more .and) mid [] mid := .done fun t ht heq => by
      cases hmid t ht heq
    exact .chain h hdone

/-- The items stand behind one more connective. -/
theorem ReadsItems.more {now : DateTime} {op : Connective} {t : Token} {ts us : List Token}
    {cs : List Condition} (h : ReadsItems now op ts cs us) (ht : t.kind = op.kind) :
    Reads now (.more op) (t :: ts) cs us := by
  obtain ⟨c, others, mid, rfl, hfirst, hmore, hmid⟩ := h
  exact .more ht (reads_item hfirst hmid) hmore

/-- The items are a disjunction, or the only conjunction of one. -/
theorem ReadsItems.disjunction {now : DateTime} {op : Connective} {ts us : List Token}
    {cs : List Condition} (h : ReadsItems now op ts cs us)
    (hus : ∀ t ∈ us.head?, t.kind ≠ .disjunction) :
    Reads now (.chain .or) ts [.combine op cs] us := by
  obtain ⟨c, others, mid, rfl, hfirst, hmore, hmid⟩ := h
  have hchain := Reads.chain (reads_item hfirst hmid) hmore
  cases op with
  | or => exact hchain
  | and => exact .chain hchain (.done hus)

/-- The text of a condition is read as a whole, up to what ends it. -/
def RereadsWhole (now : DateTime) (c : Condition) : Prop :=
  ∀ ts more, Closing more → Spells ts (c.render.toList ++ more) →
    ∃ us, Spells us more ∧ Reads now (.chain .or) ts [c.reread] us

/-- The text of a condition is read as one item among others. -/
def RereadsUnary (now : DateTime) (c : Condition) : Prop :=
  ∀ ts more, Behind more → Spells ts (c.render.toList ++ more) →
    ∃ us, Spells us more ∧ Reads now .unary ts [c.reread] us

/-- The text of a condition is read as one item; of a negation, what is negated as a whole. -/
def Rereads (now : DateTime) : Condition → Prop
  | .negation child => RereadsWhole now child
  | c => RereadsUnary now c

/-- The text of further items, each after the connective. -/
def tailText (op : Connective) : List Condition → List Char
  | [] => []
  | children => ' ' :: (op.word.toList ++ ' ' :: (Condition.renderChildren op children).toList)

theorem toList_renderChildren (op : Connective) (child : Condition) (children : List Condition) :
    (Condition.renderChildren op (child :: children)).toList =
      child.render.toList ++ tailText op children := by
  cases children with
  | nil => simp [Condition.renderChildren, tailText]
  | cons next children => simp [Condition.renderChildren, tailText]

theorem behind_tailText (op : Connective) (children : List Condition) {more : List Char}
    (h : Closing more) : Behind (tailText op children ++ more) := by
  cases children with
  | nil => exact h.behind
  | cons child children =>
    refine .inr ⟨rfl, ?_⟩
    cases op with
    | and => rintro d ⟨⟩; rfl
    | or => rintro d ⟨⟩; rfl

/-- The text of several conditions is read item by item. -/
def RereadsItems (now : DateTime) (op : Connective) (children : List Condition) : Prop :=
  ∀ ts more, Closing more → Spells ts ((Condition.renderChildren op children).toList ++ more) →
    ∃ us, Spells us more ∧ ReadsItems now op ts (Condition.rereadChildren op children) us

/-- The text of further items is read item by item. -/
def RereadsTail (now : DateTime) (op : Connective) (children : List Condition) : Prop :=
  ∀ ts more, Closing more → Spells ts (tailText op children ++ more) →
    ∃ us, Spells us more ∧ Reads now (.more op) ts (Condition.rereadChildren op children) us ∧
      ∀ t ∈ ts.head?, t.kind = .conjunction → op = .and

/-- A condition in parentheses is read as one item. -/
theorem RereadsWhole.parens {now : DateTime} {c : Condition} (h : RereadsWhole now c)
    {ts : List Token} {more : List Char}
    (hts : Spells ts ('(' :: (c.render.toList ++ ')' :: more))) :
    ∃ us, Spells us more ∧ Reads now .unary ts [c.reread] us := by
  obtain ⟨place, inner, rfl, hinner⟩ := hts.cons (spelled_leftParen _)
  obtain ⟨mid, hmid, hread⟩ := h inner (')' :: more) rfl hinner
  obtain ⟨place', us, rfl, hus⟩ := hmid.cons (spelled_rightParen _)
  exact ⟨us, hus, .parens rfl hread rfl⟩

theorem rereadsItems_cons {now : DateTime} {op : Connective} {child : Condition}
    {children : List Condition} (hchild : Rereads now child)
    (htail : RereadsTail now op children) : RereadsItems now op (child :: children) := by
  intro ts more hmore hts
  rw [toList_renderChildren, List.append_assoc] at hts
  by_cases hnegation : ∃ inner, child = .negation inner
  · -- the negation takes all that follows it
    obtain ⟨inner, rfl⟩ := hnegation
    have htext : (Condition.negation inner).render.toList ++ (tailText op children ++ more) =
        "not".toList ++ ' ' :: ('(' :: (inner.render.toList ++ ')' ::
          (tailText op children ++ more))) := by
      simp [Condition.render]
    rw [htext] at hts
    obtain ⟨place, rest, rfl, hrest⟩ := hts.cons (spelled_not _)
    obtain ⟨mid, hmid, hinner⟩ := RereadsWhole.parens hchild hrest
    obtain ⟨us, hus, hmoreItems, hhead⟩ := htail mid more hmore hmid
    -- within the negation, its operand and the other children are the items of one chain
    have hitems : ReadsItems now op rest (inner.reread :: Condition.rereadChildren op children) us :=
      ⟨_, _, mid, rfl, hinner, hmoreItems, hhead⟩
    have hus' := hus.kind_of_closing hmore
    refine ⟨us, hus, _, [], us, Condition.rereadChildren_negation op inner children,
      .negation rfl (hitems.disjunction (hus' .or)), .done (hus' op), ?_⟩
    exact fun t ht hkind => absurd hkind (hus' .and t ht)
  · have hne : ∀ inner, child ≠ .negation inner := fun inner heq => hnegation ⟨inner, heq⟩
    have hunary : RereadsUnary now child := by
      cases child with
      | negation inner => exact absurd rfl (hne inner)
      | comparison => exact hchild
      | junction => exact hchild
    obtain ⟨mid, hmid, hread⟩ := hunary ts _ (behind_tailText op children hmore) hts
    obtain ⟨us, hus, hmoreItems, hhead⟩ := htail mid more hmore hmid
    exact ⟨us, hus, _, _, mid, Condition.rereadChildren_cons op children hne, hread, hmoreItems,
      hhead⟩

theorem rereadsTail_nil (now : DateTime) (op : Connective) : RereadsTail now op [] := by
  intro ts more hmore hts
  have hkind := Spells.kind_of_closing hts hmore
  exact ⟨ts, hts, .done (hkind op), fun t ht h => absurd h (hkind .and t ht)⟩

theorem rereadsTail_of_rereads {now : DateTime} {op : Connective} {children : List Condition}
    (h : ∀ child ∈ children, Rereads now child) : RereadsTail now op children := by
  induction children with
  | nil => exact rereadsTail_nil now op
  | cons child children ih =>
    obtain ⟨hchild, hchildren⟩ := List.forall_mem_cons.mp h
    intro ts more hmore hts
    have htext : tailText op (child :: children) ++ more = ' ' :: (op.word.toList ++
        ' ' :: ((Condition.renderChildren op (child :: children)).toList ++ more)) := by
      simp [tailText]
    rw [htext] at hts
    obtain ⟨place, rest, rfl, hrest⟩ := hts.space.cons (spelled_connective op _)
    obtain ⟨us, hus, hitems⟩ := rereadsItems_cons hchild (ih hchildren) rest more hmore hrest
    refine ⟨us, hus, hitems.more rfl, ?_⟩
    rintro t ⟨⟩ hkind
    cases op with
    | and => rfl
    | or => cases hkind

theorem RereadsItems.whole {now : DateTime} {op : Connective} {children : List Condition}
    (h : RereadsItems now op children) {ts : List Token} {more : List Char} (hmore : Closing more)
    (hts : Spells ts ((Condition.renderChildren op children).toList ++ more)) :
    ∃ us, Spells us more ∧
      Reads now (.chain .or) ts [.combine op (Condition.rereadChildren op children)] us := by
  obtain ⟨us, hus, hitems⟩ := h ts more hmore hts
  exact ⟨us, hus, hitems.disjunction (hus.kind_of_closing hmore .or)⟩

theorem rereadChildren_singleton (op : Connective) (child : Condition) :
    Condition.combine op (Condition.rereadChildren op [child]) = child.reread := by
  rw [Condition.rereadChildren_eq_map op (by simp)]
  rfl

theorem Rereads.whole {now : DateTime} {c : Condition} (h : Rereads now c) :
    RereadsWhole now c := by
  intro ts more hmore hts
  have hitems := rereadsItems_cons h (rereadsTail_nil now .or)
  obtain ⟨us, hus, hread⟩ := hitems.whole hmore hts
  rw [rereadChildren_singleton] at hread
  exact ⟨us, hus, hread⟩

theorem ofSymbol?_symbol (op : Operator) : Operator.ofSymbol? op.symbol = some op := by
  cases op <;> decide

theorem startsTime_symbol (op : Operator) (more : List Char) :
    ∀ c ∈ (op.symbol.toList ++ more).head?, startsTime c = false := by
  cases op <;> (rintro c ⟨⟩; rfl)

theorem mem_literalKinds {op : Operator} (h : op.isPattern = false) {kind : Kind}
    (hkind : kind = .integer ∨ kind = .yearFirstDate) : kind ∈ literalKinds op := by
  unfold literalKinds
  rw [if_neg (by simp [h])]
  split <;> rcases hkind with rfl | rfl <;> decide

/-- A literal is a token that its operator takes, with the value that was written. -/
theorem exists_literal {op : Operator} {column : String} {value : Value}
    (h : Writable op column value) (now : DateTime) {ts : List Token} {more : List Char}
    (hmore : Behind more) (hts : Spells ts ((Condition.literalText value).toList ++ more)) :
    ∃ literal us, ts = literal :: us ∧ Spells us more ∧ literal.kind ∈ literalKinds op ∧
      literalValue now literal = .ok value := by
  rcases h.value with ⟨n, rfl⟩ | ⟨d, rfl, hd⟩
  · obtain ⟨place, us, rfl, hus⟩ := hts.cons (spelled_integer n.toInt hmore)
    exact ⟨_, us, rfl, hus, mem_literalKinds h.plain (.inl rfl), literalValue_integer now n place⟩
  · have htext : (Condition.literalText (.date d)).toList = d.text := String.toList_ofList
    rw [htext] at hts
    obtain ⟨place, us, rfl, hus⟩ := hts.cons (spelled_date hd hmore)
    exact ⟨_, us, rfl, hus, mem_literalKinds h.plain (.inr rfl), literalValue_date now hd place⟩

theorem rereadsUnary_comparison {op : Operator} {column : String} {value : Value}
    (h : Writable op column value) (now : DateTime) :
    RereadsUnary now (.comparison op column value) := by
  intro ts more hmore hts
  have htext : (Condition.comparison op column value).render.toList ++ more =
      column.toList ++ ' ' :: (op.symbol.toList ++ ' ' ::
        ((Condition.literalText value).toList ++ more)) := by
    simp [Condition.render]
  rw [htext] at hts
  have hbehind : Behind (' ' :: (op.symbol.toList ++ ' ' ::
      ((Condition.literalText value).toList ++ more))) := .inr ⟨rfl, startsTime_symbol op _⟩
  obtain ⟨kind, hkind, hcolumn⟩ := h.column
  obtain ⟨place, rest, rfl, hrest⟩ := hts.cons (hcolumn.spelled_name hkind hbehind)
  obtain ⟨place', rest', rfl, hrest'⟩ := hrest.space.cons (spelled_operator op _)
  obtain ⟨literal, us, rfl, hus, hliteral, hvalue⟩ := exists_literal h now hmore hrest'
  have hkind' : kind = .qualifiedName ∨ kind = .name := by simpa [columnKinds] using hkind
  exact ⟨us, hus, .comparison hkind' rfl (ofSymbol?_symbol op) hliteral hvalue⟩

/-- The text of a condition that was read is read as `reread` says. -/
theorem rereads_of_formed {c : Condition} (h : c.Formed Writable) (now : DateTime) :
    Rereads now c := by
  induction h with
  | comparison hleaf => exact rereadsUnary_comparison hleaf now
  | @junction op children hlen _ ih =>
    show RereadsUnary now (.junction op children)
    intro ts more hmore hts
    cases children with
    | nil => simp at hlen
    | cons child children =>
      have htext : (Condition.junction op (child :: children)).render.toList ++ more =
          '(' :: ((Condition.renderChildren op (child :: children)).toList ++ ')' :: more) := by
        simp [Condition.render]
      rw [htext] at hts
      obtain ⟨hchild, hchildren⟩ := List.forall_mem_cons.mp ih
      obtain ⟨place, inner, rfl, hinner⟩ := hts.cons (spelled_leftParen _)
      have htail : RereadsTail now op children := rereadsTail_of_rereads hchildren
      have hitems := rereadsItems_cons hchild htail
      have hclosing : Closing (')' :: more) := rfl
      obtain ⟨mid, hmid, hread⟩ := hitems.whole hclosing hinner
      obtain ⟨place', us, rfl, hus⟩ := hmid.cons (spelled_rightParen _)
      exact ⟨us, hus, .parens rfl hread rfl⟩
  | negation _ ih => exact ih.whole

/-- The text of a condition that was read is read again, as `reread` says. -/
theorem reads_render {c : Condition} (h : c.Formed Writable) (now : DateTime) {ts : List Token}
    {more : List Char} (hmore : Closing more) (hts : Spells ts (c.render.toList ++ more)) :
    ∃ us, Spells us more ∧ Reads now (.chain .or) ts [c.reread] us :=
  (rereads_of_formed h now).whole ts more hmore hts

end ProfileQuery.Query
