import ProfileQuery.Plan.Name
import ProfileQuery.Proofs.Plan.Name
import ProfileQuery.Proofs.Query.Literal
import ProfileQuery.Proofs.Query.Origin

/-!
# Queries are well typed

Every query that is read is well typed (`wellTyped_of_ofBody`, `wellTyped_of_ofText`): names have one
part or two, the literals fit their operators and are no missing values, junctions have two children
or more, and a star has relations to stand for.
-/

namespace ProfileQuery.Query

open Calendar (DateTime)
open Plan (qualified)
open Shape
open Text (isBlank)

/-! ## Names -/

/-- A name in one part: a letter, and then letters, digits, hyphens and underscores. -/
def IsIdentifier (name : String) : Prop :=
  ∃ c rest, name.toList = c :: rest ∧ startsName c = true ∧ ∀ d ∈ rest, continuesName d = true

/-- A name in one part, or in two parts with a dot between them. -/
def IsColumnName (name : String) : Prop :=
  IsIdentifier name ∨
    ∃ relation column, IsIdentifier relation ∧ IsIdentifier column ∧ name = qualified relation column

theorem isIdentifier_of_matches {name : String} (h : nameShape.Matches name.toList) :
    IsIdentifier name := by
  obtain ⟨first, rest, hname, hfirst, hrest⟩ := matches_next_iff.mp h
  obtain ⟨c, rfl, hc⟩ := matches_one_iff.mp hfirst
  exact ⟨c, rest, hname, hc, matches_run_iff.mp hrest⟩

theorem isIdentifier_of_lexeme {name : String} (h : Lexeme .name name.toList) :
    IsIdentifier name :=
  isIdentifier_of_matches (h.matches_rule (by decide) rfl)

theorem isColumnName_of_lexeme {kind : Kind} {name : String} (h : Lexeme kind name.toList)
    (hkind : kind ∈ columnKinds) : IsColumnName name := by
  simp only [columnKinds, List.mem_cons, List.not_mem_nil, or_false] at hkind
  rcases hkind with rfl | rfl
  · have hmatches := h.matches_rule (by decide) rfl
    obtain ⟨relation, rest, hname, hrelation, hrest⟩ := matches_inOrder_cons_iff.mp hmatches
    obtain ⟨dot, column, rfl, hdot, hcolumn⟩ := matches_inOrder_cons_iff.mp hrest
    obtain ⟨column, nothing, rfl, hcolumn, hnothing⟩ := matches_inOrder_cons_iff.mp hcolumn
    rw [matches_char_iff.mp hdot, matches_nothing_iff.mp hnothing, List.append_nil] at hname
    refine .inr ⟨String.ofList relation, String.ofList column, ?_, ?_, ?_⟩
    · exact isIdentifier_of_matches (by rwa [String.toList_ofList])
    · exact isIdentifier_of_matches (by rwa [String.toList_ofList])
    · rw [← String.toList_inj, Plan.toList_qualified, hname]
      simp
  · exact .inl (isIdentifier_of_lexeme h)

/-! ## Literals -/

/-- Whether an operator takes a literal: patterns are texts, order is asked of integers and dates,
and nothing is asked of missing values. -/
structure Operator.Fits (op : Operator) (literal : Value) : Prop where
  pattern : op.isPattern = true → ∃ s, literal = .text s
  ordering : op.isOrdering = true → (∃ n, literal = .integer n) ∨ ∃ d, literal = .date d
  not_null : literal ≠ .null

/-- The value of a date is not missing, since a token is not blank. -/
theorem exists_date {now : DateTime} {kind : Kind} {literal : String} {value : Value}
    (h : Lexeme kind literal.toList) (hvalue : Value.ofCell now .date literal = .ok value) :
    ∃ d, value = .date d := by
  obtain ⟨c, rest, hliteral, hblank⟩ := h.start
  have hmem : c ∈ Text.trim literal.toList := Text.mem_trim (by simp [hliteral]) hblank
  rw [Value.ofCell, if_neg (by simpa using List.ne_nil_of_mem hmem)] at hvalue
  split at hvalue
  · exact ⟨_, (Except.ok.inj hvalue).symm⟩
  · cases hvalue

/-- What the value of a literal is. -/
theorem literalValue_cases {now : DateTime} {t : Token} {value : Value}
    (ht : Lexeme t.kind t.literal.toList) (h : literalValue now t = .ok value) :
    (t.kind = .integer ∧ ∃ n, value = .integer n) ∨
    (t.kind ∈ [.doubleQuoted, .singleQuoted] ∧ ∃ s, value = .text s) ∨
    (t.kind ∈ [.yearFirstDate, .dayFirstDate, .clockWord] ∧ ∃ d, value = .date d) := by
  unfold literalValue at h
  split at h
  · next hkind =>
    split at h
    · exact .inl ⟨hkind, _, (Except.ok.inj h).symm⟩
    · cases h
  · next hkind => exact .inr (.inl ⟨by simp [hkind], _, (Except.ok.inj h).symm⟩)
  · next hkind => exact .inr (.inl ⟨by simp [hkind], _, (Except.ok.inj h).symm⟩)
  -- the three kinds of dates
  iterate 3
    · next hkind =>
      split at h
      · next hvalue =>
        obtain rfl := Except.ok.inj h
        exact .inr (.inr ⟨by simp [hkind], exists_date ht hvalue⟩)
      · cases h
  · cases h

theorem Operator.isPattern_of_isOrdering {op : Operator} (h : op.isOrdering = true) :
    op.isPattern = false := by
  cases op with
  | matched | notMatched => cases h
  | _ => rfl

theorem fits_of_literalValue {now : DateTime} {op : Operator} {t : Token} {value : Value}
    (ht : Lexeme t.kind t.literal.toList) (hkind : t.kind ∈ literalKinds op)
    (h : literalValue now t = .ok value) : op.Fits value := by
  unfold literalKinds at hkind
  obtain ⟨hk, n, rfl⟩ | ⟨hk, s, rfl⟩ | ⟨hk, d, rfl⟩ := literalValue_cases ht h
  · refine ⟨fun hop => ?_, fun _ => .inl ⟨n, rfl⟩, Value.noConfusion⟩
    rw [if_pos hop, hk] at hkind
    simp at hkind
  · refine ⟨fun _ => ⟨s, rfl⟩, fun hop => ?_, Value.noConfusion⟩
    rw [if_neg (by simp [Operator.isPattern_of_isOrdering hop]), if_pos hop] at hkind
    simp only [List.mem_cons, List.not_mem_nil, or_false] at hk hkind
    rcases hk with hk | hk <;> simp [hk] at hkind
  · refine ⟨fun hop => ?_, fun _ => .inr ⟨d, rfl⟩, Value.noConfusion⟩
    rw [if_pos hop] at hkind
    simp only [List.mem_cons, List.not_mem_nil, or_false] at hk hkind
    rcases hk with hk | hk | hk <;> simp [hk] at hkind

/-! ## Queries -/

/-- A comparison of a column with a literal that the operator takes. -/
structure Typed (op : Operator) (column : String) (literal : Value) : Prop where
  column : IsColumnName column
  literal : op.Fits literal

/-- Names of one part or two, conditions of typed comparisons with two children or more in every
junction, and relations for a star to stand for. -/
structure Select.WellTyped (q : Select) : Prop where
  columns : ∀ names, q.projection = .columns names → ∀ name ∈ names, IsColumnName name
  relations : ∀ name ∈ q.relations, IsIdentifier name
  condition : ∀ c, q.condition = some c → c.Formed Typed
  wildcard : q.projection = .wildcard → q.relations ≠ []

/-- Of the tokens of a text only typed comparisons are read. -/
theorem material_scan (now : DateTime) (text : String) :
    Material now IsColumnName IsIdentifier Typed (scan text) := by
  have hlexeme : ∀ t ∈ scan text, ∀ kinds : List Kind, .endOfInput ∉ kinds → t.kind ∈ kinds →
      Lexeme t.kind t.literal.toList := fun t ht kinds hkinds hkind =>
    lexeme_of_mem_scan ht fun heq => hkinds (heq ▸ hkind)
  have hcolumn : ∀ t ∈ scan text, t.kind ∈ columnKinds → IsColumnName t.literal :=
    fun t ht hkind => isColumnName_of_lexeme (hlexeme t ht _ (by decide) hkind) hkind
  refine ⟨hcolumn, fun t ht hkind => ?_, ?_⟩
  · have := hlexeme t ht [.name] (by decide) (by simp [hkind])
    exact isIdentifier_of_lexeme (hkind ▸ this)
  · intro t ht literal hliteral op value hkind hliteralKind hvalue
    have hliteralLexeme := hlexeme literal hliteral _ (by cases op <;> decide) hliteralKind
    exact ⟨hcolumn t ht hkind, fits_of_literalValue hliteralLexeme hliteralKind hvalue⟩

theorem Select.Made.wellTyped {q : Select} (h : q.Made IsColumnName IsIdentifier Typed) :
    q.WellTyped where
  columns names hnames := (h.columns names hnames).2
  relations := h.relations
  condition := h.condition
  wildcard hwildcard hnone := h.named ⟨hwildcard, hnone⟩

/-- A body that is read is well typed. -/
theorem wellTyped_of_ofBody {now : DateTime} {text : String} {q : Select}
    (h : Select.ofBody now text = .ok q) : q.WellTyped :=
  (made_of_ofBody h (material_scan now text)).wellTyped

/-- A query that is read is well typed. -/
theorem wellTyped_of_ofText {now : DateTime} {text : String} {q : Select}
    (h : Select.ofText now text = .ok q) : q.WellTyped :=
  (made_of_ofText h (material_scan now text)).wellTyped

end ProfileQuery.Query
