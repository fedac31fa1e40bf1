import ProfileQuery.Query.Condition
import ProfileQuery.Query.SyntaxError

/-!
# Reading conditions

The grammar of conditions:

    disjunction := conjunction {'or' conjunction}
    conjunction := unary {'and' unary}
    unary       := 'not' disjunction | '(' disjunction ')' | comparison
    comparison  := column operator literal

A `not` reaches as far to the right as it can. Every reader returns what it has read together with
the tokens that are left, which are fewer than before; the readers that may read nothing return at
most as many.
-/

namespace ProfileQuery.Query

open Calendar (DateTime)

/-- Tokens left over after at least one was read. -/
abbrev Fewer (ts : List Token) := { rest : List Token // rest.length < ts.length }

/-- Tokens left over after any number was read. -/
abbrev AtMost (ts : List Token) := { rest : List Token // rest.length ≤ ts.length }

/-- The first token; behind the last token, a mark for the end of the input. -/
def current : List Token → Token
  | [] => .atEnd ⟨0, 0⟩
  | t :: _ => t

/-- Takes the first token, which must be of one of the given kinds. -/
def choose (kinds : List Kind) : (ts : List Token) → Except SyntaxError (Token × Fewer ts)
  | [] => .error (.unexpectedToken kinds (current []))
  | t :: ts =>
    if t.kind ∈ kinds then .ok (t, ⟨ts, Nat.lt_succ_self _⟩)
    else .error (.unexpectedToken kinds t)

/-- The kinds of literals that an operator takes: patterns are strings, and order is asked of
integers and dates. -/
def literalKinds (op : Operator) : List Kind :=
  if op.isPattern then [.doubleQuoted, .singleQuoted]
  else if op.isOrdering then [.integer, .yearFirstDate, .dayFirstDate, .clockWord]
  else [.integer, .doubleQuoted, .singleQuoted, .yearFirstDate, .dayFirstDate, .clockWord]

/-- The value of a literal. -/
def literalValue (now : DateTime) (t : Token) : Except SyntaxError Value :=
  match t.kind with
  | .integer =>
    match Text.readInteger t.literal.toList with
    | .ok n => .ok (.integer n)
    | .error fault => .error (.invalidLiteral (.integer fault) t)
  | .doubleQuoted => .ok (.text (String.ofList (Text.unquote '"' t.literal.toList)))
  | .singleQuoted => .ok (.text (String.ofList (Text.unquote '\'' t.literal.toList)))
  | .yearFirstDate | .dayFirstDate | .clockWord =>
    match Value.ofCell now .date t.literal with
    | .ok value => .ok value
    | .error fault => .error (.invalidLiteral (.date fault) t)
  | _ => .error (.invalidLiteral .notLiteral t)

/-- Reads the operator and the literal of a comparison. -/
def readComparison (now : DateTime) (column : String) (ts : List Token) :
    Except SyntaxError (Condition × Fewer ts) :=
  match choose [.comparison] ts with
  | .error e => .error e
  | .ok (operator, ⟨rest, hrest⟩) =>
    match Operator.ofSymbol? operator.literal with
    | none => .error (.invalidLiteral .unknownOperator operator)
    | some op =>
      match choose (literalKinds op) rest with
      | .error e => .error e
      | .ok (literal, ⟨rest', hrest'⟩) =>
        match literalValue now literal with
        | .error e => .error e
        | .ok value => .ok (.comparison op column value, ⟨rest', Nat.lt_trans hrest' hrest⟩)

mutual

/-- Reads conjunctions with `or` between them. -/
def readDisjunction (now : DateTime) (ts : List Token) :
    Except SyntaxError (Condition × Fewer ts) :=
  match readConjunction now ts with
  | .error e => .error e
  | .ok (first, ⟨rest, hrest⟩) =>
    match readDisjuncts now rest with
    | .error e => .error e
    | .ok (others, ⟨rest', hrest'⟩) =>
      .ok (.combine .or (first :: others), ⟨rest', Nat.lt_of_le_of_lt hrest' hrest⟩)
termination_by (ts.length, 3)

/-- Reads further conjunctions, each after an `or`. -/
def readDisjuncts (now : DateTime) (ts : List Token) :
    Except SyntaxError (List Condition × AtMost ts) :=
  match ts with
  | [] => .ok ([], ⟨[], Nat.le_refl _⟩)
  | t :: ts =>
    if t.kind = .disjunction then
      match readConjunction now ts with
      | .error e => .error e
      | .ok (first, ⟨rest, hrest⟩) =>
        match readDisjuncts now rest with
        | .error e => .error e
        | .ok (others, ⟨rest', hrest'⟩) =>
          .ok (first :: others, ⟨rest', by simp only [List.length_cons]; omega⟩)
    else .ok ([], ⟨t :: ts, Nat.le_refl _⟩)
termination_by (ts.length, 0)

/-- Reads unary conditions with `and` between them. -/
def readConjunction (now : DateTime) (ts : List Token) :
    Except SyntaxError (Condition × Fewer ts) :=
  match readUnary now ts with
  | .error e => .error e
  | .ok (first, ⟨rest, hrest⟩) =>
    match readConjuncts now rest with
    | .error e => .error e
    | .ok (others, ⟨rest', hrest'⟩) =>
      .ok (.combine .and (first :: others), ⟨rest', Nat.lt_of_le_of_lt hrest' hrest⟩)
termination_by (ts.length, 2)

/-- Reads further unary conditions, each after an `and`. -/
def readConjuncts (now : DateTime) (ts : List Token) :
    Except SyntaxError (List Condition × AtMost ts) :=
  match ts with
  | [] => .ok ([], ⟨[], Nat.le_refl _⟩)
  | t :: ts =>
    if t.kind = .conjunction then
      match readUnary now ts with
      | .error e => .error e
      | .ok (first, ⟨rest, hrest⟩) =>
        match readConjuncts now rest with
        | .error e => .error e
        | .ok (others, ⟨rest', hrest'⟩) =>
          .ok (first :: others, ⟨rest', by simp only [List.length_cons]; omega⟩)
    else .ok ([], ⟨t :: ts, Nat.le_refl _⟩)
termination_by (ts.length, 0)

/-- Reads a negation, a condition in parentheses, or a comparison. -/
def readUnary (now : DateTime) (ts : List Token) : Except SyntaxError (Condition × Fewer ts) :=
  match choose [.negation, .leftParen, .qualifiedName, .name] ts with
  | .error e => .error e
  | .ok (t, ⟨rest, hrest⟩) =>
    match t.kind with
    | .negation =>
      match readDisjunction now rest with
      | .error e => .error e
      | .ok (child, ⟨rest', hrest'⟩) => .ok (.negation child, ⟨rest', Nat.lt_trans hrest' hrest⟩)
    | .leftParen =>
      match readDisjunction now rest with
      | .error e => .error e
      | .ok (child, ⟨rest', hrest'⟩) =>
        match choose [.rightParen] rest' with
        | .error e => .error e
        | .ok (_, ⟨rest'', hrest''⟩) =>
          .ok (child, ⟨rest'', Nat.lt_trans hrest'' (Nat.lt_trans hrest' hrest)⟩)
    | _ =>
      match readComparison now t.literal rest with
      | .error e => .error e
      | .ok (child, ⟨rest', hrest'⟩) => .ok (child, ⟨rest', Nat.lt_trans hrest' hrest⟩)
termination_by (ts.length, 1)

end

end ProfileQuery.Query
