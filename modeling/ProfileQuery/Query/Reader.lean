import ProfileQuery.Query.Basic
import ProfileQuery.Query.ConditionReader
import ProfileQuery.Query.Scan
import ProfileQuery.Unicode.Letter

/-!
# Reading queries

The grammar of queries:

    query      := ('select' | 'retrieve') body
    body       := projection ['from' name {name}] {'where' disjunction}
    projection := '*' | column {column}

The leading word counts in any mix of letter cases. Several `where` clauses mean their conjunction.
-/

namespace ProfileQuery.Query

open Calendar (DateTime)

/-- The kinds of tokens that name a column. -/
def columnKinds : List Kind := [.qualifiedName, .name]

/-- Reads a star, or one or more columns. -/
def readProjection (ts : List Token) : Except SyntaxError (Projection × List Token) := do
  let (first, ⟨rest, _⟩) ← choose (.star :: columnKinds) ts
  if first.kind = .star then
    return (.wildcard, rest)
  else
    let others := rest.takeWhile (·.kind ∈ columnKinds)
    return (.columns ((first :: others).map (·.literal)), rest.drop others.length)

/-- Reads the relations after `from`, if that word is there. -/
def readRelations (ts : List Token) : Except SyntaxError (List String × List Token) :=
  if (current ts).kind = .fromWord then do
    let (first, ⟨rest, _⟩) ← choose [.name] ts.tail
    let others := rest.takeWhile (·.kind = .name)
    return ((first :: others).map (·.literal), rest.drop others.length)
  else
    return ([], ts)

/-- Reads the conditions that follow the word `where`, each time it is there. -/
def readWhere (now : DateTime) (ts : List Token) :
    Except SyntaxError (List Condition × List Token) :=
  match ts with
  | [] => .ok ([], [])
  | t :: ts =>
    if t.kind = .whereWord then
      match readDisjunction now ts with
      | .error e => .error e
      | .ok (condition, ⟨rest, _⟩) =>
        match readWhere now rest with
        | .error e => .error e
        | .ok (conditions, rest') => .ok (condition :: conditions, rest')
    else .ok ([], t :: ts)
termination_by ts.length
decreasing_by
  simp only [List.length_cons]
  omega

/-- The condition that several `where` clauses mean. -/
def whereCondition : List Condition → Option Condition
  | [] => none
  | conditions => some (.combine .and conditions)

/-- Reads the tokens of a body up to the end of the input; `text` is quoted in an error message. -/
def readBody (now : DateTime) (text : String) (ts : List Token) : Except SyntaxError Select := do
  let (projection, ts) ← readProjection ts
  let (relations, ts) ← readRelations ts
  let (conditions, ts) ← readWhere now ts
  let _ ← choose [.endOfInput] ts
  if projection = .wildcard ∧ relations = [] then
    throw (.wildcardWithoutFrom text)
  return ⟨projection, relations, whereCondition conditions⟩

/-- Reads the body of a query, without the leading word. -/
def Select.ofBody (now : DateTime) (text : String) : Except SyntaxError Select :=
  readBody now text (scan text)

/-- The words that start a query. -/
def leadingWords : List String := ["select", "retrieve"]

/-- Reads a query. -/
def Select.ofText (now : DateTime) (text : String) : Except SyntaxError Select :=
  let ts := scan text
  let first := current ts
  let word := Unicode.lowercase first.literal
  match first.kind with
  | .endOfInput => .error (.unexpectedToken [.name] first)
  | .name => if word ∈ leadingWords then readBody now text ts.tail
    else .error (.unsupportedQuery word)
  | _ => .error (.unsupportedQuery word)

end ProfileQuery.Query
