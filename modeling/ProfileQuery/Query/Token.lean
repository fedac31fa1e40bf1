/-!
# Tokens

The kinds of tokens of the query language, their names in error messages, and the tokens themselves
with the position at which they start.
-/

namespace ProfileQuery.Query

/-- The kinds of tokens. -/
inductive Kind where
  /-- The word `from`. -/
  | fromWord
  /-- The word `where`. -/
  | whereWord
  /-- The word `report`. -/
  | reportWord
  | star
  | dot
  | leftParen
  | rightParen
  /-- A comparison operator. -/
  | comparison
  | conjunction
  | disjunction
  | negation
  | doubleQuoted
  | singleQuoted
  /-- A date with the year in front. -/
  | yearFirstDate
  /-- A date with the year at the end. -/
  | dayFirstDate
  /-- A word for the present moment. -/
  | clockWord
  | integer
  /-- A name in two parts, joined by a dot. -/
  | qualifiedName
  | name
  /-- A character that starts no other token. -/
  | unexpected
  | endOfInput
deriving DecidableEq, Repr

/-- What a kind is called in an error message. -/
def Kind.description : Kind → String
  | fromWord => "from"
  | whereWord => "where"
  | reportWord => "report"
  | star => "*"
  | dot => "."
  | leftParen => "("
  | rightParen => ")"
  | comparison => "a comparison operator"
  | conjunction => "'&&', '&', or 'and'"
  | disjunction => "'||', '|', or 'or'"
  | negation => "'!' or 'not'"
  | doubleQuoted => "a double-quoted string"
  | singleQuoted => "a single-quoted string"
  | yearFirstDate => "a YYYY-MM-DD date"
  | dayFirstDate => "a DD-MM-YY date"
  | clockWord => "'now' or ':today'"
  | integer => "an integer"
  | qualifiedName => "a qualified identifier"
  | name => "a simple identifier"
  | unexpected => "an unexpected character"
  | endOfInput => "end of input"

/-- A place in a text; lines and columns count from one. -/
structure Position where
  line : Nat
  column : Nat
deriving DecidableEq, Repr

/-- The place at which a text starts. -/
def Position.start : Position := ⟨1, 1⟩

/-- The place after a character: a newline starts a line, any other character is one column wide. -/
def Position.after (p : Position) (c : Char) : Position :=
  if c = '\n' then ⟨p.line + 1, 1⟩ else ⟨p.line, p.column + 1⟩

/-- The place after a text. -/
def Position.advance (p : Position) (cs : List Char) : Position :=
  cs.foldl after p

/-- A token: its kind, its text, and the place where it starts. -/
structure Token where
  kind : Kind
  literal : String
  position : Position
deriving DecidableEq, Repr

/-- The token that marks the end of the input. -/
def Token.atEnd (p : Position) : Token := ⟨.endOfInput, "", p⟩

/-- How a token is shown in an error message. -/
def Token.shown (t : Token) : String :=
  if t.kind = .endOfInput then "end of input" else "'" ++ t.literal ++ "'"

end ProfileQuery.Query
