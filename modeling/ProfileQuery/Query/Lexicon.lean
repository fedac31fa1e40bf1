import ProfileQuery.Query.Shape
import ProfileQuery.Query.Token
import ProfileQuery.Text.Blank
import ProfileQuery.Text.Integer

/-!
# The lexicon

The rules of the query language for its tokens, in order of priority: where two rules take equally
many characters, the earlier one decides. Every character that is not blank is taken by some rule.
-/

namespace ProfileQuery.Query

open Shape
open Text (isBlank isDigit)

/-- The class of a character that starts a name. -/
def startsName (c : Char) : Bool :=
  ('a' ≤ c && c ≤ 'z') || ('A' ≤ c && c ≤ 'Z')

/-- The class of a character that continues a name. -/
def continuesName (c : Char) : Bool :=
  startsName c || isDigit c || c == '-' || c == '_'

/-- A name: a letter, then letters, digits, hyphens and underscores. -/
def nameShape : Shape :=
  next (one startsName) (run continuesName)

/-- One decimal digit. -/
def digitShape : Shape := one isDigit

/-- One or two digits. -/
def shortNumberShape : Shape :=
  either (times 2 digitShape) digitShape

/-- A month in digits or by its English name, cut to three small letters. -/
def monthShape : Shape :=
  either (next digitShape (optional digitShape)) <|
    anyWord ["jan", "feb", "mar", "apr", "may", "jun", "jul", "aug", "sep", "oct", "nov", "dec"]

/-- Hour and minute, and perhaps a second. -/
def clockShape : Shape :=
  inOrder [times 2 digitShape, char ':', times 2 digitShape,
    optional (next (char ':') (times 2 digitShape))]

/-- A space or a tab. -/
def isSpacing (c : Char) : Bool := c == ' ' || c == '\t'

/-- A time of day: in parentheses, or set off by spacing. -/
def timeShape : Shape :=
  either (inOrder [run isSpacing, char '(', clockShape, char ')'])
    (inOrder [one isSpacing, run isSpacing, clockShape])

/-- Year, month, and perhaps day and time. -/
def yearFirstShape : Shape :=
  inOrder [times 4 digitShape, char '-', monthShape,
    optional (next (char '-') shortNumberShape), optional timeShape]

/-- Perhaps a day, month, a year of two or four digits, and perhaps a time. -/
def dayFirstShape : Shape :=
  inOrder [optional (next shortNumberShape (char '-')), monthShape, char '-',
    optional (times 2 digitShape), times 2 digitShape, optional timeShape]

/-- Text between two quotes. Inside, a backslash takes the next character with it, unless that is a
newline. -/
def quotedShape (quote : Char) : Shape :=
  let plain := run fun c => c != quote && c != '\\'
  inOrder [char quote, plain,
    many (inOrder [char '\\', one (· != '\n'), plain]), char quote]

/-- The rules of the language in order of priority. -/
def lexicon : List (Kind × Shape) := [
  (.fromWord, word "from"),
  (.whereWord, word "where"),
  (.reportWord, word "report"),
  (.star, char '*'),
  (.dot, char '.'),
  (.comparison, anyWord ["==", "=", "!=", "~", "!~", "<=", "<", ">=", ">"]),
  (.conjunction, anyWord ["&&", "&", "and"]),
  (.disjunction, anyWord ["||", "|", "or"]),
  (.negation, anyWord ["!", "not"]),
  (.leftParen, char '('),
  (.rightParen, char ')'),
  (.doubleQuoted, quotedShape '"'),
  (.singleQuoted, quotedShape '\''),
  (.yearFirstDate, yearFirstShape),
  (.dayFirstDate, dayFirstShape),
  (.clockWord, anyWord [":today", "now"]),
  (.integer, inOrder [optional (one fun c => c == '+' || c == '-'), digitShape, run isDigit]),
  (.qualifiedName, inOrder [nameShape, char '.', nameShape]),
  (.name, nameShape),
  (.unexpected, one fun c => !isBlank c)]

end ProfileQuery.Query
