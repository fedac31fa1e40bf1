/-!
# Quoted strings

String literals of the query language stand between quotes. A backslash in front of the quote
character keeps it inside the string; every other backslash belongs to the text, so that a
pattern can be written without doubling its backslashes.
-/

namespace ProfileQuery.Text

/-- Drops the backslash of every backslash and quote, from left to right. -/
def unescape (quote : Char) : List Char → List Char
  | [] => []
  | [c] => [c]
  | c :: d :: cs =>
    if c = '\\' ∧ d = quote then quote :: unescape quote cs else c :: unescape quote (d :: cs)

/-- The text that a quoted literal stands for: its first and last character are the quotes. -/
def unquote (quote : Char) (literal : List Char) : List Char :=
  unescape quote literal.tail.dropLast

/-- Puts a backslash in front of every quote. -/
def escape (quote : Char) : List Char → List Char
  | [] => []
  | c :: cs => if c = quote then '\\' :: c :: escape quote cs else c :: escape quote cs

/-- The literal that is written for a text. -/
def quoted (quote : Char) (cs : List Char) : List Char :=
  quote :: escape quote cs ++ [quote]

end ProfileQuery.Text
