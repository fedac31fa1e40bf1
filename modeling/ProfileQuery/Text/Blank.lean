/-!
# Blanks, words and lines

The blank characters of the Unicode property White_Space, and the ways in which text is cut at
them: trimming both ends, splitting into words, splitting into lines. All functions work on lists
of characters; nothing but blanks is ever dropped.
-/

namespace ProfileQuery.Text

/-- The characters with the property White_Space. -/
def isBlank (c : Char) : Bool :=
  let n := c.toNat
  (9 ≤ n && n ≤ 13) || n == 0x20 || n == 0x85 || n == 0xA0 || n == 0x1680 ||
    (0x2000 ≤ n && n ≤ 0x200A) || n == 0x2028 || n == 0x2029 || n == 0x202F || n == 0x205F ||
    n == 0x3000

/-- Text without the blanks in front of it. -/
def trimLeft (cs : List Char) : List Char :=
  cs.dropWhile isBlank

/-- Text without the blanks behind it. -/
def trimRight (cs : List Char) : List Char :=
  (cs.reverse.dropWhile isBlank).reverse

/-- Text without the blanks around it. -/
def trim (cs : List Char) : List Char :=
  trimRight (trimLeft cs)

/-- Puts a character in front of the first piece. -/
def consFirst (c : Char) : List (List Char) → List (List Char)
  | [] => [[c]]
  | piece :: pieces => (c :: piece) :: pieces

/-- The maximal runs of characters that are not blank. -/
def words : List Char → List (List Char)
  | [] => []
  | [c] => if isBlank c then [] else [[c]]
  | c :: d :: cs =>
    if isBlank c then words (d :: cs)
    else if isBlank d then [c] :: words (d :: cs)
    else consFirst c (words (d :: cs))

/-- The pieces between newlines. Text that ends in a newline has a last, empty line. -/
def lines : List Char → List (List Char)
  | [] => [[]]
  | c :: cs => if c = '\n' then [] :: lines cs else consFirst c (lines cs)

end ProfileQuery.Text
