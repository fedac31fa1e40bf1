import ProfileQuery.Unicode.Letter

/-!
# Patterns

Regular expressions over characters: sets of characters, conditions on a place between two
characters, and their combinations. `Pattern.Matches` says which stretches of a text a pattern
describes.
-/

namespace ProfileQuery

/-- A place in a text, seen by the characters before and after it. -/
structure Gap where
  before : Option Char
  after : Option Char
deriving DecidableEq, Repr

/-- Which characters words are made of. -/
inductive WordKind where
  /-- The word characters of all scripts. -/
  | unicode
  /-- Letters, digits and the underscore of ASCII. -/
  | ascii
deriving DecidableEq, Repr

/-- Whether a character belongs to a word. -/
def WordKind.has : WordKind → Char → Bool
  | unicode, c => Unicode.isWord c
  | ascii, c => c.isAlphanum || c == '_'

/-- Conditions on a place in a text. -/
inductive Look where
  | textStart
  | textEnd
  | lineStart
  | lineEnd
  /-- As `lineStart`, where a carriage return ends a line too. -/
  | lineStartCrlf
  /-- As `lineEnd`, where a carriage return ends a line too. -/
  | lineEndCrlf
  | wordBoundary (kind : WordKind)
  | notWordBoundary (kind : WordKind)
  | wordStart (kind : WordKind)
  | wordEnd (kind : WordKind)
  /-- No word character comes before. -/
  | wordStartHalf (kind : WordKind)
  /-- No word character comes after. -/
  | wordEndHalf (kind : WordKind)
deriving DecidableEq, Repr

/-- Whether a condition holds at a place. -/
def Look.holds (gap : Gap) : Look → Bool
  | textStart => gap.before.isNone
  | textEnd => gap.after.isNone
  | lineStart => gap.before.isNone || gap.before == some '\n'
  | lineEnd => gap.after.isNone || gap.after == some '\n'
  | lineStartCrlf => gap.before.isNone || gap.before == some '\n' ||
      (gap.before == some '\r' && gap.after != some '\n')
  | lineEndCrlf => gap.after.isNone || gap.after == some '\r' ||
      (gap.after == some '\n' && gap.before != some '\r')
  | wordBoundary kind => gap.before.any kind.has != gap.after.any kind.has
  | notWordBoundary kind => gap.before.any kind.has == gap.after.any kind.has
  | wordStart kind => !gap.before.any kind.has && gap.after.any kind.has
  | wordEnd kind => gap.before.any kind.has && !gap.after.any kind.has
  | wordStartHalf kind => !gap.before.any kind.has
  | wordEndHalf kind => !gap.after.any kind.has

/-- A pattern. -/
inductive Pattern where
  | nothing
  /-- One character of a set. -/
  | one (set : Unicode.CodeSet)
  /-- No character, at a place that satisfies a condition. -/
  | look (condition : Look)
  | next (first second : Pattern)
  | either (first second : Pattern)
  /-- At least `least` and at most `most` repetitions. -/
  | times (body : Pattern) (least : Nat) (most : Option Nat)

namespace Pattern

/-- The most bytes that the states of a pattern may take. -/
def sizeLimit : Nat := 10485760

/-- Why a text is not a pattern. -/
inductive Fault where
  /-- The text does not follow the notation. -/
  | malformed
  /-- It would take too many states to search for the pattern. -/
  | tooLarge
deriving DecidableEq, Repr

/-- The wording of a fault. -/
def Fault.message : Fault → String
  | malformed => "regex parse error:"
  | tooLarge => "Compiled regex exceeds size limit of " ++ toString sizeLimit ++ " bytes."

/-- The place behind the first `i` characters. -/
def gapAt (text : List Char) (i : Nat) : Gap :=
  ⟨if i = 0 then none else text[i - 1]?, text[i]?⟩

/-- `Matches text p i j`: the pattern describes the stretch of the text from place `i` to `j`. -/
inductive Matches (text : List Char) : Pattern → Nat → Nat → Prop where
  | nothing {i : Nat} : i ≤ text.length → Matches text .nothing i i
  | one {set : Unicode.CodeSet} {i : Nat} {c : Char} :
      text[i]? = some c → set.has c → Matches text (.one set) i (i + 1)
  | look {condition : Look} {i : Nat} :
      i ≤ text.length → condition.holds (gapAt text i) → Matches text (.look condition) i i
  | next {a b : Pattern} {i j k : Nat} :
      Matches text a i j → Matches text b j k → Matches text (.next a b) i k
  | first {a b : Pattern} {i j : Nat} : Matches text a i j → Matches text (.either a b) i j
  | second {a b : Pattern} {i j : Nat} : Matches text b i j → Matches text (.either a b) i j
  | stop {body : Pattern} {most : Option Nat} {i : Nat} :
      i ≤ text.length → Matches text (.times body 0 most) i i
  | repeatOnce {body : Pattern} {least : Nat} {most : Option Nat} {i j k : Nat} :
      most ≠ some 0 → Matches text body i j →
      Matches text (.times body (least - 1) (most.map (· - 1))) j k →
      Matches text (.times body least most) i k

end Pattern

end ProfileQuery
