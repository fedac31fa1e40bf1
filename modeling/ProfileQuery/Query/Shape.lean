/-!
# Shapes of tokens

A shape describes how the text of a token is built from classes of characters. `Shape.cuts` divides
a text behind every prefix of the shape, in an order of preference: the first alternative before the
second, and more repetitions before fewer. The prefix behind which the first cut is made is the one
that the shape takes.
-/

namespace ProfileQuery.Query

/-- How the text of a token is built. -/
inductive Shape where
  | nothing
  /-- One character of a class. -/
  | one (p : Char → Bool)
  /-- Any number of characters of a class. -/
  | run (p : Char → Bool)
  | next (first second : Shape)
  | either (first second : Shape)
  /-- Any number of repetitions, none of them empty. -/
  | many (body : Shape)

/-- A place between the characters of a text: how many were taken, and those that are left. -/
structure Cut where
  taken : Nat
  rest : List Char
deriving DecidableEq, Repr

namespace Shape

/-- The cuts within the characters of a class at the front of `cs`, put before `found`. -/
def runCuts (p : Char → Bool) (taken : Nat) (found : List Cut) : List Char → List Cut
  | [] => ⟨taken, []⟩ :: found
  | c :: cs =>
    if p c then runCuts p (taken + 1) (⟨taken, c :: cs⟩ :: found) cs
    else ⟨taken, c :: cs⟩ :: found

/-- The cuts behind at most `limit` repetitions of a step that moves on. -/
def repeatCuts (step : Cut → List Cut) : Nat → Cut → List Cut
  | 0, cut => [cut]
  | limit + 1, cut =>
    ((step cut).filter (cut.taken < ·.taken)).flatMap (repeatCuts step limit) ++ [cut]

/-- The cuts behind the prefixes of a shape, in order of preference. -/
def cuts : Shape → Cut → List Cut
  | nothing, cut => [cut]
  | one p, cut =>
    match cut.rest with
    | [] => []
    | c :: cs => if p c then [⟨cut.taken + 1, cs⟩] else []
  | run p, cut => runCuts p cut.taken [] cut.rest
  | next first second, cut => (first.cuts cut).flatMap second.cuts
  | either first second, cut => first.cuts cut ++ second.cuts cut
  | many body, cut =>
    match body.cuts cut with
    | [] => [cut]
    | _ :: _ => repeatCuts body.cuts cut.rest.length cut

/-- The cut behind the prefix that a shape takes. -/
def firstCut? (shape : Shape) (cs : List Char) : Option Cut :=
  (shape.cuts ⟨0, cs⟩).head?

/-! ## Composite shapes -/

/-- The given character. -/
def char (c : Char) : Shape := one (· == c)

/-- The given word. -/
def word (s : String) : Shape :=
  s.toList.foldr (fun c rest => next (char c) rest) nothing

/-- One of several shapes, the first preferred. -/
def anyOf : List Shape → Shape
  | [] => one fun _ => false
  | [shape] => shape
  | shape :: shapes => either shape (anyOf shapes)

/-- One of several words, the first preferred. -/
def anyWord (words : List String) : Shape :=
  anyOf (words.map word)

/-- Shapes one after another. -/
def inOrder (shapes : List Shape) : Shape :=
  shapes.foldr next nothing

/-- A shape or, failing that, nothing. -/
def optional (shape : Shape) : Shape :=
  either shape nothing

/-- A shape repeated a fixed number of times. -/
def times (n : Nat) (shape : Shape) : Shape :=
  inOrder (List.replicate n shape)

end Shape

end ProfileQuery.Query
