import ProfileQuery.Pattern.Basic

/-!
# Expressions

A pattern as it is written, in a normal form: texts stand together, sequences and choices are not
nested in one another, and repetitions that say nothing are left out. The constructors
`ofSet`, `inSequence`, `oneOf` and `repeated` keep that form. `Expression.pattern` is the pattern
that an expression describes.
-/

namespace ProfileQuery

open Unicode (CodeSet)

/-- A pattern in normal form. -/
inductive Expression where
  | nothing
  /-- The given characters, of which there is at least one. -/
  | literal (cs : List Char)
  /-- One character of a set. -/
  | one (set : CodeSet)
  /-- No character, at a place that satisfies a condition. -/
  | look (condition : Look)
  /-- A part with a number of its own. -/
  | group (number : Nat) (body : Expression)
  | sequence (parts : List Expression)
  | choice (options : List Expression)
  /-- At least `least` and at most `most` rounds; `greedy` when more rounds are tried first, which
  makes no difference to what is found. -/
  | times (body : Expression) (least : Nat) (most : Option Nat) (greedy : Bool)
deriving Inhabited

namespace Expression

/-! ## What an expression describes -/

/-- The pattern of a text. -/
def literalPattern (cs : List Char) : Pattern :=
  cs.foldr (fun c p => .next (.one (.ofChars [c])) p) .nothing

mutual

/-- The pattern that an expression describes. -/
def pattern : Expression → Pattern
  | .nothing => .nothing
  | .literal cs => literalPattern cs
  | .one set => .one set
  | .look condition => .look condition
  | .group _ body => body.pattern
  | .sequence parts => sequencePattern parts
  | .choice options => choicePattern options
  | .times body least most _ => .times body.pattern least most

/-- The pattern of parts one after another. -/
def sequencePattern : List Expression → Pattern
  | [] => .nothing
  | part :: parts => .next part.pattern (sequencePattern parts)

/-- The pattern of alternatives. -/
def choicePattern : List Expression → Pattern
  | [] => .one .empty
  | option :: options => .either option.pattern (choicePattern options)

end

/-! ## Lengths -/

mutual

/-- Whether an expression describes empty stretches alone. -/
def isZeroWidth : Expression → Bool
  | .nothing | .look _ => true
  | .literal _ | .one _ => false
  | .group _ body => body.isZeroWidth
  | .sequence parts => allZeroWidth parts
  | .choice options => allZeroWidth options
  | .times body _ most _ => most.isSome && body.isZeroWidth

/-- Whether all of several expressions describe empty stretches alone. -/
def allZeroWidth : List Expression → Bool
  | [] => true
  | e :: es => e.isZeroWidth && allZeroWidth es

end

mutual

/-- The length of the shortest stretch; nothing when some part of the expression has no stretch. -/
def leastLength? : Expression → Option Nat
  | .nothing | .look _ => some 0
  | .literal cs => some cs.length
  | .one set => if set.runs.isEmpty then none else some 1
  | .group _ body => body.leastLength?
  | .sequence parts => leastSum? parts
  | .choice options => leastOf? options
  | .times body least _ _ => body.leastLength?.map (· * least)

/-- The sum of the least lengths. -/
def leastSum? : List Expression → Option Nat
  | [] => some 0
  | e :: es =>
    match e.leastLength?, leastSum? es with
    | some n, some m => some (n + m)
    | _, _ => none

/-- The least of the least lengths. -/
def leastOf? : List Expression → Option Nat
  | [] => none
  | [e] => e.leastLength?
  | e :: es =>
    match e.leastLength?, leastOf? es with
    | some n, some m => some (min n m)
    | _, _ => none

end

/-! ## Constructors that keep the form -/

/-- One character of a set. A single character is a text. -/
def ofSet (set : CodeSet) : Expression :=
  let set := set.characters
  match set.single? with
  | some c => .literal [c]
  | none => .one set

/-- Puts a part in front of parts; texts that meet become one. -/
def cons (part : Expression) (parts : List Expression) : List Expression :=
  match part, parts with
  | .nothing, parts => parts
  | .literal cs, .literal ds :: rest => .literal (cs ++ ds) :: rest
  | part, parts => part :: parts

/-- The parts of an expression that stands in a sequence. -/
def parts : Expression → List Expression
  | .sequence parts => parts
  | e => [e]

/-- Expressions one after another. -/
def inSequence (es : List Expression) : Expression :=
  match (es.flatMap parts).foldr cons [] with
  | [] => .nothing
  | [e] => e
  | parts => .sequence parts

/-- The alternatives of an expression that stands in a choice. -/
def options : Expression → List Expression
  | .choice options => options
  | e => [e]

/-- The characters of alternatives that are one character each. -/
def singles? : List Expression → Option (List Char)
  | [] => some []
  | .literal [c] :: es => (singles? es).map (c :: ·)
  | _ => none

/-- The sets of alternatives that are one character of a set each. -/
def sets? : List Expression → Option (List CodeSet)
  | [] => some []
  | .one set :: es => (sets? es).map (set :: ·)
  | _ => none

/-- A choice between alternatives that are no choices. Single characters become a set. -/
def choose (es : List Expression) : Expression :=
  match es with
  | [e] => e
  | es =>
    match singles? es with
    | some cs => ofSet (.ofChars cs)
    | none =>
      match sets? es with
      | some sets => ofSet (.unionAll sets)
      | none => .choice es

mutual

/-- Whether two expressions are the same. -/
def same : Expression → Expression → Bool
  | .nothing, .nothing => true
  | .literal cs, .literal ds => cs == ds
  | .one set, .one other => set.runs == other.runs
  | .look condition, .look other => condition == other
  | .group n body, .group m other => n == m && same body other
  | .sequence es, .sequence fs => allSame es fs
  | .choice es, .choice fs => allSame es fs
  | .times body least most greedy, .times other least' most' greedy' =>
    least == least' && most == most' && greedy == greedy' && same body other
  | _, _ => false

/-- Whether two lists of expressions are the same. -/
def allSame : List Expression → List Expression → Bool
  | [], [] => true
  | e :: es, f :: fs => same e f && allSame es fs
  | _, _ => false

end

/-- The longest list that two lists both start with. -/
def commonFront : List Expression → List Expression → List Expression
  | a :: as, b :: bs => if same a b then a :: commonFront as bs else []
  | _, _ => []

/-- The parts that all alternatives start with, when they all are sequences. -/
def sharedFront : List Expression → List Expression
  | [] => []
  | [.sequence parts] => parts
  | .sequence parts :: es => commonFront parts (sharedFront es)
  | _ => []

/-- A choice. What all alternatives start with is written once. -/
def oneOf (es : List Expression) : Expression :=
  let es := es.flatMap options
  match es with
  | [e] => e
  | es =>
    match sharedFront es with
    | [] => choose es
    | front =>
      let rests := es.map fun e => inSequence (e.parts.drop front.length)
      inSequence (front ++ [choose (rests.flatMap options)])

/-- Repetitions. Empty stretches need not be repeated more than once. -/
def repeated (body : Expression) (least : Nat) (most : Option Nat) (greedy : Bool) : Expression :=
  let (least, most) :=
    if body.isZeroWidth then (min least 1, some ((most.map (min · 1)).getD 1)) else (least, most)
  if most = some 0 then .nothing
  else if least = 1 ∧ most = some 1 then body
  else .times body least most greedy

/-! ## Anchors -/

mutual

/-- Whether a condition holds where any stretch of the expression starts; where it ends when
`atEnd`. Only conditions that nothing but empty stretches keep from the edge are seen. -/
def hasEdge (condition : Look) (atEnd : Bool) : Expression → Bool
  | .nothing | .literal _ | .one _ => false
  | .look other => condition == other
  | .group _ body => body.hasEdge condition atEnd
  | .sequence parts => (edgeOfParts condition atEnd parts).1
  | .choice options => edgeOfOptions condition atEnd options
  | .times body least _ _ => least != 0 && body.hasEdge condition atEnd

/-- Whether a condition holds at the edge of parts one after another, and whether all of them
describe empty stretches alone. -/
def edgeOfParts (condition : Look) (atEnd : Bool) : List Expression → Bool × Bool
  | [] => (false, true)
  | part :: parts =>
    let (edge, zeroWidth) := edgeOfParts condition atEnd parts
    let mine := part.hasEdge condition atEnd
    if atEnd then (edge || (zeroWidth && mine), zeroWidth && part.isZeroWidth)
    else (mine || (part.isZeroWidth && edge), zeroWidth && part.isZeroWidth)

/-- Whether a condition holds at the edge of all alternatives. -/
def edgeOfOptions (condition : Look) (atEnd : Bool) : List Expression → Bool
  | [] => true
  | option :: options => option.hasEdge condition atEnd && edgeOfOptions condition atEnd options

end

end Expression

end ProfileQuery
