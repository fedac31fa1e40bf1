import ProfileQuery.Pattern.Footprint
import ProfileQuery.Pattern.Property
import ProfileQuery.Text.Blank
import ProfileQuery.Text.Integer

/-!
# Reading patterns

The notation of patterns. Characters stand for themselves, but for `\ . + * ? ( ) | [ { ^ $`;
sets are written in brackets or by name, and flags such as `(?i)` change the meaning of what
follows them up to the end of their group. A reader returns what it has read together with the text
that is left, or nothing when the text is malformed. The `limit` of a reader bounds the depth of its
recursion; the length of the text is always enough.
-/

namespace ProfileQuery.Pattern

open Text (isBlank)
open Unicode (CodeSet)

/-- The flags of a pattern. -/
structure Flags where
  ignoreCase : Bool := false
  multiLine : Bool := false
  dotAll : Bool := false
  unicode : Bool := true
  crlf : Bool := false
  /-- Repetitions try fewer rounds first, and more rounds with a question mark. -/
  lazy : Bool := false
  /-- Blanks and comments in the pattern do not count. -/
  verbose : Bool := false
deriving DecidableEq, Repr

/-- What was read so far that bears on the rest: the flags in force, the names of groups and the
number of groups. -/
structure Scope where
  flags : Flags := {}
  groupNames : List (List Char) := []
  groupCount : Nat := 0

/-- A part of a pattern. -/
structure Piece where
  expression : Expression
  /-- How deep the part nests operators. -/
  depth : Nat
  /-- Whether the part is a pattern, and not a change of flags. -/
  repeatable : Bool

/-- A part that nests no operator. -/
def Piece.leaf (e : Expression) : Piece := ⟨e, 0, true⟩

/-- The greatest depth that a pattern may have. -/
def depthLimit : Nat := 250

/-! ## Blanks and numbers -/

/-- Drops blanks and comments in verbose patterns. -/
def skip (flags : Flags) (cs : List Char) : List Char :=
  if flags.verbose then go false cs else cs
where
  go (inComment : Bool) : List Char → List Char
    | [] => []
    | c :: cs =>
      if inComment then go (c != '\n') cs
      else if isBlank c then go false cs
      else if c = '#' then go true cs
      else c :: cs

/-- The character after the first one that a look ahead sees: in verbose patterns blanks do not
count, nor does the sign of a comment. -/
def peekAfter (flags : Flags) (cs : List Char) : Option Char :=
  let rest := cs.tail
  if flags.verbose then
    match rest.dropWhile isBlank with
    | '#' :: more => (more.dropWhile isBlank).head?
    | c :: _ => some c
    | [] => rest.head?
  else rest.head?

/-- Reads decimal digits, between which verbose patterns may have blanks. -/
def readCountDigits (flags : Flags) (found : List Char) : Nat → List Char → List Char × List Char
  | limit + 1, c :: cs =>
    if c.isDigit then readCountDigits flags (c :: found) limit (skip flags cs)
    else (found.reverse, c :: cs)
  | _, cs => (found.reverse, cs)

/-- Reads a count of at most 32 bits, with any blanks around it. -/
def readCount? (flags : Flags) (cs : List Char) : Option (Nat × List Char) :=
  let (digits, rest) := readCountDigits flags [] cs.length (cs.dropWhile isBlank)
  let value := Text.digitsValue digits
  if digits.isEmpty || value ≥ 4294967296 then none
  else some (value, skip flags (rest.dropWhile isBlank))

/-- Reads the bounds of a repetition, up to the closing brace. -/
def readBounds? (flags : Flags) (cs : List Char) : Option ((Nat × Option Nat) × List Char) := do
  let (least, rest) ← readCount? flags (skip flags cs)
  match rest with
  | '}' :: rest => return ((least, some least), rest)
  | ',' :: rest =>
    match skip flags rest with
    | '}' :: rest => return ((least, none), rest)
    | rest =>
      let (most, rest) ← readCount? flags rest
      guard (least ≤ most)
      match rest with
      | '}' :: rest => return ((least, some most), rest)
      | _ => none
  | _ => none

/-! ## Escapes -/

/-- What an escape or a single character stands for. -/
inductive Atom where
  /-- A character; `asByte` when it was given by two hexadecimal digits. -/
  | literal (c : Char) (asByte : Bool)
  | oneOf (set : CodeSet)
  | look (condition : Look)

/-- The characters with a meaning of their own in patterns. -/
def isMeta (c : Char) : Bool :=
  "\\.+*?()|[]\x7b\x7d^$#&-~".toList.contains c

/-- Characters that may stand behind a backslash for themselves. -/
def isEscapable (c : Char) : Bool :=
  isMeta c || (c.toNat < 128 && !c.isAlphanum && c != '<' && c != '>')

/-- The value of a hexadecimal digit. -/
def hexDigit? (c : Char) : Option Nat :=
  if c.isDigit then some (c.toNat - '0'.toNat)
  else if 'a' ≤ c ∧ c ≤ 'f' then some (c.toNat - 'a'.toNat + 10)
  else if 'A' ≤ c ∧ c ≤ 'F' then some (c.toNat - 'A'.toNat + 10)
  else none

/-- The character with a code point, if there is one. -/
def charOf? (n : Nat) : Option Char :=
  if h : n.isValidChar then some (Char.ofNatAux n h) else none

/-- Reads exactly `n` hexadecimal digits. -/
def readHexDigits? (flags : Flags) (value : Nat) : Nat → List Char → Option (Nat × List Char)
  | 0, cs => some (value, cs)
  | _ + 1, [] => none
  | n + 1, c :: cs => do
    let d ← hexDigit? c
    readHexDigits? flags (value * 16 + d) n (skip flags cs)

/-- Reads hexadecimal digits up to a closing brace; there must be at least one. -/
def readHexBraced? (flags : Flags) (value : Option Nat) : Nat → List Char → Option (Nat × List Char)
  | limit + 1, c :: cs =>
    if c = '}' then value.map fun value => (value, skip flags cs)
    else do
      let d ← hexDigit? c
      readHexBraced? flags (some (value.getD 0 * 16 + d)) limit (skip flags cs)
  | _, _ => none

/-- Reads a character given by its code point, in `n` digits or in braces. -/
def readHex? (flags : Flags) (n : Nat) (cs : List Char) : Option (Atom × List Char) :=
  match skip flags cs with
  | '{' :: rest => do
    let rest := skip flags rest
    let (value, rest) ← readHexBraced? flags none (rest.length + 1) rest
    return (.literal (← charOf? value) false, rest)
  | rest => do
    let (value, rest) ← readHexDigits? flags 0 n rest
    return (.literal (← charOf? value) (n == 2), rest)

/-- Splits a text at the first place where a separator stands. -/
def splitAt? (separator : List Char) : List Char → Option (List Char × List Char)
  | [] => none
  | c :: cs =>
    if separator.isPrefixOf (c :: cs) then some ([], (c :: cs).drop separator.length)
    else (splitAt? separator cs).map fun (front, back) => (c :: front, back)

/-- The set that the text between the braces of a property names, and whether its complement is
meant. -/
def propertySet? (text : List Char) : Option (CodeSet × Bool) :=
  match splitAt? ['!', '='] text with
  | some (name, value) => (CodeSet.propertyValue? name value).map (·, true)
  | none =>
    match (splitAt? [':'] text).or (splitAt? ['='] text) with
    | some (name, value) => (CodeSet.propertyValue? name value).map (·, false)
    | none => (CodeSet.property? text).map (·, false)

/-- Reads the text between braces, which in verbose patterns has no blanks. -/
def readBraced? (flags : Flags) (found : List Char) :
    Nat → List Char → Option (List Char × List Char)
  | limit + 1, c :: cs =>
    if c = '}' then some (found.reverse, cs)
    else readBraced? flags (c :: found) limit (skip flags cs)
  | _, _ => none

/-- Reads the name of a property, and complements its set if asked. -/
def readProperty? (flags : Flags) (negated : Bool) (cs : List Char) :
    Option (Atom × List Char) := do
  let ((set, complement), rest) ← match skip flags cs with
    | '{' :: rest => do
      let rest := skip flags rest
      let (text, rest) ← readBraced? flags [] (rest.length + 1) rest
      pure (← propertySet? text, rest)
    | '\\' :: _ | [] => none
    | c :: rest => do pure ((← CodeSet.property? [c], false), rest)
  guard flags.unicode
  let set := if flags.ignoreCase then set.ignoringCase else set
  return (.oneOf (if negated != complement then set.compl else set), rest)

/-- The set of a shorthand such as `\d`, by its small letter. -/
def shorthand (flags : Flags) (letter : Char) : CodeSet :=
  if flags.unicode then
    if letter = 'd' then Unicode.decimalNumber
    else if letter = 's' then Unicode.whiteSpace
    else Unicode.wordCharacters
  else
    if letter = 'd' then .range '0' '9'
    else if letter = 's' then .asciiSpace
    else .asciiWord

/-- Reads a shorthand. A complement that would cut characters apart is refused. -/
def readShorthand? (flags : Flags) (c : Char) (rest : List Char) : Option (Atom × List Char) :=
  let set := shorthand flags c.toLower
  if c.isLower then some (.oneOf set, rest)
  else if flags.unicode then some (.oneOf set.compl, rest)
  else none

/-- The words for conditions on the ends of words. -/
def wordCondition? (kind : WordKind) (name : String) : Option Look :=
  match name with
  | "start" => some (.wordStart kind)
  | "end" => some (.wordEnd kind)
  | "start-half" => some (.wordStartHalf kind)
  | "end-half" => some (.wordEndHalf kind)
  | _ => none

/-- The characters that such words are made of. -/
def isConditionLetter (c : Char) : Bool := c.isAlpha || c == '-'

/-- Reads letters of a word condition, between which verbose patterns may have blanks. -/
def readConditionName (flags : Flags) (found : List Char) : Nat → List Char → List Char × List Char
  | limit + 1, c :: cs =>
    if isConditionLetter c then readConditionName flags (c :: found) limit (skip flags cs)
    else (found.reverse, c :: cs)
  | _, cs => (found.reverse, cs)

/-- Reads what follows `\b`: a condition in braces, or nothing. Braces with a count are left for the
repetition that they belong to. -/
def readBoundary? (flags : Flags) (kind : WordKind) (cs : List Char) : Option (Atom × List Char) :=
  match cs with
  | '{' :: rest =>
    match skip flags rest with
    | [] => none
    | c :: rest =>
      if isConditionLetter c then
        match readConditionName flags [] (rest.length + 1) (c :: rest) with
        | (name, '}' :: rest) => (wordCondition? kind (String.ofList name)).map (.look ·, rest)
        | _ => none
      else some (.look (.wordBoundary kind), cs)
  | _ => some (.look (.wordBoundary kind), cs)

/-- Reads what follows a backslash. -/
def readEscape? (flags : Flags) : List Char → Option (Atom × List Char)
  | [] => none
  | c :: rest =>
    let kind : WordKind := if flags.unicode then .unicode else .ascii
    if c = 'x' then readHex? flags 2 rest
    else if c = 'u' then readHex? flags 4 rest
    else if c = 'U' then readHex? flags 8 rest
    else if c = 'p' ∨ c = 'P' then readProperty? flags (c == 'P') rest
    else if "dswDSW".toList.contains c then readShorthand? flags c rest
    else if isEscapable c then some (.literal c false, rest)
    else
      match c with
      | 'a' => some (.literal '\x07' false, rest)
      | 'f' => some (.literal '\x0C' false, rest)
      | 't' => some (.literal '\t' false, rest)
      | 'n' => some (.literal '\n' false, rest)
      | 'r' => some (.literal '\r' false, rest)
      | 'v' => some (.literal '\x0B' false, rest)
      | 'A' => some (.look .textStart, rest)
      | 'z' => some (.look .textEnd, rest)
      | 'b' => readBoundary? flags kind rest
      | 'B' => some (.look (.notWordBoundary kind), rest)
      | '<' => some (.look (.wordStart kind), rest)
      | '>' => some (.look (.wordEnd kind), rest)
      | _ => none

/-! ## Sets in brackets -/

/-- The operations on sets. -/
inductive SetOp where
  | inter
  | diff
  | symmDiff
deriving DecidableEq, Repr

/-- What an operation makes of two sets. -/
def SetOp.apply : SetOp → CodeSet → CodeSet → CodeSet
  | inter, a, b => a.inter b
  | diff, a, b => a.diff b
  | symmDiff, a, b => a.symmDiff b

/-- A set that is being read: an operand that waits for the one after it, and the items of that
one. -/
structure SetDraft where
  pending : Option (SetOp × CodeSet × Nat) := none
  items : List CodeSet := []
  /-- The greatest depth of an item. -/
  depth : Nat := 0

/-- Adds an item. -/
def SetDraft.add (d : SetDraft) (set : CodeSet) (depth : Nat) : SetDraft :=
  { d with items := set :: d.items, depth := max d.depth depth }

/-- A set together with all characters that the flag for case adds. -/
def foldSet (flags : Flags) (set : CodeSet) : CodeSet :=
  if flags.ignoreCase then
    if flags.unicode then set.ignoringCase else set.ignoringAsciiCase
  else set

/-- The set read so far with its depth. Operations apply from left to right. -/
def SetDraft.result (flags : Flags) (d : SetDraft) : CodeSet × Nat :=
  let depth := if d.items.length ≤ 1 then d.depth else d.depth + 1
  let right := CodeSet.unionAll d.items
  match d.pending with
  | none => (right, depth)
  | some (op, left, leftDepth) =>
    (op.apply (foldSet flags left) (foldSet flags right), max leftDepth depth + 1)

/-- The set of a finished bracket. Without the flag for Unicode, sets hold ASCII alone. -/
def closeSet? (flags : Flags) (negated : Bool) (set : CodeSet) : Option CodeSet :=
  let set := foldSet flags set
  let set := if negated then set.compl else set
  if flags.unicode || set.isAscii then some set else none

/-- The character that a literal stands for. Single bytes beyond ASCII need the flag for Unicode. -/
def literalChar? (flags : Flags) (c : Char) (asByte : Bool) : Option Char :=
  if asByte && !flags.unicode && c.toNat ≥ 128 then none else some c

/-- A literal within a set. -/
def setLiteral? (flags : Flags) : Atom → Option Char
  | .literal c asByte => do
    let c ← literalChar? flags c asByte
    guard (flags.unicode || c.toNat < 128)
    return c
  | _ => none

/-- A set of ASCII characters by name, such as `[:alpha:]`, after its opening bracket. -/
def readAscii? (flags : Flags) (cs : List Char) : Option (CodeSet × List Char) :=
  match cs with
  | ':' :: rest => do
    let (negated, rest) := match rest with
      | '^' :: rest => (true, rest)
      | _ => (false, rest)
    let (name, rest) ← splitAt? [':'] rest
    let set ← CodeSet.ascii? (String.ofList name)
    match rest with
    | ']' :: rest =>
      let set := foldSet flags set
      return (if negated then set.compl else set, rest)
    | _ => none
  | _ => none

/-- One member of a set: a character or an escape. -/
def readMember? (flags : Flags) : List Char → Option (Atom × List Char)
  | [] => none
  | '\\' :: rest => readEscape? flags rest
  | c :: rest => some (.literal c false, rest)

/-- A member of a set, or a range of members. -/
def readRange? (flags : Flags) (cs : List Char) : Option (CodeSet × List Char) := do
  let (first, rest) ← readMember? flags cs
  let rest := skip flags rest
  guard !rest.isEmpty
  let ahead := peekAfter flags rest
  if rest.head? ≠ some '-' ∨ ahead = some ']' ∨ ahead = some '-' then
    match first with
    | .oneOf set => return (set, rest)
    | atom => return (.ofChars [← setLiteral? flags atom], rest)
  else
    let (last, rest) ← readMember? flags (skip flags rest.tail)
    let first ← setLiteral? flags first
    let last ← setLiteral? flags last
    guard (first ≤ last)
    return (.range first last, rest)

/-- Reads the hyphens, or the closing bracket, that stand for themselves at the front of a set. -/
def readLeading (flags : Flags) (d : SetDraft) : Nat → List Char → SetDraft × List Char
  | limit + 1, '-' :: cs => readLeading flags (d.add (.ofChars ['-']) 0) limit (skip flags cs)
  | _, ']' :: cs =>
    if d.items.isEmpty then (d.add (.ofChars [']']) 0, skip flags cs) else (d, ']' :: cs)
  | _, cs => (d, cs)

mutual

/-- Reads a set after its opening bracket. -/
def readSet? (flags : Flags) : Nat → List Char → Option ((CodeSet × Nat) × List Char)
  | 0, _ => none
  | limit + 1, cs => do
    let (negated, cs) := match skip flags cs with
      | '^' :: rest => (true, skip flags rest)
      | rest => (false, rest)
    let (draft, cs) := readLeading flags {} (cs.length + 1) cs
    let ((set, depth), rest) ← readItems? flags draft limit cs
    return ((← closeSet? flags negated set, depth + 1), rest)

/-- Reads the items of a set up to its closing bracket. -/
def readItems? (flags : Flags) (d : SetDraft) :
    Nat → List Char → Option ((CodeSet × Nat) × List Char)
  | 0, _ => none
  | limit + 1, cs =>
    let operation := fun (op : SetOp) (rest : List Char) =>
      let (set, depth) := d.result flags
      readItems? flags { pending := some (op, set, depth) } limit rest
    match skip flags cs with
    | [] => none
    | '[' :: rest =>
      match readAscii? flags rest with
      | some (set, rest) =>
        if flags.unicode || set.isAscii then readItems? flags (d.add set 0) limit rest else none
      | none => do
        let ((set, depth), rest) ← readSet? flags limit rest
        readItems? flags (d.add set depth) limit rest
    | ']' :: rest => some (d.result flags, rest)
    | '&' :: '&' :: rest => operation .inter rest
    | '-' :: '-' :: rest => operation .diff rest
    | '~' :: '~' :: rest => operation .symmDiff rest
    | rest => do
      let (set, rest) ← readRange? flags rest
      readItems? flags (d.add set 0) limit rest

end

/-! ## Groups and flags -/

/-- Sets the flag with the given letter. -/
def Flags.set? (flags : Flags) (letter : Char) (value : Bool) : Option Flags :=
  match letter with
  | 'i' => some { flags with ignoreCase := value }
  | 'm' => some { flags with multiLine := value }
  | 's' => some { flags with dotAll := value }
  | 'U' => some { flags with lazy := value }
  | 'u' => some { flags with unicode := value }
  | 'R' => some { flags with crlf := value }
  | 'x' => some { flags with verbose := value }
  | _ => none

/-- Reads flags up to a colon or a closing parenthesis, which is returned. No flag may be given
twice, and one sign of negation at most, with a flag after it. -/
def readFlags? (flags : Flags) (seen : List Char) :
    List Char → Option (Flags × List Char × Char × List Char)
  | [] => none
  | c :: cs =>
    if c = ':' ∨ c = ')' then
      if seen.head? = some '-' then none else some (flags, seen, c, cs)
    else if seen.contains c then none
    else if c = '-' then readFlags? flags ('-' :: seen) cs
    else do
      let flags ← flags.set? c (!seen.contains '-')
      readFlags? flags (c :: seen) cs

/-- Whether a character may stand in the name of a group. -/
def isGroupNameChar (isFirst : Bool) (c : Char) : Bool :=
  if isFirst then c == '_' || Unicode.alphabetic.has c
  else c == '_' || c == '.' || c == '[' || c == ']' || Unicode.lettersAndNumbers.has c

/-- Reads the name of a group up to its closing angle bracket. -/
def readGroupName? (cs : List Char) : Option (List Char × List Char) :=
  let name := cs.takeWhile (· != '>')
  match name, cs.drop name.length with
  | c :: more, '>' :: rest =>
    if isGroupNameChar true c && more.all (isGroupNameChar false) then some (name, rest) else none
  | _, _ => none

/-- How a group starts. -/
inductive Opening where
  /-- A change of flags up to the end of the enclosing group. -/
  | setFlags (flags : Flags)
  /-- A group with a number of its own. -/
  | group (number : Nat) (scope : Scope)
  /-- A group that only sets flags. -/
  | plain (scope : Scope)

/-- The start of a group with a number of its own. -/
def Scope.openGroup (scope : Scope) : Opening :=
  let number := scope.groupCount + 1
  .group number { scope with groupCount := number }

/-- Reads the start of a group after its opening parenthesis. -/
def readOpening? (scope : Scope) (cs : List Char) : Option (Opening × List Char) :=
  let named := fun (rest : List Char) => do
    let (name, rest) ← readGroupName? rest
    guard !scope.groupNames.contains name
    return ({ scope with groupNames := name :: scope.groupNames }.openGroup, rest)
  match skip scope.flags cs with
  | '?' :: 'P' :: '<' :: rest => named rest
  | '?' :: '<' :: rest => named rest
  | '?' :: rest => do
    let (flags, seen, closing, rest) ← readFlags? scope.flags [] rest
    if closing = ':' then return (.plain { scope with flags }, rest)
    else
      guard !seen.isEmpty
      return (.setFlags flags, rest)
  | rest => some (scope.openGroup, rest)

/-! ## Expressions -/

/-- The expression of a literal. -/
def literal? (flags : Flags) (c : Char) (asByte : Bool) : Option Expression := do
  let c ← literalChar? flags c asByte
  if flags.ignoreCase then
    if flags.unicode then return .ofSet (Unicode.caseVariants c)
    else return .ofSet (CodeSet.ofChars [c]).ignoringAsciiCase
  else return .literal [c]

/-- The set of a dot. -/
def dotSet? (flags : Flags) : Option CodeSet :=
  if !flags.unicode then none
  else if flags.dotAll then some .all
  else if flags.crlf then some (CodeSet.ofChars ['\r', '\n']).compl
  else some (CodeSet.ofChars ['\n']).compl

/-- The condition of a caret. -/
def caret (flags : Flags) : Look :=
  if flags.multiLine then (if flags.crlf then .lineStartCrlf else .lineStart) else .textStart

/-- The condition of a dollar sign. -/
def dollar (flags : Flags) : Look :=
  if flags.multiLine then (if flags.crlf then .lineEndCrlf else .lineEnd) else .textEnd

/-- The part that a single character or an escape stands for. -/
def readAtom? (flags : Flags) : List Char → Option (Piece × List Char)
  | [] => none
  | '.' :: rest => (dotSet? flags).map fun set => (.leaf (.ofSet set), rest)
  | '^' :: rest => some (.leaf (.look (caret flags)), rest)
  | '$' :: rest => some (.leaf (.look (dollar flags)), rest)
  | '\\' :: rest => do
    let (atom, rest) ← readEscape? flags rest
    match atom with
    | .literal c asByte => return (.leaf (← literal? flags c asByte), rest)
    | .oneOf set => return (.leaf (.ofSet set), rest)
    | .look condition => return (.leaf (.look condition), rest)
  | c :: rest => (literal? flags c false).map fun e => (.leaf e, rest)

/-- Parts one after another, the last one first. -/
def sequencePiece (pieces : List Piece) : Piece :=
  match pieces with
  | [] => .leaf .nothing
  | [piece] => { piece with repeatable := true }
  | _ => ⟨.inSequence (pieces.map (·.expression)).reverse,
      (pieces.map (·.depth)).foldl max 0 + 1, true⟩

/-- Alternatives, the last one first. -/
def choicePiece (pieces : List Piece) : Piece :=
  match pieces with
  | [] => .leaf .nothing
  | [piece] => piece
  | _ => ⟨.oneOf (pieces.map (·.expression)).reverse,
      (pieces.map (·.depth)).foldl max 0 + 1, true⟩

/-- Repeats the last of the parts read so far. -/
def repeatLast? (least : Nat) (most : Option Nat) (greedy : Bool) :
    List Piece → Option (List Piece)
  | piece :: pieces =>
    if piece.repeatable then
      some (⟨piece.expression.repeated least most greedy, piece.depth + 1, true⟩ :: pieces)
    else none
  | [] => none

/-- Reads the question mark that makes a repetition try the other number of rounds first. -/
def readLazy : List Char → Bool × List Char
  | '?' :: rest => (true, rest)
  | rest => (false, rest)

/-- Reads parts up to a closing parenthesis or the end; `branches` and `pieces` hold the
alternatives and the parts of the present alternative read before, the last ones first. -/
def readParts? (scope : Scope) (branches pieces : List Piece) :
    Nat → List Char → Option (Piece × Scope × List Char)
  | 0, _ => none
  | limit + 1, cs =>
    let repeatBy := fun (least : Nat) (most : Option Nat) (rest : List Char) => do
      let (turned, rest) := readLazy rest
      let pieces ← repeatLast? least most (turned == scope.flags.lazy) pieces
      readParts? scope branches pieces limit rest
    match skip scope.flags cs with
    | [] => some (choicePiece (sequencePiece pieces :: branches), scope, [])
    | ')' :: rest => some (choicePiece (sequencePiece pieces :: branches), scope, ')' :: rest)
    | '|' :: rest => readParts? scope (sequencePiece pieces :: branches) [] limit rest
    | '(' :: rest => do
      let (opening, rest) ← readOpening? scope rest
      let inside := fun (scope' : Scope) (enclose : Expression → Expression) => do
        let (body, scope', rest) ← readParts? scope' [] [] limit rest
        match rest with
        | ')' :: rest =>
          readParts? { scope' with flags := scope.flags } branches
            (⟨enclose body.expression, body.depth + 1, true⟩ :: pieces) limit rest
        | _ => none
      match opening with
      | .setFlags flags =>
        readParts? { scope with flags } branches (⟨.nothing, 0, false⟩ :: pieces) limit rest
      | .group number inner => inside inner (.group number)
      | .plain inner => inside inner id
    | '[' :: rest => do
      let ((set, depth), rest) ← readSet? scope.flags limit rest
      readParts? scope branches (⟨.ofSet set, depth, true⟩ :: pieces) limit rest
    | '?' :: rest => repeatBy 0 (some 1) rest
    | '*' :: rest => repeatBy 0 none rest
    | '+' :: rest => repeatBy 1 none rest
    | '{' :: rest => do
      let ((least, most), rest) ← readBounds? scope.flags rest
      repeatBy least most (skip scope.flags rest)
    | rest => do
      let (piece, rest) ← readAtom? scope.flags rest
      readParts? scope branches (piece :: pieces) limit rest

/-- The pattern that a text denotes. -/
def ofText (text : String) : Except Fault Pattern :=
  let cs := text.toList
  match readParts? {} [] [] (2 * cs.length + 2) cs with
  | some (piece, _, []) =>
    if depthLimit < piece.depth then .error .malformed
    else if piece.expression.isTooLarge then .error .tooLarge
    else .ok piece.expression.pattern
  | _ => .error .malformed

end ProfileQuery.Pattern
