import Std.Data.HashMap
import ProfileQuery.Unicode.CasePairs
import ProfileQuery.Unicode.Category
import ProfileQuery.Unicode.Property

/-!
# Letters, words and case

Membership in the classes of characters that names and patterns use, and the two relations between
the letters of different case: the lower-case form of a text, and the letters that count as equal
when case is ignored.
-/

namespace ProfileQuery.Unicode

/-- The first set of a table that has the given name. -/
def findSet? (table : List (List String × CodeSet)) (name : String) : Option CodeSet :=
  (table.find? (·.1.contains name)).map (·.2)

/-- The set of a table with the given name; empty when there is none. -/
def namedSet (table : List (List String × CodeSet)) (name : String) : CodeSet :=
  (findSet? table name).getD ⟨#[]⟩

/-- Code points with the property Alphabetic. -/
def alphabetic : CodeSet := namedSet properties "alphabetic"

/-- Code points of letters that have case. -/
def cased : CodeSet := namedSet properties "cased"

/-- Code points that do not count when the letters around a letter are looked at. -/
def caseIgnorable : CodeSet := namedSet properties "caseignorable"

/-- Code points that join their neighbours or keep them apart. -/
def joinControl : CodeSet := namedSet properties "joincontrol"

/-- Code points of the decimal digits of all scripts. -/
def decimalNumber : CodeSet := namedSet categories "decimalnumber"

/-- Code points that words are made of: letters, marks, decimal digits, connectors and joiners. -/
def wordCharacters : CodeSet :=
  .unionAll (alphabetic :: decimalNumber :: joinControl ::
    ["mn", "mc", "me", "pc"].map (namedSet categories))

/-- Code points of letters and of numbers of any kind. -/
def lettersAndNumbers : CodeSet :=
  .unionAll (alphabetic :: ["nd", "nl", "no"].map (namedSet categories))

/-- Code points of blanks. -/
def whiteSpace : CodeSet := namedSet properties "whitespace"

/-- Characters that words are made of. -/
def isWord (c : Char) : Bool := wordCharacters.has c

/-! ## Lower case -/

/-- The pairs of a flat list. -/
def pairs : List Nat → List (Nat × Nat)
  | a :: b :: rest => (a, b) :: pairs rest
  | _ => []

/-- The lower-case letter of each letter that has one. -/
def lowerTable : Std.HashMap Nat Nat :=
  Std.HashMap.ofList (pairs (CodeSet.readNumbers lowerPairs))

/-- The lower-case form of a single character, out of context. The characters of ASCII need no table.
The dotted capital I is the one character with a form of two characters. -/
def lowerChar (c : Char) : List Char :=
  if c.toNat < 128 then [c.toLower]
  else if c = 'İ' then ['i', '\u0307']
  else [(lowerTable[c.toNat]?.map Char.ofNat).getD c]

/-- Whether the first character that case does not ignore is a cased letter. -/
def casedAhead (cs : List Char) : Bool :=
  match cs.dropWhile (caseIgnorable.contains ·.toNat) with
  | [] => false
  | c :: _ => cased.contains c.toNat

/-- The lower-case form of the text that follows `before`, which is given backwards. A capital sigma
at the end of a word takes its final form. -/
def lowerFrom (before : List Char) : List Char → List Char
  | [] => []
  | c :: cs =>
    let form :=
      if c = 'Σ' then (if casedAhead before && !casedAhead cs then ['ς'] else ['σ'])
      else lowerChar c
    form ++ lowerFrom (c :: before) cs

/-- The lower-case form of a text. -/
def lowercase (s : String) : String :=
  String.ofList (lowerFrom [] s.toList)

/-! ## Letters that differ in case only -/

/-- The groups of a flat list in which each group is preceded by its length. -/
def groups (numbers : List Nat) : List (List Nat) :=
  let step := fun (state : List (List Nat) × List Nat × Nat) (n : Nat) =>
    match state with
    | (done, _, 0) => (done, [], n)
    | (done, group, 1) => ((n :: group) :: done, [], 0)
    | (done, group, left + 2) => (done, n :: group, left + 1)
  (numbers.foldl step ([], [], 0)).1

/-- The groups of letters that differ in case only. -/
def letterGroups : List (List Nat) :=
  groups (CodeSet.readNumbers foldGroups)

/-- The letters of each group, found from any of them. -/
def foldTable : Std.HashMap Nat (List Nat) :=
  Std.HashMap.ofList <| letterGroups.flatMap fun group => group.map fun n => (n, group)

/-- The characters equal to `c` when case is ignored, `c` among them. -/
def caseVariants (c : Char) : CodeSet :=
  .ofCodes (foldTable[c.toNat]?.getD [c.toNat])

/-- A set together with the letters that differ from its members in case only. -/
def CodeSet.ignoringCase (set : CodeSet) : CodeSet :=
  set.union (.ofCodes (letterGroups.filter (·.any set.contains)).flatten)

/-- The code points of the small letters of ASCII. -/
def smallLetters : List Nat := (List.range 26).map (97 + ·)

/-- A set together with the letters of ASCII that differ from its members in case only. -/
def CodeSet.ignoringAsciiCase (set : CodeSet) : CodeSet :=
  let pairs := smallLetters.filter fun n => set.contains n || set.contains (n - 32)
  set.union (.ofCodes (pairs.flatMap fun n => [n, n - 32]))

end ProfileQuery.Unicode
