/-!
# Sets of code points

A set of code points is kept as its maximal runs in ascending order and searched by halving. The
tables of Unicode properties are written as run lengths: the number of code points outside the set,
then the number inside, and so on from code point zero upwards.
-/

namespace ProfileQuery.Unicode

/-- The first and the last of a run of code points. -/
abbrev Run := Nat × Nat

/-- A set of code points: its runs in ascending order, with gaps between them. -/
structure CodeSet where
  runs : Array Run
deriving Inhabited, DecidableEq, Repr

namespace CodeSet

/-! ## Membership -/

/-- Looks for `n` among the runs from index `low` up to `high`. -/
def search (runs : Array Run) (n low high : Nat) : Bool :=
  if low < high then
    let middle := (low + high) / 2
    match runs[middle]? with
    | none => false
    | some (first, last) =>
      if n < first then search runs n low middle
      else if last < n then search runs n (middle + 1) high
      else true
  else false
termination_by high - low

/-- Whether the set holds a code point. -/
def contains (set : CodeSet) (n : Nat) : Bool :=
  search set.runs n 0 set.runs.size

/-- Whether the set holds a character. -/
def has (set : CodeSet) (c : Char) : Bool :=
  set.contains c.toNat

/-- Whether the set holds code points of ASCII alone. -/
def isAscii (set : CodeSet) : Bool :=
  set.runs.back?.all (·.2 < 128)

/-- The only member of a set, if that is a character. -/
def single? (set : CodeSet) : Option Char :=
  match set.runs.toList with
  | [(first, last)] =>
    if h : first = last ∧ first.isValidChar then some (Char.ofNatAux first h.2) else none
  | _ => none

/-! ## Building sets -/

/-- Puts a run behind runs that do not start after it. A run that touches the last one extends it.
-/
def addRun (runs : Array Run) (run : Run) : Array Run :=
  match runs.back? with
  | none => runs.push run
  | some (first, last) =>
    if run.1 ≤ last + 1 then runs.pop.push (first, max last run.2) else runs.push run

/-- The code points in any of several runs. -/
def ofRuns (runs : List Run) : CodeSet :=
  ⟨(runs.mergeSort fun a b => decide (a.1 ≤ b.1)).foldl addRun #[]⟩

/-- The code points in a list. -/
def ofCodes (codes : List Nat) : CodeSet :=
  ofRuns (codes.map fun n => (n, n))

/-- The characters in a list. -/
def ofChars (cs : List Char) : CodeSet :=
  ofCodes (cs.map Char.toNat)

/-- The characters from `first` to `last`. -/
def range (first last : Char) : CodeSet :=
  ⟨#[(first.toNat, last.toNat)]⟩

/-- The set without members. -/
def empty : CodeSet := ⟨#[]⟩

/-- The last code point. -/
def lastCode : Nat := 0x10FFFF

/-- The set of all code points. -/
def all : CodeSet := ⟨#[(0, lastCode)]⟩

/-- The runs between ascending runs, from `start` on. -/
def gapsFrom (start : Nat) : List Run → List Run
  | [] => if start ≤ lastCode then [(start, lastCode)] else []
  | (first, last) :: runs =>
    if start < first then (start, first - 1) :: gapsFrom (last + 1) runs
    else gapsFrom (last + 1) runs

/-- The code points that a set lacks. -/
def compl (a : CodeSet) : CodeSet :=
  ⟨(gapsFrom 0 a.runs.toList).toArray⟩

/-- The code points of either set. -/
def union (a b : CodeSet) : CodeSet :=
  ofRuns (a.runs.toList ++ b.runs.toList)

/-- The code points of any of several sets. -/
def unionAll (sets : List CodeSet) : CodeSet :=
  ofRuns (sets.flatMap (·.runs.toList))

/-- The code points that two sets share: what is lacking in neither. -/
def inter (a b : CodeSet) : CodeSet :=
  (a.compl.union b.compl).compl

/-- The code points of the first set that the second one lacks. -/
def diff (a b : CodeSet) : CodeSet :=
  a.inter b.compl

/-- The code points that exactly one of two sets has. -/
def symmDiff (a b : CodeSet) : CodeSet :=
  (a.diff b).union (b.diff a)

/-! ## Surrogates -/

/-- The parts of a run before and after the surrogates, which are no characters. -/
def characterRuns (run : Run) : Array Run :=
  #[(run.1, min run.2 0xD7FF), (max run.1 0xE000, run.2)].filter fun part => part.1 ≤ part.2

/-- The characters of a set, which holds all surrogates or none. -/
def characters (set : CodeSet) : CodeSet :=
  if set.contains 0xD800 then ⟨set.runs.flatMap characterRuns⟩ else set

/-! ## Tables -/

/-- The numbers in a text, with other characters between them. -/
def readNumbers (text : String) : List Nat :=
  let step := fun (state : List Nat × Option Nat) (c : Char) =>
    if c.isDigit then (state.1, some (state.2.getD 0 * 10 + (c.toNat - 48)))
    else match state.2 with
      | some n => (n :: state.1, none)
      | none => state
  let (numbers, last) := text.toList.foldl step ([], none)
  (match last with | some n => n :: numbers | none => numbers).reverse

/-- The runs described by alternating lengths outside and inside the set. -/
def runsFrom (start : Nat) (runs : Array Run) : List Nat → Array Run
  | gap :: length :: rest =>
    runsFrom (start + gap + length) (runs.push (start + gap, start + gap + length - 1)) rest
  | _ => runs

/-- The set described by a text of alternating lengths. -/
def ofLengths (text : String) : CodeSet :=
  ⟨runsFrom 0 #[] (readNumbers text)⟩

end CodeSet

end ProfileQuery.Unicode
