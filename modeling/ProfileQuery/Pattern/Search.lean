import ProfileQuery.Pattern.Basic

/-!
# Searching for a pattern

A text is searched by reading it once from left to right. The state of the search is the pattern
itself, in which those sets of characters are marked that took the last character; each step
moves the marks. A search is thus linear in the length of the text, whatever the pattern.
-/

namespace ProfileQuery

/-- A pattern in which some sets are marked. Bounded repetition is spelled out. -/
inductive Marked where
  | nothing
  /-- A set, and whether it took the last character. -/
  | one (marked : Bool) (set : Unicode.CodeSet)
  | look (condition : Look)
  | next (first second : Marked)
  | either (first second : Marked)
  | many (body : Marked)

namespace Marked

/-- A pattern repeated `n` times. -/
def power (body : Marked) (n : Nat) : Marked :=
  if n = 0 then nothing
  else if n = 1 then body
  else next (power body (n / 2)) (power body (n - n / 2))
termination_by n
decreasing_by
  · omega
  · omega

/-- A pattern without marks. A repetition that must not go on for as long as it has to describes
nothing. -/
def ofPattern : Pattern → Marked
  | .nothing => nothing
  | .one set => one false set
  | .look condition => look condition
  | .next a b => next (ofPattern a) (ofPattern b)
  | .either a b => either (ofPattern a) (ofPattern b)
  | .times body least most =>
    let body := ofPattern body
    let front := power body least
    match most with
    | none => next front (many body)
    | some most =>
      if most < least then one false .empty
      else next front (power (either body nothing) (most - least))

/-- Whether a pattern describes the empty stretch at a place. -/
def skips (gap : Gap) : Marked → Bool
  | nothing | many _ => true
  | one _ _ => false
  | look condition => condition.holds gap
  | next a b => a.skips gap && b.skips gap
  | either a b => a.skips gap || b.skips gap

/-- Whether a pattern is complete at a place, after the characters that led to its marks. -/
def ends (gap : Gap) : Marked → Bool
  | nothing | look _ => false
  | one marked _ => marked
  | next a b => (a.ends gap && b.skips gap) || b.ends gap
  | either a b => a.ends gap || b.ends gap
  | many body => body.ends gap

/-- Moves the marks over a character that comes after a place; `fresh` says whether the pattern may
start at that place. -/
def step (gap : Gap) (c : Char) (fresh : Bool) : Marked → Marked
  | nothing => nothing
  | one _ set => one (fresh && set.has c) set
  | look condition => look condition
  | next a b =>
    next (a.step gap c fresh) (b.step gap c ((fresh && a.skips gap) || a.ends gap))
  | either a b => either (a.step gap c fresh) (b.step gap c fresh)
  | many body => many (body.step gap c (fresh || body.ends gap))

/-! ## One pass

Both conditions and the step of a pattern that consists of two parts ask for conditions on its first
part. The functions below find all of them in one pass.
-/

/-- Whether a pattern describes the empty stretch at a place, and whether it is complete there. -/
def status (gap : Gap) : Marked → Bool × Bool
  | nothing => (true, false)
  | one marked _ => (false, marked)
  | look condition => (condition.holds gap, false)
  | next a b =>
    let (skipsA, endsA) := a.status gap
    let (skipsB, endsB) := b.status gap
    (skipsA && skipsB, (endsA && skipsB) || endsB)
  | either a b =>
    let (skipsA, endsA) := a.status gap
    let (skipsB, endsB) := b.status gap
    (skipsA || skipsB, endsA || endsB)
  | many body => (true, (body.status gap).2)

theorem status_eq (gap : Gap) (m : Marked) : m.status gap = (m.skips gap, m.ends gap) := by
  induction m with
  | nothing | one | look => rfl
  | next a b iha ihb | either a b iha ihb => simp only [status, iha, ihb, skips, ends]
  | many body ih => simp only [status, ih, skips, ends]

/-- A pattern after a character, and what `status` says of it before. -/
def advance (gap : Gap) (c : Char) (fresh : Bool) : Marked → Marked × Bool × Bool
  | next a b =>
    let (a', skipsA, endsA) := a.advance gap c fresh
    let (b', skipsB, endsB) := b.advance gap c ((fresh && skipsA) || endsA)
    (next a' b', skipsA && skipsB, (endsA && skipsB) || endsB)
  | either a b =>
    let (a', skipsA, endsA) := a.advance gap c fresh
    let (b', skipsB, endsB) := b.advance gap c fresh
    (either a' b', skipsA || skipsB, endsA || endsB)
  | many body =>
    let (body', _, ends) := body.advance gap c (fresh || (body.status gap).2)
    (many body', true, ends)
  | m => (m.step gap c fresh, m.status gap)

theorem advance_eq (gap : Gap) (c : Char) (fresh : Bool) (m : Marked) :
    m.advance gap c fresh = (m.step gap c fresh, m.skips gap, m.ends gap) := by
  induction m generalizing fresh with
  | nothing | one | look => rfl
  | next a b iha ihb | either a b iha ihb => simp only [advance, iha, ihb, step, skips, ends]
  | many body ih => simp only [advance, status_eq, ih, step, skips, ends]

/-- Searches the text that follows the character `before`. -/
def searchFrom (before : Option Char) (m : Marked) : List Char → Bool
  | [] =>
    let (skips, ends) := m.status ⟨before, none⟩
    skips || ends
  | c :: cs =>
    let (m, skips, ends) := m.advance ⟨before, some c⟩ c true
    skips || ends || searchFrom (some c) m cs

theorem searchFrom_nil (before : Option Char) (m : Marked) :
    m.searchFrom before [] = (m.skips ⟨before, none⟩ || m.ends ⟨before, none⟩) := by
  rw [searchFrom, status_eq]

theorem searchFrom_cons (before : Option Char) (m : Marked) (c : Char) (cs : List Char) :
    m.searchFrom before (c :: cs) =
      (m.skips ⟨before, some c⟩ || m.ends ⟨before, some c⟩ ||
        (m.step ⟨before, some c⟩ c true).searchFrom (some c) cs) := by
  rw [searchFrom, advance_eq]

end Marked

/-- Whether a pattern is found anywhere in a text. -/
def Pattern.foundIn (p : Pattern) (text : List Char) : Bool :=
  (Marked.ofPattern p).searchFrom none text

end ProfileQuery
