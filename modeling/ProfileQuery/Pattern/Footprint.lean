import Std.Data.HashMap
import ProfileQuery.Pattern.Expression
import ProfileQuery.Unicode.Encoding

/-!
# The size of patterns

Patterns are bounded by the room that an automaton for their encoded texts would take, once reading
forwards and once backwards. Every state takes `stateSize` bytes, and its branches take more.
`Expression.layOut` counts the states in the order of their numbers and stops at the limit, so that
large counts of repetition do no harm. `Expression.isTooLarge` is the resulting bound.
-/

namespace ProfileQuery

open Unicode (ByteRange CodeSet encodedBytes)

/-- The direction in which an automaton reads. -/
inductive Direction where
  | forward
  | backward
deriving DecidableEq, Repr

/-- The room that an automaton takes. -/
structure Footprint where
  states : Nat := 0
  /-- The number of bytes for the branches of states. -/
  branches : Nat := 0
deriving DecidableEq, Repr

namespace Footprint

/-- The number of bytes of a state. -/
def stateSize : Nat := 32

/-- The number of bytes of a branch that takes no character. -/
def linkSize : Nat := 4

/-- The number of bytes of a branch that takes a byte from a range. -/
def moveSize : Nat := 8

/-- The number of bytes in all. -/
def bytes (f : Footprint) : Nat := stateSize * f.states + f.branches

/-- The footprint with more states and more bytes for branches. -/
def add (f : Footprint) (states branches : Nat) : Footprint :=
  ⟨f.states + states, f.branches + branches⟩

/-- A footprint within the limit. -/
def checked? (f : Footprint) : Option Footprint :=
  if f.bytes ≤ Pattern.sizeLimit then some f else none

/-- Adds states and bytes for branches, up to the limit. -/
def grow? (f : Footprint) (states branches : Nat) : Option Footprint :=
  (f.add states branches).checked?

/-- Lays out the same part `n` times. -/
def rounds? (part : Footprint → Option Footprint) : Nat → Footprint → Option Footprint
  | 0, f => some f
  | n + 1, f => do rounds? part n (← part f)

end Footprint

/-! ## Sets

States of a set that do the same are one state, as long as it is known: each state has a place in a
table of limited size, where the next state with the same place takes its turn. A state that was
driven out is laid out again.
-/

/-- A number that any change of a key is likely to change. -/
def fingerprint (key : List Nat) : UInt64 :=
  key.foldl (fun h n => (h ^^^ n.toUInt64) * 1099511628211) 14695981039346656037

/-- States that are known again, each at a place that its key determines. -/
structure KnownStates where
  places : Nat
  held : Std.HashMap Nat (List Nat × Nat) := {}

namespace KnownStates

/-- The place of a key. -/
def place (known : KnownStates) (key : List Nat) : Nat :=
  (fingerprint key).toNat % known.places

/-- The state with a key. -/
def find? (known : KnownStates) (key : List Nat) : Option Nat :=
  match known.held[known.place key]? with
  | some (other, state) => if other == key then some state else none
  | none => none

/-- Puts a state at the place of its key. -/
def insert (known : KnownStates) (key : List Nat) (state : Nat) : KnownStates :=
  { known with held := known.held.insert (known.place key) (key, state) }

end KnownStates

/-- A set that is being laid out. -/
structure SetLayout where
  footprint : Footprint
  known : KnownStates

namespace SetLayout

/-- The number of the state with a key, which is added with its bytes for branches unless it is
known. -/
def stateOf (d : SetLayout) (key : List Nat) (branches : Nat) : Nat × SetLayout :=
  match d.known.find? key with
  | some state => (state, d)
  | none =>
    let state := d.footprint.states
    (state, ⟨d.footprint.add 1 branches, d.known.insert key state⟩)

/-- Reads products of byte ranges forwards up to the state `last`: a state for each first range, and
the states for what follows it before. The products have fewer than `limit` ranges. -/
def forwards (last : Nat) : Nat → List (List ByteRange) → SetLayout → Nat × SetLayout
  | 0, _, d => (last, d)
  | limit + 1, products, d =>
    if products.all List.isEmpty then (last, d)
    else
      let branches := products.splitBy fun a b => a.head? == b.head?
      let (key, d) := branches.foldl (fun (key, d) branch =>
        let range := (branch.head?.bind List.head?).getD (0, 0)
        let (next, d) := forwards last limit (branch.map List.tail) d
        (key ++ [range.1, range.2, next], d)) ([], d)
      d.stateOf key (Footprint.moveSize * branches.length)

/-- Reads a product of byte ranges backwards down to the state `last`. -/
def backwards (last : Nat) (d : SetLayout) (product : List ByteRange) : SetLayout :=
  let (_, d) := product.foldl (fun (state, d) (range : ByteRange) =>
    d.stateOf [state, range.1, range.2] 0) (last, d)
  { d with footprint := d.footprint.add 0 Footprint.linkSize }

end SetLayout

/-- The number of places for the states of a set that is read forwards. -/
def forwardPlaces : Nat := 10000

/-- The number of places for the states of a set that is read backwards. -/
def backwardPlaces : Nat := 1000

/-- Lays out a set. One of ASCII alone takes two states, whatever its direction. -/
def Footprint.addSet (direction : Direction) (set : CodeSet) (f : Footprint) : Footprint :=
  if set.isAscii then f.add 2 (moveSize * set.runs.size)
  else
    match direction with
    | .forward =>
      let last := f.states
      let start : SetLayout := ⟨f.add 1 0, { places := forwardPlaces }⟩
      (start.forwards last 5 set.encoded).2.footprint
    | .backward =>
      let last := f.states + 1
      let start : SetLayout := ⟨f.add 2 0, { places := backwardPlaces }⟩
      (set.encoded.foldl (SetLayout.backwards last) start).footprint

/-! ## Choices between texts

Texts that start alike share their first states. A text that ends where others go on parts the ones
before it from the ones behind it.
-/

/-- The texts behind each first byte. -/
def tailsByHead (words : List (List Nat)) : List (List (List Nat)) :=
  (words.filterMap List.head?).eraseDups.map fun byte =>
    words.filterMap fun
      | [] => none
      | b :: tail => if b = byte then some tail else none

/-- Lays out a choice between texts, which are shorter than `limit`. -/
def Footprint.addWords : Nat → List (List Nat) → Footprint → Footprint
  | 0, _, f => f
  | limit + 1, words, f =>
    let rest := words.dropWhile List.isEmpty
    if rest.isEmpty then f
    else
      let ends := rest.countP List.isEmpty + (if rest.length < words.length then 1 else 0)
      let stretches := (rest.splitBy fun a b => a.isEmpty == b.isEmpty).filter
        (·.any fun word => !word.isEmpty)
      let f := stretches.foldl (fun f stretch =>
        let tails := tailsByHead stretch
        let f := tails.foldl (fun f words => addWords limit words f) f
        f.add 1 (if tails.length = 1 then 0 else moveSize * tails.length)) f
      f.add 1 (linkSize * (stretches.length + ends))

/-! ## Expressions -/

namespace Expression

/-- The bytes of an expression that is a text. -/
def word? : Expression → Option (List Nat)
  | .literal cs => some (cs.flatMap encodedBytes)
  | _ => none

/-- The bytes of alternatives that are texts, all of them. -/
def words? (options : List Expression) : Option (List (List Nat)) :=
  options.mapM word?

/-- Lays out a choice between texts that end in the same state. -/
def layOutWords (direction : Direction) (words : List (List Nat)) (f : Footprint) : Footprint :=
  let words := match direction with
    | .forward => words
    | .backward => words.map List.reverse
  (f.add 1 0).addWords ((words.map List.length).foldl max 0 + 1) words

mutual

/-- Lays out an expression behind the states laid out so far. -/
def layOut (direction : Direction) : Expression → Footprint → Option Footprint
  | .nothing, f => f.grow? 1 0
  | .look _, f => f.grow? 1 0
  | .literal cs, f => f.grow? (cs.foldl (fun n c => n + c.utf8Size) 0) 0
  | .one set, f => (f.addSet direction set).checked?
  | .group _ body, f =>
    match direction with
    | .forward => do
      let f ← f.grow? 1 0
      let f ← layOut direction body f
      f.grow? 1 0
    | .backward => layOut direction body f
  | .sequence parts, f => layOutParts direction parts f
  | .choice options, f =>
    match words? options with
    | some words => (layOutWords direction words f).checked?
    | none => do
      let f ← layOutOptions direction 0 options f
      f.grow? 0 (Footprint.linkSize * options.length)
  | .times body least most _, f =>
    let round := layOut direction body
    let optional := fun (f : Footprint) => do
      let f ← f.grow? 1 (2 * Footprint.linkSize)
      round f
    match most with
    | none =>
      if least ≠ 0 then do
        let f ← Footprint.rounds? round least f
        f.grow? 1 (2 * Footprint.linkSize)
      else if body.leastLength?.any (· ≠ 0) then optional f
      else do
        let f ← round f
        f.grow? 3 (4 * Footprint.linkSize)
    | some most =>
      if least = most then Footprint.rounds? round least f
      else if least = 0 ∧ most = 1 then do
        let f ← optional f
        f.grow? 1 0
      else do
        let f ← if least = 0 then f.grow? 1 0 else Footprint.rounds? round least f
        let f ← f.grow? 1 0
        Footprint.rounds? optional (most - least) f

/-- Lays out parts one after another, in the order in which they are read. -/
def layOutParts (direction : Direction) : List Expression → Footprint → Option Footprint
  | [], f => some f
  | part :: parts, f =>
    match direction with
    | .forward => do
      let f ← layOut direction part f
      layOutParts direction parts f
    | .backward => do
      let f ← layOutParts direction parts f
      layOut direction part f

/-- Lays out alternatives from the given index on. The states that part them and join them stand
behind the second one. -/
def layOutOptions (direction : Direction) (index : Nat) :
    List Expression → Footprint → Option Footprint
  | [], f => some f
  | option :: options, f => do
    let f ← layOut direction option f
    let f ← if index = 1 then f.grow? 2 0 else some f
    layOutOptions direction (index + 1) options f

end

/-- The footprint of an automaton for an expression, if it is within the limit. In front of the
expression stand the states that pass over characters, unless it can start at one place only; behind
it stands the last state. -/
def footprint? (direction : Direction) (e : Expression) : Option Footprint := do
  let anchored := match direction with
    | .forward => e.hasEdge .textStart false
    | .backward => e.hasEdge .textEnd true
  let f : Footprint :=
    if anchored then ⟨1, 0⟩ else ⟨3, 2 * Footprint.linkSize + Footprint.moveSize⟩
  let f ← layOut direction (.group 0 e) f
  f.grow? 1 0

/-- The number of texts from which on a choice between them is not laid out at all. -/
def manyWords : Nat := 3000

/-- Whether an expression is a choice between so many texts that they are looked up. -/
def isWordList : Expression → Bool
  | .choice options => manyWords ≤ options.length && (words? options).isSome
  | _ => false

/-- Whether an automaton for an expression would take too much room in either direction. -/
def isTooLarge (e : Expression) : Bool :=
  !e.isWordList && ((e.footprint? .forward).isNone || (e.footprint? .backward).isNone)

end Expression

end ProfileQuery
