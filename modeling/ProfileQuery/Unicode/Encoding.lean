import ProfileQuery.Unicode.CodeSet

/-!
# Encoded sets

Characters are encoded in one to four bytes. A run of characters is divided into parts whose
encodings are a product of ranges of bytes: the first byte from one range, the second from another,
and so on. `CodeSet.encoded` gives these products for a whole set, in ascending order.
-/

namespace ProfileQuery.Unicode

/-- The first and the last of a range of bytes. -/
abbrev ByteRange := Nat × Nat

/-- The bytes that encode a character. -/
def encodedBytes (c : Char) : List Nat :=
  (String.utf8EncodeChar c).map (·.toNat)

/-- The last code points that one, two and three bytes can encode. -/
def lengthLimits : List Nat := [0x7F, 0x7FF, 0xFFFF]

/-- How many characters share all bytes but the last one, the last two, the last three. -/
def blockSizes : List Nat := [64, 4096, 262144]

/-- Where a run has to be divided next: the last code point of the first part. Runs are cut where
the number of bytes changes, and then at the ends of blocks that they cover in part. -/
def cutAfter? (first last : Nat) : Option Nat :=
  match lengthLimits.find? fun limit => first ≤ limit && limit < last with
  | some limit => some limit
  | none =>
    if last ≤ 0x7F then none
    else blockSizes.findSome? fun size =>
      if first / size = last / size then none
      else if first % size ≠ 0 then some (first / size * size + (size - 1))
      else if last % size ≠ size - 1 then some (last / size * size - 1)
      else none

/-- The products of byte ranges that encode a run without surrogates. -/
def encodedRun (first last : Nat) : List (List ByteRange) :=
  match cutAfter? first last with
  | none => [(encodedBytes (Char.ofNat first)).zip (encodedBytes (Char.ofNat last))]
  | some cut =>
    if first ≤ cut ∧ cut < last then encodedRun first cut ++ encodedRun (cut + 1) last
    else []
termination_by last - first
decreasing_by
  · omega
  · omega

/-- The products of byte ranges that encode the characters of a set. -/
def CodeSet.encoded (set : CodeSet) : List (List ByteRange) :=
  set.characters.runs.toList.flatMap fun run => encodedRun run.1 run.2

end ProfileQuery.Unicode
