/-!
# Name indexes

A name index sends names to positions. A name may be given again, and then the last position counts.
-/

namespace ProfileQuery

/-- Names with their positions, the last ones given first. -/
structure NameIndex where
  entries : List (String × Nat)
deriving DecidableEq, Repr

namespace NameIndex

/-- The index without names. -/
def empty : NameIndex := ⟨[]⟩

/-- The position of a name. -/
def find? (ix : NameIndex) (name : String) : Option Nat :=
  ix.entries.lookup name

/-- Gives a position to a name. -/
def put (ix : NameIndex) (name : String) (position : Nat) : NameIndex :=
  ⟨(name, position) :: ix.entries⟩

/-- Gives a position to a name that has none. -/
def putNew (ix : NameIndex) (name : String) (position : Nat) : NameIndex :=
  match ix.find? name with
  | some _ => ix
  | none => ix.put name position

/-- The index of names in a list; of a repeated name the last position counts. -/
def ofNames (names : List String) : NameIndex :=
  names.zipIdx.foldl (fun ix (name, position) => ix.put name position) empty

theorem find?_put (ix : NameIndex) (name other : String) (position : Nat) :
    (ix.put name position).find? other =
      if other = name then some position else ix.find? other := by
  by_cases h : other = name
  · simp [find?, put, h]
  · simp [find?, put, h, List.lookup_cons, beq_false_of_ne h]

theorem find?_putNew (ix : NameIndex) (name other : String) (position : Nat) :
    (ix.putNew name position).find? other =
      if other = name then some ((ix.find? name).getD position) else ix.find? other := by
  unfold putNew
  cases hname : ix.find? name with
  | some i =>
    by_cases h : other = name
    · simp [h, hname]
    · simp [h]
  | none => simp [find?_put]

end NameIndex

end ProfileQuery
