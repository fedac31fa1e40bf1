import Std.Data.HashMap
import ProfileQuery.Value

/-!
# Key indexes

A key index finds the rows with given key cells. Rows with the same key stay in their order.
-/

namespace ProfileQuery

/-- Rows by their key cells. -/
structure KeyIndex where
  buckets : Std.HashMap Row (List Row)

namespace KeyIndex

/-- The index without rows. -/
def empty : KeyIndex := ⟨∅⟩

/-- The rows with the given key. -/
def find (ix : KeyIndex) (key : Row) : List Row :=
  ix.buckets.getD key []

/-- Puts a row in front of the rows with its key. -/
def insert (ix : KeyIndex) (key row : Row) : KeyIndex :=
  ⟨ix.buckets.insert key (row :: ix.find key)⟩

/-- The index of rows with their keys. -/
def ofRows (rows : List (Row × Row)) : KeyIndex :=
  rows.foldr (fun (key, row) ix => ix.insert key row) empty

theorem find_empty (key : Row) : empty.find key = [] := by
  simp [empty, find]

theorem find_insert (ix : KeyIndex) (key row other : Row) :
    (ix.insert key row).find other =
      if key = other then row :: ix.find other else ix.find other := by
  unfold insert find
  rw [Std.HashMap.getD_insert]
  by_cases h : key = other
  · subst h; simp
  · simp [h]

/-- The rows found for a key are those that were given with it, in order. -/
theorem find_ofRows (rows : List (Row × Row)) (key : Row) :
    (ofRows rows).find key = (rows.filter (·.1 = key)).map (·.2) := by
  induction rows with
  | nil => exact find_empty key
  | cons pair rows ih =>
    have unfold_cons : ofRows (pair :: rows) = (ofRows rows).insert pair.1 pair.2 := rfl
    rw [unfold_cons, find_insert, ih]
    by_cases h : pair.1 = key <;> simp [h]

end KeyIndex

end ProfileQuery
