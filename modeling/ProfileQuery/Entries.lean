/-!
# Names with names under them

Lists of entries, each a name with further names that are kept under it. A name without an entry has
no names under it.
-/

namespace ProfileQuery

/-- Names, each with the names under it. -/
abbrev Entries := List (String × List String)

namespace Entries

/-- The names under a name. -/
def under (es : Entries) (name : String) : List String :=
  (es.lookup name).getD []

/-- Changes the names under a name. A name without an entry gets one at the end. -/
def change (name : String) (f : List String → List String) : Entries → Entries
  | [] => [(name, f [])]
  | (other, names) :: es =>
    if other = name then (other, f names) :: es else (other, names) :: change name f es

@[simp] theorem under_nil (name : String) : under [] name = [] := rfl

theorem under_cons (name other : String) (names : List String) (es : Entries) :
    under ((other, names) :: es) name = if name = other then names else es.under name := by
  by_cases h : name = other
  · simp [under, h]
  · simp [under, List.lookup_cons, h, beq_false_of_ne h]

theorem under_change (name other : String) (f : List String → List String) (es : Entries) :
    (es.change name f).under other = if other = name then f (es.under name) else es.under other := by
  induction es with
  | nil => simp [change, under_cons]
  | cons entry es ih =>
    obtain ⟨first, names⟩ := entry
    by_cases hfirst : first = name
    · subst hfirst
      by_cases h : other = first <;> simp [change, under_cons, h]
    · by_cases h : other = first
      · subst h
        simp [change, under_cons, hfirst]
      · simp [change, under_cons, hfirst, Ne.symm hfirst, h, ih]

/-- Changes the names under every name. -/
theorem under_map {f : List String → List String} (hf : f [] = []) (es : Entries) (name : String) :
    under (es.map fun entry => (entry.1, f entry.2)) name = f (es.under name) := by
  induction es with
  | nil => exact hf.symm
  | cons entry es ih =>
    obtain ⟨other, names⟩ := entry
    by_cases h : name = other <;> simp [under_cons, h, ih]

end Entries

end ProfileQuery
