import ProfileQuery.Plan.Name

/-!
# Qualified names, taken apart

A qualified name whose column has no dot comes apart into the relation and the column that it was
made of, whatever the name of the relation is. So the names of two columns are equal only when both
parts are, and no bare name is a qualified one.
-/

namespace ProfileQuery.Plan

/-- A name of a column in which there is no dot. -/
def Dotless (name : String) : Prop := '.' ∉ name.toList

instance (name : String) : Decidable (Dotless name) :=
  inferInstanceAs (Decidable ('.' ∉ name.toList))

theorem splitLastDot_eq_none {cs : List Char} : splitLastDot cs = none ↔ '.' ∉ cs := by
  induction cs with
  | nil => simp [splitLastDot]
  | cons c cs ih =>
    cases h : splitLastDot cs with
    | some parts =>
      have hdot : '.' ∈ cs := Decidable.not_not.mp fun hno => by simp [ih.mpr hno] at h
      simp [splitLastDot, h, hdot]
    | none =>
      have hdot : '.' ∉ cs := ih.mp h
      by_cases hc : c = '.'
      · simp [splitLastDot, h, hc]
      · simp [splitLastDot, h, hc, hdot, Ne.symm hc]

theorem splitLastDot_append {front back : List Char} (h : '.' ∉ back) :
    splitLastDot (front ++ '.' :: back) = some (front, back) := by
  induction front with
  | nil => simp [splitLastDot, splitLastDot_eq_none.mpr h]
  | cons c front ih => simp [splitLastDot, ih]

theorem of_splitLastDot {cs front back : List Char} (h : splitLastDot cs = some (front, back)) :
    cs = front ++ '.' :: back ∧ '.' ∉ back := by
  induction cs generalizing front with
  | nil => simp [splitLastDot] at h
  | cons c cs ih =>
    unfold splitLastDot at h
    split at h
    · next front' back' hcs =>
      obtain ⟨rfl, rfl⟩ : c :: front' = front ∧ back' = back := by simpa using h
      obtain ⟨heq, hback⟩ := ih hcs
      exact ⟨by rw [heq]; rfl, hback⟩
    · next hcs =>
      split at h
      · next hc =>
        obtain ⟨rfl, rfl⟩ : [] = front ∧ cs = back := by simpa using h
        exact ⟨by rw [hc]; rfl, splitLastDot_eq_none.mp hcs⟩
      · cases h

@[simp] theorem toList_qualified (relation column : String) :
    (qualified relation column).toList = relation.toList ++ '.' :: column.toList := by
  simp [qualified]

theorem splitQualified_qualified {relation column : String} (h : Dotless column) :
    splitQualified (qualified relation column) = (some relation, column) := by
  simp [splitQualified, splitLastDot_append h]

/-- A name that has a relation is the qualified name of its parts. -/
theorem of_splitQualified {name relation column : String}
    (h : splitQualified name = (some relation, column)) :
    name = qualified relation column ∧ Dotless column := by
  unfold splitQualified at h
  split at h
  · next front back hparts =>
    obtain ⟨rfl, rfl⟩ : String.ofList front = relation ∧ String.ofList back = column := by
      simpa using h
    obtain ⟨heq, hback⟩ := of_splitLastDot hparts
    refine ⟨String.toList_inj.mp ?_, by simpa [Dotless] using hback⟩
    simp [heq]
  · simp at h

theorem qualified_inj {r r' c c' : String} (h : Dotless c) (h' : Dotless c') :
    qualified r c = qualified r' c' ↔ r = r' ∧ c = c' := by
  constructor
  · intro heq
    have parts : splitQualified (qualified r c) = (some r, c) := splitQualified_qualified h
    rw [heq, splitQualified_qualified h'] at parts
    obtain ⟨hr, hc⟩ : r' = r ∧ c' = c := by simpa using parts
    exact ⟨hr.symm, hc.symm⟩
  · rintro ⟨rfl, rfl⟩
    rfl

theorem ne_qualified {name relation column : String} (h : Dotless name) :
    name ≠ qualified relation column := by
  rintro rfl
  exact h (by simp)

end ProfileQuery.Plan
