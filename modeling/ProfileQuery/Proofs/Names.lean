import Mathlib.Data.List.Sort
import Mathlib.Data.String.Basic
import ProfileQuery.Names

/-!
# Sets of names

The lists that `Names.insert` builds are sets in ascending order: what is in them is what was put
into them, and a set is determined by its elements.
-/

namespace ProfileQuery.Names

/-- In ascending order without repetitions. -/
def Ascending (names : List String) : Prop := names.Pairwise (· < ·)

theorem mem_insert {name other : String} {names : List String} :
    other ∈ insert name names ↔ other = name ∨ other ∈ names := by
  induction names with
  | nil => simp [insert]
  | cons first names ih =>
    unfold insert
    split
    · next heq => simp [heq]
    · split
      · simp
      · simp only [List.mem_cons, ih]
        tauto

theorem ascending_insert {name : String} {names : List String} (h : Ascending names) :
    Ascending (insert name names) := by
  induction names with
  | nil => simp [insert, Ascending]
  | cons first names ih =>
    obtain ⟨hfirst, hrest⟩ := List.pairwise_cons.mp h
    unfold insert
    split
    · exact h
    · next hne =>
      split
      · next hlt =>
        refine List.pairwise_cons.mpr ⟨fun other hother => ?_, h⟩
        rcases List.mem_cons.mp hother with rfl | hmem
        · exact hlt
        · exact hlt.trans (hfirst other hmem)
      · next hnot =>
        refine List.pairwise_cons.mpr ⟨fun other hother => ?_, ih hrest⟩
        rcases mem_insert.mp hother with rfl | hmem
        · exact lt_of_le_of_ne (not_lt.mp hnot) (Ne.symm hne)
        · exact hfirst other hmem

theorem mem_union {name : String} {names set : List String} :
    name ∈ union names set ↔ name ∈ names ∨ name ∈ set := by
  induction names with
  | nil => simp [union]
  | cons first names ih =>
    have step : union (first :: names) set = insert first (union names set) := rfl
    rw [step, mem_insert, ih, List.mem_cons, or_assoc]

theorem ascending_union (names : List String) {set : List String} (h : Ascending set) :
    Ascending (union names set) := by
  induction names with
  | nil => exact h
  | cons first names ih => exact ascending_insert ih

theorem mem_ofList {name : String} {names : List String} : name ∈ ofList names ↔ name ∈ names := by
  have h : name ∈ union names [] ↔ name ∈ names ∨ name ∈ [] := mem_union
  simpa [union, ofList] using h

theorem ascending_ofList (names : List String) : Ascending (ofList names) :=
  ascending_union names List.Pairwise.nil

/-- Two sets with the same elements are the same list. -/
theorem Ascending.ext {names names' : List String} (h : Ascending names) (h' : Ascending names')
    (hmem : ∀ name, name ∈ names ↔ name ∈ names') : names = names' := by
  have nodup : ∀ {ns : List String}, Ascending ns → ns.Nodup := by
    intro ns hs
    exact List.Pairwise.imp (fun hlt => ne_of_lt hlt) hs
  exact ((List.perm_ext_iff_of_nodup (nodup h) (nodup h')).mpr hmem).eq_of_pairwise
    (fun _ _ _ _ hab hba => absurd hba (not_lt.mpr hab.le)) h h'

/-- Sorted names do not depend on the order in which they were given. -/
theorem sort_perm {names names' : List String} (h : names.Perm names') : sort names = sort names' :=
  ((List.mergeSort_perm _ _).trans (h.trans (List.mergeSort_perm _ _).symm)).eq_of_pairwise'
    (List.pairwise_mergeSort' (· ≤ ·) names) (List.pairwise_mergeSort' (· ≤ ·) names')

end ProfileQuery.Names
