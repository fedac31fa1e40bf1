import Mathlib.Data.List.Basic
import ProfileQuery.Plan.JoinOrder

/-!
# The order of joins

What an order of steps that was found looks like: it is a rearrangement of the steps in which each
but the first fetches a column with the name of a key joined before it (`Chained`). The converse is
about the search: it gets through whenever no part of the steps is cut off from the rest, whatever
step it starts with.
-/

namespace ProfileQuery.Plan

variable {map : KeyMap}

/-- The keys of the relation of a step. -/
def KeyMap.keysOf (map : KeyMap) (step : JoinStep) : List String :=
  (map.keys? step.relation).getD []

/-- Each step fetches a column with the name of a key joined before it; `keys` are those joined at
the start, `none` before the first step. -/
def Chained (map : KeyMap) : Option (List String) → List JoinStep → Prop
  | _, [] => True
  | keys, step :: steps =>
    (∀ ks, keys = some ks → ∃ c ∈ step.columns, c ∈ ks) ∧
      Chained map (some (keys.getD [] ++ map.keysOf step)) steps

theorem orderSteps_nil (keys : Option (List String)) : orderSteps map keys [] = .ok [] := by
  rw [orderSteps]
  rfl

/-- An order that was found is a rearrangement of the steps, and it is chained. -/
theorem perm_and_chained_of_orderSteps {keys : Option (List String)} {steps out : List JoinStep}
    (h : orderSteps map keys steps = .ok out) : out.Perm steps ∧ Chained map keys out := by
  revert out
  fun_induction orderSteps map keys steps with
  | case1 keys steps hempty =>
    intro out h
    obtain rfl : steps = [] := by simpa using hempty
    obtain rfl := Except.ok.inj h
    exact ⟨.refl _, trivial⟩
  | case2 => exact fun h => nomatch h
  | case3 => exact fun h => nomatch h
  | case4 keys steps hne possible step hfind joined later hrest =>
    rename_i ih
    intro out h
    obtain rfl := Except.ok.inj h
    obtain ⟨hperm, hchained⟩ := ih hrest
    refine ⟨?_, fun ks hks => ?_, hchained⟩
    · exact (hperm.cons step).trans (List.perm_cons_erase (List.mem_of_find?_eq_some hfind)).symm
    · have hpossible := List.find?_some hfind
      simp only [possible, hks, List.any_eq_true, List.contains_iff_mem] at hpossible
      exact hpossible

/-- In a chained order every step behind another one fetches a key of an earlier relation. -/
theorem Chained.exists_earlier {keys : Option (List String)} {before after : List JoinStep}
    {step : JoinStep} (h : Chained map keys (before ++ step :: after)) :
    (keys = none ∧ before = []) ∨ ∃ c ∈ step.columns, c ∈ keys.getD [] ∨
      ∃ earlier ∈ before, c ∈ map.keysOf earlier := by
  induction before generalizing keys with
  | nil =>
    cases keys with
    | none => exact .inl ⟨rfl, rfl⟩
    | some ks =>
      obtain ⟨c, hc, hks⟩ := h.1 ks rfl
      exact .inr ⟨c, hc, .inl hks⟩
  | cons first before ih =>
    rcases ih h.2 with ⟨hnone, -⟩ | ⟨c, hc, hkeys | ⟨earlier, hearlier, hkey⟩⟩
    · cases hnone
    · rcases List.mem_append.mp hkeys with hold | hnew
      · exact .inr ⟨c, hc, .inl hold⟩
      · exact .inr ⟨c, hc, .inr ⟨first, List.mem_cons_self, hnew⟩⟩
    · exact .inr ⟨c, hc, .inr ⟨earlier, List.mem_cons_of_mem _ hearlier, hkey⟩⟩

/-! ## Finding an order -/

/-- No part of the steps is cut off: whatever steps are left, one of them fetches a key that was
joined before or that belongs to a step outside of that part. -/
def Reaches (map : KeyMap) (keys : List String) (steps : List JoinStep) : Prop :=
  ∀ left : JoinStep → Prop, (∃ step ∈ steps, left step) →
    ∃ step ∈ steps, left step ∧ ∃ c ∈ step.columns, c ∈ keys ∨
      ∃ placed ∈ steps, ¬ left placed ∧ c ∈ map.keysOf placed

theorem Reaches.erase {keys : List String} {steps : List JoinStep}
    (h : Reaches map keys steps) (hnodup : steps.Nodup) (step : JoinStep) :
    Reaches map (keys ++ map.keysOf step) (steps.erase step) := by
  rintro left ⟨first, hfirst, hleft⟩
  obtain ⟨hne, hmem⟩ := (List.Nodup.mem_erase_iff hnodup).mp hfirst
  obtain ⟨next, hnext, ⟨hnextLeft, hnextNe⟩, c, hc, hkey⟩ :=
    h (fun other => left other ∧ other ≠ step) ⟨first, hmem, hleft, hne⟩
  refine ⟨next, (List.Nodup.mem_erase_iff hnodup).mpr ⟨hnextNe, hnext⟩, hnextLeft, c, hc, ?_⟩
  rcases hkey with hold | ⟨placed, hplaced, hout, hkeyOf⟩
  · exact .inl (List.mem_append_left _ hold)
  · by_cases heq : placed = step
    · exact .inl (List.mem_append_right _ (heq ▸ hkeyOf))
    · exact .inr ⟨placed, (List.Nodup.mem_erase_iff hnodup).mpr ⟨heq, hplaced⟩,
        fun hl => hout ⟨hl, heq⟩, hkeyOf⟩

/-- The search gets through steps of which no part is cut off. -/
theorem exists_orderSteps_of_reaches {keys : List String} {steps : List JoinStep}
    (hnodup : steps.Nodup) (h : Reaches map keys steps) :
    ∃ out, orderSteps map (some keys) steps = .ok out := by
  induction hlen : steps.length generalizing keys steps with
  | zero =>
    obtain rfl := List.length_eq_zero_iff.mp hlen
    exact ⟨[], orderSteps_nil _⟩
  | succ n ih =>
    have hne : steps ≠ [] := by
      rintro rfl
      cases hlen
    obtain ⟨first, hfirst⟩ := List.exists_mem_of_ne_nil steps hne
    -- with all steps on one side, one of them shares a key with those joined before
    obtain ⟨next, hnext, -, c, hc, hkey⟩ := h (fun _ => True) ⟨first, hfirst, trivial⟩
    have hkeys : c ∈ keys := hkey.elim id fun ⟨_, _, hout, _⟩ => absurd trivial hout
    rw [orderSteps]
    have hempty : steps.isEmpty = false := by simpa using hne
    simp only [hempty, Bool.false_eq_true, if_false]
    split
    · next hnone =>
      have hno := List.find?_eq_none.mp hnone next hnext
      simp only [List.any_eq_true, List.contains_iff_mem] at hno
      exact absurd ⟨c, hc, hkeys⟩ hno
    · next step hfind =>
      have hmem := List.mem_of_find?_eq_some hfind
      have hlater : (steps.erase step).length = n := by
        rw [List.length_erase_of_mem hmem]
        omega
      obtain ⟨later, hlater⟩ := ih (hnodup.erase step) (h.erase hnodup step) hlater
      exact ⟨step :: later, by
        rw [show (some keys).getD [] ++ (map.keys? step.relation).getD [] =
          keys ++ map.keysOf step from rfl, hlater]⟩

end ProfileQuery.Plan
