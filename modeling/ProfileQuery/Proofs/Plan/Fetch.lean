import Mathlib.Data.List.Nodup
import ProfileQuery.Plan.JoinOrder

/-!
# Collecting the columns of joins

The steps of a plan are collected column by column. What counts about a list of steps is which
columns it fetches from which relations (`Fetches`), and that it is tidy: no relation has two steps,
no step is empty, and none fetches a column twice.
-/

namespace ProfileQuery.Plan

/-- Whether some step fetches a column from a relation. -/
def Fetches (steps : List JoinStep) (relation column : String) : Prop :=
  ∃ step ∈ steps, step.relation = relation ∧ column ∈ step.columns

/-- One step for each relation, with at least one column, and every column once. -/
structure Tidy (steps : List JoinStep) : Prop where
  relations_nodup : (steps.map (·.relation)).Nodup
  columns_ne_nil : ∀ step ∈ steps, step.columns ≠ []
  columns_nodup : ∀ step ∈ steps, step.columns.Nodup

variable {steps steps' : List JoinStep} {relation other column c : String}

theorem fetches_cons {step : JoinStep} :
    Fetches (step :: steps) relation column ↔
      step.relation = relation ∧ column ∈ step.columns ∨ Fetches steps relation column := by
  simp [Fetches]

theorem Fetches.perm (h : steps.Perm steps') :
    Fetches steps relation column ↔ Fetches steps' relation column := by
  simp only [Fetches, h.mem_iff]

theorem Tidy.perm (h : steps.Perm steps') (tidy : Tidy steps) : Tidy steps' :=
  ⟨(h.map _).nodup_iff.mp tidy.relations_nodup,
    fun step hstep => tidy.columns_ne_nil step (h.mem_iff.mpr hstep),
    fun step hstep => tidy.columns_nodup step (h.mem_iff.mpr hstep)⟩

/-- In a tidy list a relation determines its step. -/
theorem Tidy.step_unique (tidy : Tidy steps) {step step' : JoinStep} (h : step ∈ steps)
    (h' : step' ∈ steps) (heq : step.relation = step'.relation) : step = step' :=
  List.inj_on_of_nodup_map tidy.relations_nodup h h' heq

/-! ## One column -/

theorem relations_fetch (relation column : String) (steps : List JoinStep) :
    (fetch relation column steps).map (·.relation) =
      if relation ∈ steps.map (·.relation) then steps.map (·.relation)
      else steps.map (·.relation) ++ [relation] := by
  induction steps with
  | nil => simp [fetch]
  | cons step steps ih =>
    unfold fetch
    by_cases h : step.relation = relation
    · simp [h]
    · rw [if_neg h, List.map_cons, ih]
      by_cases hmem : relation ∈ steps.map (·.relation)
      · simp only [List.map_cons, List.mem_cons, hmem, or_true, if_true]
      · simp only [List.map_cons, List.mem_cons, hmem, or_false, if_false, Ne.symm h,
          List.cons_append]

theorem fetches_fetch :
    Fetches (fetch relation column steps) other c ↔
      Fetches steps other c ∨ other = relation ∧ c = column := by
  induction steps with
  | nil => simp [Fetches, fetch, eq_comm]
  | cons step steps ih =>
    unfold fetch
    by_cases h : step.relation = relation
    · rw [if_pos h, fetches_cons, fetches_cons, h, List.mem_append, List.mem_singleton]
      by_cases hother : relation = other
      · simp [hother, or_right_comm]
      · simp [hother, Ne.symm hother]
    · rw [if_neg h, fetches_cons, fetches_cons, ih, or_assoc]

theorem mem_fetch {step : JoinStep} (h : step ∈ fetch relation column steps) :
    step ∈ steps ∨ step = ⟨relation, [column]⟩ ∨
      ∃ before ∈ steps, before.relation = relation ∧
        step = ⟨relation, before.columns ++ [column]⟩ := by
  induction steps with
  | nil => simpa [fetch] using h
  | cons first steps ih =>
    unfold fetch at h
    split at h
    · next heq =>
      rcases List.mem_cons.mp h with rfl | hmem
      · exact .inr (.inr ⟨first, List.mem_cons_self, heq, rfl⟩)
      · exact .inl (List.mem_cons_of_mem _ hmem)
    · rcases List.mem_cons.mp h with rfl | hmem
      · exact .inl List.mem_cons_self
      · rcases ih hmem with hold | hnew | ⟨before, hbefore, hstep⟩
        · exact .inl (List.mem_cons_of_mem _ hold)
        · exact .inr (.inl hnew)
        · exact .inr (.inr ⟨before, List.mem_cons_of_mem _ hbefore, hstep⟩)

theorem nodup_append_singleton {α : Type} {xs : List α} {x : α} (h : xs.Nodup) (hx : x ∉ xs) :
    (xs ++ [x]).Nodup := by
  rw [← List.concat_eq_append]
  exact h.concat hx

theorem tidy_fetch (tidy : Tidy steps) (hnew : ¬ Fetches steps relation column) :
    Tidy (fetch relation column steps) := by
  refine ⟨?_, fun step hstep => ?_, fun step hstep => ?_⟩
  · rw [relations_fetch]
    split
    · exact tidy.relations_nodup
    · next hmem =>
      exact nodup_append_singleton tidy.relations_nodup hmem
  · rcases mem_fetch hstep with hold | rfl | ⟨before, -, -, rfl⟩
    · exact tidy.columns_ne_nil step hold
    · simp
    · simp
  · rcases mem_fetch hstep with hold | rfl | ⟨before, hbefore, hrel, rfl⟩
    · exact tidy.columns_nodup step hold
    · simp
    · exact nodup_append_singleton (tidy.columns_nodup before hbefore) fun hmem =>
        hnew ⟨before, hbefore, hrel, hmem⟩

/-! ## Many columns -/

/-- Adds columns to the steps of their relations, one after another. -/
def fetchAll (pairs : List (String × String)) (steps : List JoinStep) : List JoinStep :=
  pairs.foldl (fun steps pair => fetch pair.1 pair.2 steps) steps

theorem fetches_fetchAll {pairs : List (String × String)} :
    Fetches (fetchAll pairs steps) other c ↔ Fetches steps other c ∨ (other, c) ∈ pairs := by
  induction pairs generalizing steps with
  | nil => simp [fetchAll]
  | cons pair pairs ih =>
    have step : fetchAll (pair :: pairs) steps = fetchAll pairs (fetch pair.1 pair.2 steps) := rfl
    rw [step, ih, fetches_fetch, List.mem_cons, or_assoc, Prod.ext_iff]

theorem tidy_fetchAll {pairs : List (String × String)} (tidy : Tidy steps) (hnodup : pairs.Nodup)
    (hnew : ∀ pair ∈ pairs, ¬ Fetches steps pair.1 pair.2) : Tidy (fetchAll pairs steps) := by
  induction pairs generalizing steps with
  | nil => exact tidy
  | cons pair pairs ih =>
    obtain ⟨hpair, hnodup⟩ := List.nodup_cons.mp hnodup
    refine ih (tidy_fetch tidy (hnew pair List.mem_cons_self)) hnodup fun p hp => ?_
    rw [fetches_fetch]
    rintro (hold | ⟨h1, h2⟩)
    · exact hnew p (List.mem_cons_of_mem _ hp) hold
    · exact hpair (Prod.ext h1.symm h2.symm ▸ hp)

/-- The keys of some relations that were not asked for by name. -/
def missingKeys (map : KeyMap) (asked relations : List String) : List (String × String) :=
  (relations.flatMap fun relation =>
    ((map.keys? relation).getD []).map fun key => (relation, key)).filter
      fun pair => qualified pair.1 pair.2 ∉ asked

theorem addKeys_eq_fetchAll (map : KeyMap) (asked relations : List String)
    (steps : List JoinStep) :
    addKeys map asked relations steps = fetchAll (missingKeys map asked relations) steps := by
  have perRelation : ∀ (relation : String) (keys : List String) (steps : List JoinStep),
      keys.foldl (fun steps key =>
        if qualified relation key ∈ asked then steps else fetch relation key steps) steps =
      fetchAll ((keys.map fun key => (relation, key)).filter
        fun pair => qualified pair.1 pair.2 ∉ asked) steps := by
    intro relation keys
    induction keys with
    | nil => exact fun _ => rfl
    | cons key keys ih =>
      intro steps
      rw [List.foldl_cons, ih, List.map_cons, List.filter_cons]
      by_cases h : qualified relation key ∈ asked <;> simp [h, fetchAll]
  -- the keys of one relation after those of another
  induction relations generalizing steps with
  | nil => rfl
  | cons relation relations ih =>
    have step : addKeys map asked (relation :: relations) steps =
        addKeys map asked relations (((map.keys? relation).getD []).foldl (fun steps key =>
          if qualified relation key ∈ asked then steps else fetch relation key steps) steps) := rfl
    rw [step, ih, perRelation]
    simp [fetchAll, missingKeys]

end ProfileQuery.Plan
