import Mathlib.Data.List.Perm.Basic
import Mathlib.Data.Multiset.Bind
import ProfileQuery.Proofs.Execution.Inner

/-!
# Combinations without an order

In a clear plan the parts of a combination are matched exactly when any two of them agree on the keys
that their relations share (`Consistent`). This says nothing about an order, and nor do the cells of
a combination; so what is taken from all combinations is the same, up to its order, for every order
of the relations.
-/

namespace ProfileQuery

open Plan (Clear Dotless JoinStep SelectPlan)

variable {db : Database} {steps steps' : List JoinStep} {combo combo' : Combination}

namespace Combination

/-- Whether all parts agree on the keys that they share. -/
def Consistent (combo : Combination) : Prop :=
  ∀ a ∈ combo, ∀ b ∈ combo, ∀ key ∈ a.relation.keys, key ∈ b.relation.keys →
    a.cell? key = b.cell? key

instance (combo : Combination) : Decidable combo.Consistent :=
  inferInstanceAs (Decidable (∀ a ∈ combo, ∀ b ∈ combo, ∀ key ∈ a.relation.keys,
    key ∈ b.relation.keys → a.cell? key = b.cell? key))

end Combination

/-- The step of a part in a combination. -/
theorem Database.exists_step (h : combo ∈ db.combinations steps) {part : Part}
    (hpart : part ∈ combo) : ∃ step ∈ steps, part ∈ db.parts step := by
  have hparts := Database.mem_combinations.mp h
  clear h
  induction hparts with
  | nil => cases hpart
  | cons hfirst _ ih =>
    rcases List.mem_cons.mp hpart with rfl | hmem
    · exact ⟨_, List.mem_cons_self, hfirst⟩
    · obtain ⟨step, hstep, hrest⟩ := ih hmem
      exact ⟨step, List.mem_cons_of_mem _ hstep, hrest⟩

theorem Database.keys_of_mem_parts {step : JoinStep} {part : Part} (h : part ∈ db.parts step) :
    part.columns = step.columns ∧ part.relation.keys = db.schema.keys step.relation := by
  obtain ⟨t, ht, hrelation, hcolumns, -⟩ := Database.mem_parts.mp h
  exact ⟨hcolumns, by rw [hrelation, Schema.keys_of_table? ht]⟩

/-- Where all keys are fetched, and under the name of a key nothing else, matched parts are
consistent ones. -/
theorem matched_iff_consistent (hkeys : ∀ step ∈ steps, db.schema.keys step.relation ⊆ step.columns)
    (hclear : Clear db.schema steps) (h : combo ∈ db.combinations steps) :
    combo.Matched ↔ combo.Consistent := by
  have fetched : ∀ part ∈ combo, part.relation.keys ⊆ part.columns := by
    intro part hpart
    obtain ⟨step, hstep, hparts⟩ := Database.exists_step h hpart
    obtain ⟨hcolumns, hown⟩ := Database.keys_of_mem_parts hparts
    rw [hcolumns, hown]
    exact hkeys step hstep
  constructor
  · intro hmatched
    -- every part agrees with the first one that has fetched the key
    have withFirst : ∀ part ∈ combo, ∀ key ∈ part.relation.keys, ∃ first,
        combo.find? (key ∈ ·.columns) = some first ∧ part.cell? key = first.cell? key := by
      intro part hpart key hkey
      obtain ⟨earlier, later, rfl⟩ := List.append_of_mem hpart
      have hcolumn := fetched part hpart hkey
      cases hearlier : earlier.find? (key ∈ ·.columns) with
      | some first =>
        exact ⟨first, by rw [List.find?_append, hearlier]; rfl,
          hmatched.agrees key hcolumn hkey first hearlier⟩
      | none => exact ⟨part, by simp [List.find?_append, hearlier, hcolumn], rfl⟩
    intro a ha b hb key hkey hkey'
    obtain ⟨first, hfirst, hcell⟩ := withFirst a ha key hkey
    obtain ⟨first', hfirst', hcell'⟩ := withFirst b hb key hkey'
    obtain rfl := Option.some.inj (hfirst.symm.trans hfirst')
    rw [hcell, hcell']
  · intro hconsistent k hk column _ hkey first hfirst
    have hmem : first ∈ combo := List.mem_of_mem_take (List.mem_of_find?_eq_some hfirst)
    refine hconsistent _ (List.getElem_mem hk) first hmem column hkey ?_
    obtain ⟨step, hstep, hparts⟩ := Database.exists_step h (List.getElem_mem hk)
    obtain ⟨step', hstep', hparts'⟩ := Database.exists_step h hmem
    have hcolumn : column ∈ first.columns := by simpa using List.find?_some hfirst
    by_contra hplain
    rw [(Database.keys_of_mem_parts hparts').1] at hcolumn
    rw [(Database.keys_of_mem_parts hparts').2] at hplain
    rw [(Database.keys_of_mem_parts hparts).2] at hkey
    exact hclear step' hstep' column hcolumn hplain step hstep hkey

/-! ## Permuted combinations -/

namespace Combination

theorem cellOf?_perm (hperm : combo.Perm combo') (hnodup : (combo.map (·.relation.name)).Nodup)
    (relation column : String) : combo.cellOf? relation column = combo'.cellOf? relation column := by
  by_cases h : ∃ part ∈ combo, part.relation.name = relation
  · obtain ⟨part, hpart, rfl⟩ := h
    rw [cellOf?_of_mem hnodup hpart,
      cellOf?_of_mem ((hperm.map _).nodup hnodup) (hperm.mem_iff.mp hpart)]
  · have hnone : ∀ {c : Combination}, (∀ part ∈ c, part.relation.name ≠ relation) →
        c.cellOf? relation column = none := by
      intro c hc
      have hfind : c.find? (·.relation.name = relation) = none := by simpa using hc
      rw [cellOf?, hfind]
      rfl
    rw [hnone fun part hpart heq => h ⟨part, hpart, heq⟩,
      hnone fun part hpart heq => h ⟨part, hperm.mem_iff.mpr hpart, heq⟩]

theorem cell?_perm (hperm : combo.Perm combo') (hnodup : (combo.map (·.relation.name)).Nodup) :
    combo.cell? = combo'.cell? := by
  funext name
  unfold cell?
  split
  · exact cellOf?_perm hperm hnodup _ _
  · rfl

theorem satisfies_perm (hperm : combo.Perm combo') (hnodup : (combo.map (·.relation.name)).Nodup)
    (condition : Option Query.Condition) :
    combo.satisfies condition = combo'.satisfies condition := by
  have hvalue : combo.value = combo'.value := by
    funext name
    rw [value, cell?_perm hperm hnodup, value]
  cases condition with
  | none => rfl
  | some c => rw [satisfies, hvalue, satisfies]

theorem consistent_perm (hperm : combo.Perm combo') : combo.Consistent ↔ combo'.Consistent := by
  simp only [Consistent, hperm.mem_iff]

end Combination

/-- Two loops over lists can be nested either way, up to the order of what they give. -/
theorem flatMap_comm_perm {α β γ : Type} (xs : List α) (ys : List β) (f : α → β → List γ) :
    (xs.flatMap fun x => ys.flatMap fun y => f x y).Perm
      (ys.flatMap fun y => xs.flatMap fun x => f x y) := by
  have swap := Multiset.bind_bind (xs : Multiset α) (ys : Multiset β)
    (f := fun x y => (f x y : Multiset γ))
  simpa only [Multiset.coe_bind, Multiset.coe_eq_coe] using swap

/-- What is taken from the combinations does not depend on the order of the steps, as long as it does
not depend on the order of the parts. -/
theorem Database.flatMap_combinations_perm {β : Type} (h : steps.Perm steps')
    {take : Combination → List β} (htake : ∀ combo ∈ db.combinations steps, ∀ combo',
      combo.Perm combo' → take combo = take combo') :
    ((db.combinations steps).flatMap take).Perm ((db.combinations steps').flatMap take) := by
  induction h generalizing take with
  | nil => exact .refl _
  | cons step _ ih =>
    simp only [combinations, List.flatMap_assoc, List.flatMap_map]
    refine List.Perm.flatMap_left _ fun part hpart => ih fun combo hcombo combo' hperm => ?_
    exact htake _ (List.mem_flatMap.mpr ⟨part, hpart, List.mem_map_of_mem hcombo⟩) _
      (hperm.cons part)
  | swap step other steps =>
    simp only [combinations, List.flatMap_assoc, List.flatMap_map]
    -- the two parts are taken in the other order; `take` does not see it
    refine .trans (.of_eq ?_) (flatMap_comm_perm (db.parts other) (db.parts step)
      fun b a => (db.combinations steps).flatMap fun rest => take (a :: b :: rest))
    refine List.flatMap_congr fun b hb => List.flatMap_congr fun a ha =>
      List.flatMap_congr fun rest hrest => htake _ ?_ _ (.swap a b rest)
    exact List.mem_flatMap.mpr ⟨b, hb, List.mem_map_of_mem
      (List.mem_flatMap.mpr ⟨a, ha, List.mem_map_of_mem hrest⟩)⟩
  | trans hfirst _ ih ih' =>
    refine (ih htake).trans (ih' fun combo hcombo combo' hperm => ?_)
    obtain ⟨before, hparts, hbefore⟩ :=
      List.perm_comp_forall₂ hfirst (mem_combinations.mp hcombo).flip
    have hmem := mem_combinations.mpr hparts.flip
    rw [← htake before hmem combo hbefore, htake before hmem combo' (hbefore.trans hperm)]

end ProfileQuery
