import ProfileQuery.Proofs.Plan.Extension
import ProfileQuery.Proofs.Plan.Named

/-!
# Which relations are joined

A relation is joined when it is named, referred to or a pivot, and a column of it is required
(`mem_relations_of_planJoins`). All of these are about sets of names, so the order of a request does
not count: the same pivots are found, and the same relations joined (`planJoins_relations_perm`).
-/

namespace ProfileQuery.Plan

variable {s : Schema} {named asked pivots : List String} {draft : Draft}

/-- The relations with a step are those collected from or pivots, of which a column is required. -/
theorem Collected.mem_relations_steps (h : Collected s named asked draft)
    (hpivots : pivotRelations draft.relations (keyMap s) = .ok pivots) {relation : String} :
    relation ∈ (addKeys (keyMap s) asked (draft.relations ++ pivots) draft.steps).map
        (·.relation) ↔
      relation ∈ draft.relations ++ pivots ∧ Required s asked relation := by
  obtain ⟨hnodup, -⟩ := nodup_append_pivots h.relations_nodup hpivots
  constructor
  · intro hmem
    have hjoined : relation ∈ draft.relations ++ pivots := by
      obtain ⟨step, hstep, rfl⟩ := List.mem_map.mp hmem
      exact h.mem_of_addKeys hnodup hstep
    exact ⟨hjoined, (h.mem_relations_addKeys hnodup hjoined).mp hmem⟩
  · rintro ⟨hjoined, hrequired⟩
    exact (h.mem_relations_addKeys hnodup hjoined).mpr hrequired

/-- The order in which columns are asked for and relations are named does not count: the search for
pivots ends in the same way, whatever the relations have for keys, and of two plans for the same
columns and relations each joins the relations of the other. -/
theorem planJoins_relations_perm :
    (∀ (map : KeyMap) (relations relations' : List String), relations.Perm relations' →
      pivotRelations relations map = pivotRelations relations' map) ∧
    ∀ (s : Schema) (projection projection' conditionColumns conditionColumns' named named' :
        List String) (steps steps' : List JoinStep),
      projection.Perm projection' → conditionColumns.Perm conditionColumns' →
      named.Perm named' →
      planJoins s projection conditionColumns named = .ok steps →
      planJoins s projection' conditionColumns' named' = .ok steps' →
      (steps.map (·.relation)).Perm (steps'.map (·.relation)) := by
  refine ⟨fun map relations relations' h => pivotRelations_perm h, ?_⟩
  intro s projection projection' conditionColumns conditionColumns' named named' steps steps'
    hprojection hcondition hnamed h h'
  have hasked : ∀ name, name ∈ projection ++ conditionColumns ↔
      name ∈ projection' ++ conditionColumns' := fun _ => (hprojection.append hcondition).mem_iff
  obtain ⟨draft, pivots, hcollected, hpivots, hperm, -⟩ := collected_of_planJoins h
  obtain ⟨draft', pivots', hcollected', hpivots', hperm', -⟩ := collected_of_planJoins h'
  have hrelations := hcollected.relations_perm hcollected' hnamed hasked
  obtain rfl : pivots = pivots' := by
    rw [pivotRelations_perm hrelations, hpivots'] at hpivots
    exact (Except.ok.inj hpivots).symm
  -- in both plans those relations have a step of which a column is required
  have tidy := hcollected.tidy_addKeys (nodup_append_pivots hcollected.relations_nodup hpivots).1
  have tidy' := hcollected'.tidy_addKeys
    (nodup_append_pivots hcollected'.relations_nodup hpivots').1
  have hsteps := (List.perm_ext_iff_of_nodup tidy.relations_nodup tidy'.relations_nodup).mpr
    fun relation => by
      rw [hcollected.mem_relations_steps hpivots, hcollected'.mem_relations_steps hpivots',
        (hrelations.append_right pivots).mem_iff, required_congr hasked]
  exact ((hperm.map _).symm.trans hsteps).trans (hperm'.map _)

/-- The order of a request decides what is joined first, but not what is joined. -/
theorem planJoins_relations_perm_bridged :
    planJoins bridged ["left.x", "right.y"] [] ["right", "left"] =
      .ok [⟨"left", ["x", "p"]⟩, ⟨"bridge", ["p", "q"]⟩, ⟨"right", ["y", "q"]⟩] ∧
    planJoins bridged ["right.y", "left.x"] [] ["left", "right"] =
      .ok [⟨"right", ["y", "q"]⟩, ⟨"bridge", ["p", "q"]⟩, ⟨"left", ["x", "p"]⟩] ∧
    pivotRelations ["right", "left"] (keyMap bridged) =
      pivotRelations ["left", "right"] (keyMap bridged) ∧
    ["left", "bridge", "right"].Perm ["right", "bridge", "left"] := by
  have h : planJoins bridged ["left.x", "right.y"] [] ["right", "left"] =
      .ok [⟨"left", ["x", "p"]⟩, ⟨"bridge", ["p", "q"]⟩, ⟨"right", ["y", "q"]⟩] := by cbv
  have h' : planJoins bridged ["right.y", "left.x"] [] ["left", "right"] =
      .ok [⟨"right", ["y", "q"]⟩, ⟨"bridge", ["p", "q"]⟩, ⟨"left", ["x", "p"]⟩] := by cbv
  exact ⟨h, h', planJoins_relations_perm.1 _ _ _ (.swap _ _ _),
    planJoins_relations_perm.2 _ _ _ _ _ _ _ _ _ (.swap _ _ _) .nil (.swap _ _ _) h h'⟩

end ProfileQuery.Plan
