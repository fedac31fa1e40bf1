import ProfileQuery.Proofs.Plan.Bridging
import ProfileQuery.Proofs.Plan.Extension
import ProfileQuery.Proofs.Plan.Named
import ProfileQuery.Proofs.Plan.Refusal
import ProfileQuery.Proofs.Plan.Reordering

/-!
# Joins that can be ordered

Once the pivots have connected the keys of the relations to join, there is a relation across every
cut that has a key on the other side (`exists_meet`). So the search for an order of the joins never
gets stuck where each relation that is named or referred to has a key, whatever relation it starts
with and whatever it has placed already (`planJoins_ordered`).
-/

namespace ProfileQuery.Plan

variable {s : Schema} {projection conditionColumns named asked joined pivots : List String}
  {draft : Draft}

/-! ## Relations across a cut -/

theorem share_keyMap {a b : String} : KeySpaces.Share (joined.filterMap (keyMap s).keys?) a b ↔
    ∃ relation ∈ joined, a ∈ s.keys relation ∧ b ∈ s.keys relation := by
  simp only [KeySpaces.Share, List.mem_filterMap, keys?_keyMap]
  constructor
  · rintro ⟨keys, ⟨relation, hrelation, hkeys⟩, ha, hb⟩
    obtain ⟨r, hr, rfl⟩ := Option.map_eq_some_iff.mp hkeys
    exact ⟨relation, hrelation, mem_keys.mpr ⟨r, hr, ha⟩, mem_keys.mpr ⟨r, hr, hb⟩⟩
  · rintro ⟨relation, hrelation, ha, hb⟩
    obtain ⟨r, hr, ha⟩ := mem_keys.mp ha
    obtain ⟨r', hr', hb⟩ := mem_keys.mp hb
    obtain rfl := Option.some.inj (hr.symm.trans hr')
    exact ⟨r.keys, ⟨relation, hrelation, by rw [hr]; rfl⟩, ha, hb⟩

theorem mem_allKeys_keyMap {key : String} :
    key ∈ (keyMap s).allKeys joined ↔ ∃ relation ∈ joined, key ∈ s.keys relation := by
  have hshare : key ∈ (keyMap s).allKeys joined ↔
      KeySpaces.Share (joined.filterMap (keyMap s).keys?) key key := by
    simp [KeyMap.allKeys, KeySpaces.Share]
  rw [hshare, share_keyMap]
  simp only [and_self]

/-- Where all keys of some relations are connected and each relation has one, two relations on
different sides of a cut have a key in common. -/
theorem exists_meet (hone : (keyMap s).components joined ≤ 1)
    (hkeyed : ∀ relation ∈ joined, s.keys relation ≠ []) (p : String → Prop)
    (hin : ∃ a ∈ joined, p a) (hout : ∃ b ∈ joined, ¬ p b) :
    ∃ a ∈ joined, ∃ b ∈ joined, p a ∧ ¬ p b ∧ Meet s a b := by
  obtain ⟨a, ha, hpa⟩ := hin
  obtain ⟨b, hb, hpb⟩ := hout
  obtain ⟨first, hfirst⟩ := List.exists_mem_of_ne_nil _ (hkeyed a ha)
  obtain ⟨last, hlast⟩ := List.exists_mem_of_ne_nil _ (hkeyed b hb)
  have htogether := KeyMap.components_le_one_iff.mp hone
    first (mem_allKeys_keyMap.mpr ⟨a, ha, hfirst⟩) last (mem_allKeys_keyMap.mpr ⟨b, hb, hlast⟩)
  by_contra hnone
  -- along a chain of relations from the first key, all keys stay on its side
  have stays : ∀ {key}, Relation.TransGen (KeySpaces.Share (joined.filterMap (keyMap s).keys?))
      first key → ∃ relation ∈ joined, p relation ∧ key ∈ s.keys relation := by
    have side : ∀ {key key'}, (∃ relation ∈ joined, p relation ∧ key ∈ s.keys relation) →
        KeySpaces.Share (joined.filterMap (keyMap s).keys?) key key' →
        ∃ relation ∈ joined, p relation ∧ key' ∈ s.keys relation := by
      rintro key key' ⟨relation, hrelation, hp, hkey⟩ hshare
      obtain ⟨other, hother, hkeyOther, hkey'⟩ := share_keyMap.mp hshare
      refine ⟨other, hother, ?_, hkey'⟩
      by_contra hpOther
      exact hnone ⟨relation, hrelation, other, hother, hp, hpOther, key, hkey, hkeyOther⟩
    intro key hchain
    induction hchain with
    | single hshare => exact side ⟨a, ha, hpa, hfirst⟩ hshare
    | tail _ hshare ih => exact side ih hshare
  obtain ⟨relation, hrelation, hp, hkey⟩ :=
    stays ((KeySpaces.together_ofCliques _ _ _).mp htogether)
  exact hnone ⟨relation, hrelation, b, hb, hp, hpb, last, hkey, hlast⟩

/-! ## Steps that can be placed -/

/-- Each pivot has a key. -/
theorem keys_ne_nil_of_pivotRelations {relations : List String}
    (h : pivotRelations relations (keyMap s) = .ok pivots) :
    ∀ relation ∈ pivots, s.keys relation ≠ [] := by
  intro relation hrelation
  obtain ⟨hsearch, -⟩ := (pivotRelations_eq_ok_iff (nodup_keyMap s)).mp h
  obtain ⟨-, keys, hentry, hmany⟩ := hsearch.of_mem relation hrelation
  have hkeys : (s.relation? relation).map Relation.keys = some keys :=
    (keys?_keyMap s relation) ▸ KeyMap.keys?_of_mem (nodup_keyMap s) hentry
  rw [Schema.keys, hkeys]
  rintro rfl
  simp at hmany

namespace Planned

variable {steps : List JoinStep} (h : Planned s asked joined steps)
  (hkeyed : ∀ relation ∈ joined, s.keys relation ≠ [])
include h hkeyed

theorem mem_relations {relation : String} :
    relation ∈ steps.map (·.relation) ↔ relation ∈ joined := by
  constructor
  · intro hmem
    obtain ⟨step, hstep, rfl⟩ := List.mem_map.mp hmem
    exact (h.relation hstep).1
  · intro hjoined
    obtain ⟨key, hkey⟩ := List.exists_mem_of_ne_nil _ (hkeyed relation hjoined)
    exact h.tidy.mem_relations.mpr ⟨key, (h.fetches _ _).mpr (.inr ⟨hjoined, mem_keys.mp hkey⟩)⟩

variable (hone : (keyMap s).components joined ≤ 1)
include hone

/-- Whatever has been placed, one of the steps that are left fetches a key of what has. -/
theorem exists_next {placed left : List JoinStep} (hperm : (placed ++ left).Perm steps)
    (hplaced : placed ≠ []) (hleft : left ≠ []) :
    ∃ step ∈ left, ∃ column ∈ step.columns, ∃ earlier ∈ placed,
      column ∈ (keyMap s).keysOf earlier := by
  have tidy : Tidy (placed ++ left) := h.tidy.perm hperm.symm
  have hrelation : ∀ {step}, step ∈ placed ++ left → step.relation ∈ joined := fun hstep =>
    (h.relation (hperm.mem_iff.mp hstep)).1
  obtain ⟨first, hfirst⟩ := List.exists_mem_of_ne_nil _ hplaced
  obtain ⟨last, hlast⟩ := List.exists_mem_of_ne_nil _ hleft
  -- no relation has a step on both sides
  have hapart : ∀ {step}, step ∈ placed → step.relation ∉ left.map (·.relation) := by
    intro step hstep hmem
    have hnodup := tidy.relations_nodup
    rw [List.map_append, List.nodup_append] at hnodup
    exact hnodup.2.2 _ (List.mem_map_of_mem hstep) _ hmem rfl
  obtain ⟨a, -, b, hb, hain, hbout, key, hkey, hkey'⟩ :=
    exists_meet hone hkeyed (· ∈ left.map (·.relation))
      ⟨_, hrelation (List.mem_append_right _ hlast), List.mem_map_of_mem hlast⟩
      ⟨_, hrelation (List.mem_append_left _ hfirst), hapart hfirst⟩
  obtain ⟨step, hstep, rfl⟩ := List.mem_map.mp hain
  obtain ⟨earlier, hearlier, rfl⟩ := List.mem_map.mp ((h.mem_relations hkeyed).mpr hb)
  refine ⟨step, hstep, key, ?_, earlier, ?_, keysOf_keyMap s earlier ▸ hkey'⟩
  · exact h.keys_subset (hperm.mem_iff.mp (List.mem_append_right _ hstep)) hkey
  · rcases List.mem_append.mp (hperm.mem_iff.mpr hearlier) with hin | hin
    · exact hin
    · exact absurd (List.mem_map_of_mem hin) hbout

theorem exists_order : ∃ out, orderSteps (keyMap s) none steps = .ok out := by
  refine h.exists_orderSteps fun p hin hout => ?_
  simp only [h.mem_relations hkeyed] at hin hout ⊢
  exact exists_meet hone hkeyed p hin hout

end Planned

/-- Where each relation that is named or referred to has a key, planning joins never fails for their
order. Once pivots were found there is a plan; and whatever steps have been placed, in whatever
order, one of those that are left fetches a key of what has been joined. -/
theorem planJoins_ordered (dotless : s.Dotless)
    (hkeyed : ∀ r ∈ s.relations,
      r.name ∈ named ∨ Refers (projection ++ conditionColumns) r.name → r.keys ≠ []) :
    (∀ remaining,
      planJoins s projection conditionColumns named ≠ .error (.joinOrderLoop remaining)) ∧
    ∀ draft pivots, checkNamed s [] named = .ok () →
      addColumns s [] ⟨named, []⟩ (projection ++ conditionColumns) = .ok draft →
      pivotRelations draft.relations (keyMap s) = .ok pivots →
      (∃ steps, planJoins s projection conditionColumns named = .ok steps) ∧
      ∀ placed left, (placed ++ left).Perm (addKeys (keyMap s) (projection ++ conditionColumns)
          (draft.relations ++ pivots) draft.steps) → placed ≠ [] → left ≠ [] →
        ∃ step ∈ left, ∃ column ∈ step.columns, ∃ earlier ∈ placed,
          column ∈ (keyMap s).keysOf earlier := by
  have connected : ∀ draft pivots, checkNamed s [] named = .ok () →
      addColumns s [] ⟨named, []⟩ (projection ++ conditionColumns) = .ok draft →
      pivotRelations draft.relations (keyMap s) = .ok pivots →
      Planned s (projection ++ conditionColumns) (draft.relations ++ pivots)
        (addKeys (keyMap s) (projection ++ conditionColumns) (draft.relations ++ pivots)
          draft.steps) ∧
      (∀ relation ∈ draft.relations ++ pivots, s.keys relation ≠ []) ∧
      (keyMap s).components (draft.relations ++ pivots) ≤ 1 := by
    intro draft pivots hnamed hdraft hpivots
    have hcollected := collected_of_checked hnamed hdraft
    have hknown : ∀ name ∈ named, ∃ r, s.relation? name = some r := fun name hname =>
      ((checkNamed_eq_ok.mp hnamed).2 name hname).2
    refine ⟨planned_addKeys dotless hcollected hknown hpivots, fun relation hrelation => ?_,
      ((pivotRelations_eq_ok_iff (nodup_keyMap s)).mp hpivots).2⟩
    rcases List.mem_append.mp hrelation with hcollectedFrom | hpivot
    · obtain ⟨r, hr⟩ := hcollected.known hknown hpivots relation hrelation
      obtain ⟨hmem, rfl⟩ := Schema.mem_of_relation? hr
      rw [hcollected.mem_relations, ← refers_iff] at hcollectedFrom
      rw [Schema.keys, hr]
      exact hkeyed r hmem hcollectedFrom
    · exact keys_ne_nil_of_pivotRelations hpivots relation hpivot
  refine ⟨fun remaining h => ?_, fun draft pivots hnamed hdraft hpivots => ?_⟩
  · rcases planJoins_eq_error h with hrefused | ⟨draft, pivots, hnamed, hdraft, hpivots, horder⟩
    · cases hrefused
    · obtain ⟨planned, hkeys, hone⟩ := connected draft pivots hnamed hdraft hpivots
      obtain ⟨out, hout⟩ := planned.exists_order hkeys hone
      cases horder.symm.trans hout
  · obtain ⟨planned, hkeys, hone⟩ := connected draft pivots hnamed hdraft hpivots
    obtain ⟨out, hout⟩ := planned.exists_order hkeys hone
    exact ⟨⟨out, planJoins_eq_ok.mpr ⟨hnamed, draft, hdraft, pivots, hpivots, hout⟩⟩,
      fun placed left hperm hplaced hleft => planned.exists_next hkeys hone hperm hplaced hleft⟩

/-- Two relations without a common key are joined in order, with the relation that bridges them. -/
theorem planJoins_ordered_bridged : bridged.Dotless ∧
    (∀ r ∈ bridged.relations,
      r.name ∈ ["right"] ∨ Refers (["left.x"] ++ []) r.name → r.keys ≠ []) ∧
    ∃ steps, planJoins bridged ["left.x"] [] ["right"] = .ok steps := by
  have dotless : bridged.Dotless := by decide
  have hkeyed : ∀ r ∈ bridged.relations,
      r.name ∈ ["right"] ∨ Refers (["left.x"] ++ []) r.name → r.keys ≠ [] := by decide
  obtain ⟨-, hsteps⟩ := planJoins_ordered dotless hkeyed
  exact ⟨dotless, hkeyed, (hsteps ⟨["right", "left"], [⟨"left", ["x"]⟩]⟩ ["bridge"] (by cbv)
    (by cbv) (by cbv)).1⟩

/-- Where a relation has no key, no order may be found. -/
example : planJoins partlyKeyed ["item.text", "note.body"] [] [] =
    .error (.joinOrderLoop ["note"]) := by cbv

end ProfileQuery.Plan
