import Mathlib
import ProfileQuery.Proofs.Plan.Joins

/-!
# The relations that a query names

A relation gets a step of a plan when there is a column to fetch from it (`Required`): one that the
query asks for by a qualified name, or a key that it does not ask for. Of the relations that a query
names, those have exactly one step; a relation with neither is left out of the plan, though it was
named.
-/

namespace ProfileQuery.Plan

variable {s : Schema} {named asked joined : List String} {draft : Draft}

/-- Whether a name in a list is the qualified name of a column of a relation. -/
def Refers (names : List String) (relation : String) : Prop :=
  ∃ name ∈ names, (splitQualified name).1 = some relation

/-- Whether there is a column to fetch from a relation: one that is asked for, or a key that is not.
-/
def Required (s : Schema) (asked : List String) (relation : String) : Prop :=
  Refers asked relation ∨ ∃ key ∈ s.keys relation, qualified relation key ∉ asked

instance (names : List String) (relation : String) : Decidable (Refers names relation) :=
  inferInstanceAs (Decidable (∃ name ∈ names, (splitQualified name).1 = some relation))

instance (s : Schema) (asked : List String) (relation : String) :
    Decidable (Required s asked relation) :=
  inferInstanceAs (Decidable (_ ∨ _))

theorem refers_iff {names : List String} {relation : String} :
    Refers names relation ↔ ∃ column, Dotless column ∧ qualified relation column ∈ names := by
  constructor
  · rintro ⟨name, hname, hsplit⟩
    obtain ⟨heq, hc⟩ := of_splitQualified (Prod.ext hsplit rfl)
    exact ⟨_, hc, heq ▸ hname⟩
  · rintro ⟨column, hc, hmem⟩
    exact ⟨_, hmem, by rw [splitQualified_qualified hc]⟩

theorem mem_keys {relation key : String} :
    key ∈ s.keys relation ↔ ∃ r, s.relation? relation = some r ∧ key ∈ r.keys := by
  unfold Schema.keys
  cases s.relation? relation <;> simp

/-- Without dots in the names of columns, what counts is whether a relation has keys. -/
theorem required_iff (dotless : s.Dotless) {relation : String} :
    Required s asked relation ↔ Refers asked relation ∨ s.keys relation ≠ [] := by
  constructor
  · rintro (hrefers | ⟨key, hkey, -⟩)
    · exact .inl hrefers
    · exact .inr (List.ne_nil_of_mem hkey)
  · rintro (hrefers | hne)
    · exact .inl hrefers
    · obtain ⟨key, hkey⟩ := List.exists_mem_of_ne_nil _ hne
      by_cases hasked : qualified relation key ∈ asked
      · obtain ⟨r, hr, hmem⟩ := mem_keys.mp hkey
        have hc := dotless.column hr (r.keys_subset_columns hmem)
        exact .inl (refers_iff.mpr ⟨key, hc, hasked⟩)
      · exact .inr ⟨key, hkey, hasked⟩

/-- A relation has a step when something is fetched from it. -/
theorem Tidy.mem_relations {steps : List JoinStep} (tidy : Tidy steps) {relation : String} :
    relation ∈ steps.map (·.relation) ↔ ∃ column, Fetches steps relation column := by
  constructor
  · intro h
    obtain ⟨step, hstep, rfl⟩ := List.mem_map.mp h
    obtain ⟨column, hcolumn⟩ := List.exists_mem_of_ne_nil _ (tidy.columns_ne_nil step hstep)
    exact ⟨column, step, hstep, rfl, hcolumn⟩
  · rintro ⟨column, step, hstep, rfl, -⟩
    exact List.mem_map_of_mem hstep

/-- Of the joined relations those have a step of which a column is required. -/
theorem Collected.mem_relations_addKeys (h : Collected s named asked draft) (hnodup : joined.Nodup)
    {relation : String} (hjoined : relation ∈ joined) :
    relation ∈ (addKeys (keyMap s) asked joined draft.steps).map (·.relation) ↔
      Required s asked relation := by
  rw [(h.tidy_addKeys hnodup).mem_relations, Required, refers_iff]
  simp only [h.fetches_addKeys, hjoined, true_and, exists_or, mem_keys]

/-- Each relation that is named when joins are planned has exactly one step if a column of it is
required, and none otherwise. -/
theorem count_of_planJoins {projection conditionColumns named : List String}
    {steps : List JoinStep} (h : planJoins s projection conditionColumns named = .ok steps)
    {relation : String} (hnamed : relation ∈ named) :
    (steps.map (·.relation)).count relation =
      if Required s (projection ++ conditionColumns) relation then 1 else 0 := by
  obtain ⟨draft, pivots, hcollected, hpivots, hperm, -⟩ := collected_of_planJoins h
  obtain ⟨hnodup, -⟩ := nodup_append_pivots hcollected.relations_nodup hpivots
  have hjoined : relation ∈ draft.relations ++ pivots :=
    List.mem_append_left _ ((hcollected.mem_relations relation).mpr (.inl hnamed))
  have hmem := hcollected.mem_relations_addKeys hnodup hjoined
  rw [← (hperm.map _).count_eq relation]
  split
  · next hrequired =>
    exact List.count_eq_one_of_mem (hcollected.tidy_addKeys hnodup).relations_nodup
      (hmem.mpr hrequired)
  · next hnone => exact List.count_eq_zero_of_not_mem fun h => hnone (hmem.mp h)

/-- The keys of a relation that is named are fetched. -/
theorem fetches_key_of_ofSelect (dotless : s.Dotless) {q : Query.Select} {plan : SelectPlan}
    (h : ofSelect q s = .ok plan) {relation key : String} (hnamed : relation ∈ q.relations)
    (hkey : key ∈ s.keys relation) : Fetches plan.joins relation key := by
  obtain ⟨-, columns, -, hjoins⟩ := ofSelect_eq_ok.mp h
  obtain ⟨-, joined, planned⟩ := planned_of_ofSelect dotless h
  have hrequired : Required s (plan.projection ++ columns) relation :=
    (required_iff dotless).mpr (.inr (List.ne_nil_of_mem hkey))
  have hcount := count_of_planJoins hjoins hnamed
  rw [if_pos hrequired] at hcount
  obtain ⟨step, hstep, rfl⟩ := List.mem_map.mp (List.count_pos_iff.mp (hcount ▸ Nat.one_pos))
  obtain ⟨r, hr, hmem⟩ := mem_keys.mp hkey
  obtain ⟨-, r', hr', -, hkeys⟩ := planned.relation hstep
  obtain rfl := Option.some.inj (hr.symm.trans hr')
  exact ⟨step, hstep, rfl, hkeys hmem⟩

/-- What is required counts the names asked for as a set. -/
theorem required_congr {asked' : List String} (h : ∀ name, name ∈ asked ↔ name ∈ asked')
    (relation : String) : Required s asked relation ↔ Required s asked' relation := by
  simp only [Required, Refers, h]

/-- The relations that a query names are distinct and known when it is accepted. Each of them has
exactly one step of the plan if a column of it is required, and otherwise none: without dots in the
names of columns, when none of its columns is asked for and it has no keys. -/
theorem count_named_of_ofSelect {q : Query.Select} {plan : SelectPlan}
    (h : ofSelect q s = .ok plan) :
    q.relations.Nodup ∧ ∀ relation ∈ q.relations, (∃ r, s.relation? relation = some r) ∧
      (plan.joins.map (·.relation)).count relation =
        (if Required s plan.names relation then 1 else 0) ∧
      (s.Dotless → (Required s plan.names relation ↔
        Refers plan.names relation ∨ s.keys relation ≠ [])) := by
  obtain ⟨-, columns, hfilter, hjoins⟩ := ofSelect_eq_ok.mp h
  obtain ⟨hnodup, hknown⟩ := named_of_planJoins hjoins
  have hnames : ∀ name, name ∈ plan.projection ++ columns ↔ name ∈ plan.names := by
    intro name
    rw [SelectPlan.names, List.mem_append, List.mem_append, mem_of_resolveFilter hfilter]
  refine ⟨hnodup, fun relation hrelation => ⟨hknown relation hrelation, ?_, fun dotless =>
    required_iff dotless⟩⟩
  rw [count_of_planJoins hjoins hrelation]
  exact if_congr (required_congr hnames relation) rfl rfl

/-- Two relations with a key in common, and one without keys. -/
def partlyKeyed : Schema where
  relations := [
    ⟨"item", [⟨"id", .integer, true, false, none⟩, ⟨"text", .string, false, false, none⟩],
      by decide⟩,
    ⟨"parse", [⟨"id", .integer, true, false, none⟩], by decide⟩,
    ⟨"note", [⟨"body", .string, false, false, none⟩], by decide⟩]
  relations_nodup := by decide

/-- A relation that is named only is joined for its key. -/
theorem count_named_of_ofSelect_keyed : ∃ plan,
    ofSelect ⟨.columns ["text"], ["item", "parse"], none⟩ partlyKeyed = .ok plan ∧
      (plan.joins.map (·.relation)).count "parse" = 1 := by
  have hplan : ofSelect ⟨.columns ["text"], ["item", "parse"], none⟩ partlyKeyed =
      .ok ⟨["item.text"], [⟨"item", ["text", "id"]⟩, ⟨"parse", ["id"]⟩], none⟩ := by cbv
  obtain ⟨-, hcount, -⟩ := (count_named_of_ofSelect hplan).2 "parse" (by simp)
  exact ⟨_, hplan, hcount.trans (if_pos (by decide))⟩

/-- One that is named only and has no key is not joined, and the plan is accepted all the same. -/
theorem count_named_of_ofSelect_keyless : ∃ plan,
    ofSelect ⟨.columns ["text"], ["item", "note"], none⟩ partlyKeyed = .ok plan ∧
      "note" ∉ plan.joins.map (·.relation) := by
  refine ⟨⟨["item.text"], [⟨"item", ["text", "id"]⟩], none⟩, by cbv, ?_⟩
  simp

end ProfileQuery.Plan
