import ProfileQuery.Plan.Basic
import ProfileQuery.Proofs.Plan.Pivot
import ProfileQuery.Proofs.Plan.Steps

/-!
# The joins of a plan

What every plan guarantees about its joins (`Planned`): no relation is joined twice, what the query
asks for is fetched, and of every joined relation all keys are; nothing else is. A plan of a query
also puts them in an order in which each fetches the name of a key joined before.
-/

namespace ProfileQuery.Plan

variable {s : Schema}

/-- Steps that fetch the columns asked for, all of joined relations, and the keys of these. -/
structure Planned (s : Schema) (asked joined : List String) (steps : List JoinStep) : Prop where
  tidy : Tidy steps
  located : ∀ name ∈ asked, ∃ relation column, Located s name relation column ∧ relation ∈ joined
  known : ∀ relation ∈ joined, ∃ r, s.relation? relation = some r
  fetches : ∀ relation column, Fetches steps relation column ↔
    Dotless column ∧ qualified relation column ∈ asked ∨
      relation ∈ joined ∧ ∃ r, s.relation? relation = some r ∧ column ∈ r.keys

theorem mem_missingKeys {asked relations : List String} {relation key : String} :
    (relation, key) ∈ missingKeys (keyMap s) asked relations ↔
      (relation ∈ relations ∧ ∃ r, s.relation? relation = some r ∧ key ∈ r.keys) ∧
        qualified relation key ∉ asked := by
  simp only [missingKeys, List.mem_filter, List.mem_flatMap, List.mem_map, keys?_keyMap,
    decide_eq_true_eq, Prod.mk.injEq]
  refine and_congr_left fun _ => ?_
  constructor
  · rintro ⟨other, hother, key', hkey, rfl, rfl⟩
    cases hr : s.relation? other with
    | none => simp [hr] at hkey
    | some r => exact ⟨hother, r, rfl, by simpa [hr] using hkey⟩
  · rintro ⟨hmem, r, hr, hkey⟩
    exact ⟨relation, hmem, key, by simpa [hr] using hkey, rfl, rfl⟩

theorem nodup_missingKeys {asked relations : List String} (h : relations.Nodup) :
    (missingKeys (keyMap s) asked relations).Nodup := by
  refine List.Nodup.filter _ (List.nodup_flatMap.mpr ⟨fun relation _ => ?_, ?_⟩)
  · refine List.Nodup.map (fun _ _ heq => (Prod.ext_iff.mp heq).2) ?_
    rw [keys?_keyMap]
    cases s.relation? relation with
    | none => exact List.nodup_nil
    | some r => exact r.keys_nodup
  · refine List.Pairwise.imp (fun {a b} hne => ?_) h
    intro pair ha hb
    obtain ⟨_, -, rfl⟩ := List.mem_map.mp ha
    obtain ⟨_, -, heq⟩ := List.mem_map.mp hb
    exact hne (Prod.ext_iff.mp heq).1.symm

section Collected

variable {named asked joined pivots : List String} {draft : Draft}

/-- What is fetched when the keys of some relations are added to collected columns. -/
theorem Collected.fetches_addKeys (h : Collected s named asked draft) {relation column : String} :
    Fetches (addKeys (keyMap s) asked joined draft.steps) relation column ↔
      Dotless column ∧ qualified relation column ∈ asked ∨
        (relation ∈ joined ∧ ∃ r, s.relation? relation = some r ∧ column ∈ r.keys) ∧
          qualified relation column ∉ asked := by
  rw [addKeys_eq_fetchAll, fetches_fetchAll, h.fetches, mem_missingKeys]

theorem Collected.tidy_addKeys (h : Collected s named asked draft) (hnodup : joined.Nodup) :
    Tidy (addKeys (keyMap s) asked joined draft.steps) := by
  rw [addKeys_eq_fetchAll]
  refine tidy_fetchAll h.tidy (nodup_missingKeys hnodup) ?_
  rintro ⟨relation, key⟩ hpair hfetched
  exact (mem_missingKeys.mp hpair).2 ((h.fetches _ _).mp hfetched).2

/-- A step fetches from a relation that is collected or whose keys were added. -/
theorem Collected.mem_of_addKeys (h : Collected s named asked draft)
    (hnodup : (draft.relations ++ pivots).Nodup) {step : JoinStep}
    (hstep : step ∈ addKeys (keyMap s) asked (draft.relations ++ pivots) draft.steps) :
    step.relation ∈ draft.relations ++ pivots := by
  obtain ⟨column, hcolumn⟩ :=
    List.exists_mem_of_ne_nil _ ((h.tidy_addKeys hnodup).columns_ne_nil step hstep)
  rcases h.fetches_addKeys.mp ⟨step, hstep, rfl, hcolumn⟩ with ⟨hc, hasked⟩ | ⟨⟨hjoined, -⟩, -⟩
  · exact List.mem_append_left _ ((h.mem_relations _).mpr (.inr ⟨column, hc, hasked⟩))
  · exact hjoined

/-- The relations that columns were collected from are known, and so are their pivots. -/
theorem Collected.known (h : Collected s named asked draft)
    (hnamed : ∀ name ∈ named, ∃ r, s.relation? name = some r)
    (hpivots : pivotRelations draft.relations (keyMap s) = .ok pivots) :
    ∀ relation ∈ draft.relations ++ pivots, ∃ r, s.relation? relation = some r := by
  intro relation hrelation
  rcases List.mem_append.mp hrelation with hdraft | hpivot
  · rcases (h.mem_relations relation).mp hdraft with hname | ⟨column, hc, hasked⟩
    · exact hnamed relation hname
    · obtain ⟨relation', column', hname, hc', r, hr, -⟩ := h.located _ hasked
      obtain ⟨rfl, rfl⟩ := (qualified_inj hc hc').mp hname
      exact ⟨r, hr⟩
  · exact (nodup_append_pivots h.relations_nodup hpivots).2 relation hpivot

/-- Collected columns together with the keys of all joined relations. -/
theorem planned_addKeys (dotless : s.Dotless) (h : Collected s named asked draft)
    (hnamed : ∀ name ∈ named, ∃ r, s.relation? name = some r)
    (hpivots : pivotRelations draft.relations (keyMap s) = .ok pivots) :
    Planned s asked (draft.relations ++ pivots)
      (addKeys (keyMap s) asked (draft.relations ++ pivots) draft.steps) := by
  obtain ⟨hnodup, -⟩ := nodup_append_pivots h.relations_nodup hpivots
  -- what is asked for by its name belongs to a relation that is collected
  have joined : ∀ relation column, Located s (qualified relation column) relation column →
      qualified relation column ∈ asked → relation ∈ draft.relations := fun relation column hl ha =>
    (h.mem_relations relation).mpr (.inr ⟨column, hl.2.1, ha⟩)
  have known := h.known hnamed hpivots
  refine ⟨h.tidy_addKeys hnodup, ?_, known, ?_⟩
  · intro name hname
    obtain ⟨relation, column, hlocated⟩ := h.located name hname
    have hrelation := joined relation column (hlocated.1 ▸ hlocated) (hlocated.1 ▸ hname)
    exact ⟨relation, column, hlocated, List.mem_append_left _ hrelation⟩
  · intro relation column
    rw [h.fetches_addKeys]
    constructor
    · exact fun hor => hor.imp id And.left
    · rintro (hasked | hkey)
      · exact .inl hasked
      · by_cases hasked : qualified relation column ∈ asked
        · obtain ⟨-, r, hr, hmem⟩ := hkey
          exact .inl ⟨dotless.column hr (r.keys_subset_columns hmem), hasked⟩
        · exact .inr ⟨hkey, hasked⟩

end Collected

namespace Planned

variable {asked joined : List String} {steps steps' : List JoinStep}

theorem perm (h : Planned s asked joined steps) (hperm : steps.Perm steps') :
    Planned s asked joined steps' :=
  ⟨h.tidy.perm hperm, h.located, h.known, fun relation column => by
    rw [← Fetches.perm hperm, h.fetches]⟩

/-- Which names are asked for counts, not how often or in which order. -/
theorem congr (h : Planned s asked joined steps) {asked' : List String}
    (heq : ∀ name, name ∈ asked ↔ name ∈ asked') : Planned s asked' joined steps :=
  ⟨h.tidy, fun name hname => h.located name ((heq name).mpr hname), h.known,
    fun relation column => by rw [h.fetches, heq]⟩

/-- A step fetches known columns of a joined relation, among them all keys. -/
theorem relation (h : Planned s asked joined steps) {step : JoinStep} (hstep : step ∈ steps) :
    step.relation ∈ joined ∧ ∃ r, s.relation? step.relation = some r ∧
      step.columns ⊆ r.columns ∧ r.keys ⊆ step.columns := by
  have ofAsked : ∀ {column}, Dotless column → qualified step.relation column ∈ asked →
      step.relation ∈ joined ∧ ∃ r, s.relation? step.relation = some r ∧ column ∈ r.columns := by
    intro column hc hasked
    obtain ⟨relation, column', ⟨hname, hc', hr⟩, hjoined⟩ := h.located _ hasked
    obtain ⟨rfl, rfl⟩ := (qualified_inj hc hc').mp hname
    exact ⟨hjoined, hr⟩
  have hjoined : step.relation ∈ joined := by
    obtain ⟨column, hcolumn⟩ := List.exists_mem_of_ne_nil _ (h.tidy.columns_ne_nil step hstep)
    rcases (h.fetches _ _).mp ⟨step, hstep, rfl, hcolumn⟩ with ⟨hc, hasked⟩ | ⟨hjoined, -⟩
    · exact (ofAsked hc hasked).1
    · exact hjoined
  obtain ⟨r, hr⟩ := h.known _ hjoined
  refine ⟨hjoined, r, hr, fun column hcolumn => ?_, fun key hkey => ?_⟩
  · rcases (h.fetches _ _).mp ⟨step, hstep, rfl, hcolumn⟩ with ⟨hc, hasked⟩ | ⟨-, r', hr', hkey⟩
    · obtain ⟨-, r', hr', hmem⟩ := ofAsked hc hasked
      obtain rfl := Option.some.inj (hr.symm.trans hr')
      exact hmem
    · obtain rfl := Option.some.inj (hr.symm.trans hr')
      exact r.keys_subset_columns hkey
  · obtain ⟨step', hstep', heq, hmem⟩ := (h.fetches _ _).mpr (.inr ⟨hjoined, r, hr, hkey⟩)
    rwa [← h.tidy.step_unique hstep' hstep heq]

/-- What is asked for is fetched from a step of its relation. -/
theorem fetches_asked (h : Planned s asked joined steps) {name : String} (hname : name ∈ asked) :
    ∃ relation column, Located s name relation column ∧ Fetches steps relation column := by
  obtain ⟨relation, column, hlocated, -⟩ := h.located name hname
  exact ⟨relation, column, hlocated,
    (h.fetches _ _).mpr (.inl ⟨hlocated.2.1, hlocated.1 ▸ hname⟩)⟩

/-- What is asked for has the name of a column that is fetched. -/
theorem exists_fetches (h : Planned s asked joined steps) : ∀ name ∈ asked, ∃ relation column,
    name = qualified relation column ∧ Fetches steps relation column := by
  intro name hname
  obtain ⟨relation, column, hlocated, hfetches⟩ := h.fetches_asked hname
  exact ⟨relation, column, hlocated.1, hfetches⟩

end Planned

/-! ## Planning -/

theorem planJoins_eq_ok {projection conditionColumns named : List String} {steps : List JoinStep} :
    planJoins s projection conditionColumns named = .ok steps ↔
      checkNamed s [] named = .ok () ∧ ∃ draft,
        addColumns s [] ⟨named, []⟩ (projection ++ conditionColumns) = .ok draft ∧ ∃ pivots,
          pivotRelations draft.relations (keyMap s) = .ok pivots ∧
            orderSteps (keyMap s) none (addKeys (keyMap s) (projection ++ conditionColumns)
              (draft.relations ++ pivots) draft.steps) = .ok steps := by
  unfold planJoins
  simp only [Outcome.bind_eq_ok]
  constructor
  · rintro ⟨_, hnamed, draft, hdraft, pivots, hpivots, horder⟩
    exact ⟨hnamed, draft, hdraft, pivots, hpivots, horder⟩
  · rintro ⟨hnamed, draft, hdraft, pivots, hpivots, horder⟩
    exact ⟨(), hnamed, draft, hdraft, pivots, hpivots, horder⟩

/-- What is collected for names that were checked. -/
theorem collected_of_checked {named asked : List String} {draft : Draft}
    (hnamed : checkNamed s [] named = .ok ())
    (hdraft : addColumns s [] ⟨named, []⟩ asked = .ok draft) : Collected s named asked draft :=
  (collected_of_addColumns (Collected.start (checkNamed_eq_ok.mp hnamed).1) hdraft).congr
    fun name => by simp

/-- The joins that are planned for some columns fetch these and the keys of all relations that are
named, referred to or pivots, in a chained order. -/
theorem collected_of_planJoins {projection conditionColumns named : List String}
    {steps : List JoinStep} (h : planJoins s projection conditionColumns named = .ok steps) :
    ∃ draft pivots, Collected s named (projection ++ conditionColumns) draft ∧
      pivotRelations draft.relations (keyMap s) = .ok pivots ∧
      (addKeys (keyMap s) (projection ++ conditionColumns) (draft.relations ++ pivots)
        draft.steps).Perm steps ∧ Chained (keyMap s) none steps := by
  obtain ⟨hnamed, draft, hdraft, pivots, hpivots, horder⟩ := planJoins_eq_ok.mp h
  obtain ⟨hperm, hchained⟩ := perm_and_chained_of_orderSteps horder
  exact ⟨draft, pivots, collected_of_checked hnamed hdraft, hpivots, hperm.symm, hchained⟩

/-- The relations that are named when joins are planned are distinct and known. -/
theorem named_of_planJoins {projection conditionColumns named : List String}
    {steps : List JoinStep} (h : planJoins s projection conditionColumns named = .ok steps) :
    named.Nodup ∧ ∀ name ∈ named, ∃ r, s.relation? name = some r := by
  obtain ⟨hnodup, hknown⟩ := checkNamed_eq_ok.mp (planJoins_eq_ok.mp h).1
  exact ⟨hnodup, fun name hname => (hknown name hname).2⟩

/-- The joins that are planned for some columns, in a chained order. -/
theorem planned_of_planJoins (dotless : s.Dotless) {projection conditionColumns named : List String}
    {steps : List JoinStep} (h : planJoins s projection conditionColumns named = .ok steps) :
    Chained (keyMap s) none steps ∧
      ∃ joined, Planned s (projection ++ conditionColumns) joined steps := by
  obtain ⟨draft, pivots, hcollected, hpivots, hperm, hchained⟩ := collected_of_planJoins h
  have planned := planned_addKeys dotless hcollected (named_of_planJoins h).2 hpivots
  exact ⟨hchained, _, planned.perm hperm⟩

/-- The qualified names in a plan: those to return and those that its condition compares. -/
def SelectPlan.names (plan : SelectPlan) : List String :=
  plan.projection ++ (plan.condition.map Query.Condition.leafColumns).getD []

theorem ofSelect_eq_ok {q : Query.Select} {plan : SelectPlan} :
    ofSelect q s = .ok plan ↔ resolveProjection q s = .ok plan.projection ∧
      ∃ columns, resolveFilter q s = .ok (plan.condition, columns) ∧
        planJoins s plan.projection columns q.relations = .ok plan.joins := by
  obtain ⟨projection, joins, condition⟩ := plan
  unfold ofSelect
  simp only [Outcome.bind_eq_ok]
  constructor
  · rintro ⟨projection', hprojection, ⟨condition', columns⟩, hfilter, joins', hjoins, heq⟩
    obtain ⟨rfl, rfl, rfl⟩ : projection' = projection ∧ joins' = joins ∧ condition' = condition := by
      simpa using Except.ok.inj heq
    exact ⟨hprojection, columns, hfilter, hjoins⟩
  · rintro ⟨hprojection, columns, hfilter, hjoins⟩
    exact ⟨projection, hprojection, (condition, columns), hfilter, joins, hjoins, rfl⟩

/-- The columns of a condition that was resolved are those that its comparisons name. -/
theorem mem_of_resolveFilter {q : Query.Select} {condition : Option Query.Condition}
    {columns : List String} (h : resolveFilter q s = .ok (condition, columns)) (name : String) :
    name ∈ columns ↔ name ∈ (condition.map Query.Condition.leafColumns).getD [] := by
  unfold resolveFilter at h
  split at h
  · obtain ⟨rfl, rfl⟩ : none = condition ∧ [] = columns := by simpa using Except.ok.inj h
    simp
  · obtain ⟨⟨resolved, columns'⟩, hresolved, heq⟩ := Outcome.bind_eq_ok.mp h
    obtain ⟨rfl, rfl⟩ : some resolved = condition ∧ columns' = columns := by
      simpa using Except.ok.inj heq
    obtain ⟨resolved', -, heq'⟩ := Outcome.bind_eq_ok.mp hresolved
    obtain ⟨rfl, rfl⟩ : resolved' = resolved ∧ resolved'.columns = columns' := by
      simpa using Except.ok.inj heq'
    exact Names.mem_ofList

/-- The joins of a plan are those planned for its names, in a chained order. -/
theorem planned_of_ofSelect (dotless : s.Dotless) {q : Query.Select} {plan : SelectPlan}
    (h : ofSelect q s = .ok plan) :
    Chained (keyMap s) none plan.joins ∧ ∃ joined, Planned s plan.names joined plan.joins := by
  obtain ⟨-, columns, hfilter, hjoins⟩ := ofSelect_eq_ok.mp h
  obtain ⟨hchained, joined, planned⟩ := planned_of_planJoins dotless hjoins
  refine ⟨hchained, joined, planned.congr fun name => ?_⟩
  rw [SelectPlan.names, List.mem_append, List.mem_append, mem_of_resolveFilter hfilter]

end ProfileQuery.Plan
