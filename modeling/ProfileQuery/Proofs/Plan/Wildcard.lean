import ProfileQuery.Proofs.Plan.Extension
import ProfileQuery.Proofs.Plan.Named

/-!
# Plans for whole relations

A wildcard asks for every column of the named relations by its qualified name, and for a key that
several of them have under the name of the first only (`askedUnder_mem`). Of a single relation it
asks for every column in order (`projectAll_singleton`). Where no column has a dot in its name, the
plan is to join the relation alone and to fetch these columns (`planJoins_relation`). A dot in the
name of a column belongs to the relation when the qualified name is taken apart again, and then every
plan joins another relation (`exists_other_of_planJoins`).
-/

namespace ProfileQuery.Plan

variable {s : Schema} {r : Relation} {relation : String} {steps : List JoinStep}

/-! ## The columns that are asked for -/

/-- A wildcard asks for the fields of a relation that are not keys it asked for before. -/
theorem projectFields_fst {keys : List String} {fields : List Field}
    (hnodup : (fields.map (·.name)).Nodup) :
    (projectFields relation keys fields).1 =
      (fields.filter fun f => !(f.isKey && keys.contains f.name)).map
        fun f => qualified relation f.name := by
  induction fields generalizing keys with
  | nil => rfl
  | cons f fields ih =>
    rw [List.map_cons, List.nodup_cons] at hnodup
    obtain ⟨hout, hnodup⟩ := hnodup
    rw [projectFields, List.filter_cons]
    cases hdrop : f.isKey && keys.contains f.name with
    | true => simpa using ih hnodup
    | false =>
      -- the field adds no name that a later one has
      have hlater : ∀ g ∈ fields, (g.isKey && (if f.isKey then keys ++ [f.name] else
          keys).contains g.name) = (g.isKey && keys.contains g.name) := by
        intro g hg
        have hne : g.name ≠ f.name := fun heq => hout (heq ▸ List.mem_map_of_mem hg)
        cases f.isKey <;> simp [hne]
      simp only [Bool.false_eq_true, if_false, Bool.not_false, if_true, List.map_cons, ih hnodup]
      rw [List.filter_congr fun g hg => congrArg (!·) (hlater g hg)]

theorem mem_projectFields_snd {keys : List String} {fields : List Field} {column : String} :
    column ∈ (projectFields relation keys fields).2 ↔
      column ∈ keys ∨ ∃ f ∈ fields, f.isKey = true ∧ f.name = column := by
  induction fields generalizing keys with
  | nil => simp [projectFields]
  | cons f fields ih =>
    rw [projectFields, List.exists_mem_cons_iff]
    cases hdrop : f.isKey && keys.contains f.name with
    | true =>
      obtain ⟨-, hseen⟩ := Bool.and_eq_true_iff.mp hdrop
      have hseen : f.name ∈ keys := by simpa using hseen
      have habsorb : f.isKey = true ∧ f.name = column → column ∈ keys := fun h => h.2 ▸ hseen
      rw [if_pos rfl, ih, ← or_assoc, or_iff_left_of_imp habsorb]
    | false =>
      simp only [Bool.false_eq_true, if_false, ih]
      cases f.isKey <;> simp [or_assoc, @eq_comm _ column]

/-- A wildcard asks for every column of a relation. -/
theorem projectAll_singleton (hr : s.relation? r.name = some r) :
    projectAll s [r.name] = .ok (r.columns.map (qualified r.name)) := by
  simp only [projectAll, projectRelations, Schema.relation_eq_ok.mpr hr, Outcome.bind_ok,
    projectFields_fst r.fields_nodup]
  simp [Relation.columns, pure, Except.pure]

/-! ## Several relations -/

theorem mem_projectFields {keys : List String} {name : String} :
    name ∈ (projectFields relation keys r.fields).1 ↔
      ∃ column ∈ r.columns, name = qualified relation column ∧ (column ∈ r.keys → column ∉ keys) := by
  rw [projectFields_fst r.fields_nodup]
  constructor
  · intro h
    obtain ⟨f, hf, rfl⟩ := List.mem_map.mp h
    obtain ⟨hf, hshown⟩ := List.mem_filter.mp hf
    refine ⟨f.name, List.mem_map_of_mem hf, rfl, fun hkey hold => ?_⟩
    have hkey := (Relation.mem_keys_iff (r.field?_name hf)).mp hkey
    simp [hkey, hold] at hshown
  · rintro ⟨column, hc, rfl, hnew⟩
    obtain ⟨f, hf, rfl⟩ := List.mem_map.mp hc
    rw [Relation.mem_keys_iff (r.field?_name hf)] at hnew
    refine List.mem_map.mpr ⟨f, List.mem_filter.mpr ⟨hf, ?_⟩, rfl⟩
    cases hkey : f.isKey with
    | true => simp [hnew hkey]
    | false => rfl

/-- A wildcard asks for the columns of the named relations, except the keys that a relation named
before has as well. -/
theorem mem_projectRelations {keys named projection : List String}
    (h : projectRelations s keys named = .ok projection) {name : String} :
    name ∈ projection ↔ ∃ before relation after, named = before ++ relation :: after ∧
      ∃ r, s.relation? relation = some r ∧ ∃ column ∈ r.columns, name = qualified relation column ∧
        (column ∈ r.keys → column ∉ keys ∧ ∀ other ∈ before, column ∉ s.keys other) := by
  induction named generalizing keys projection with
  | nil =>
    obtain rfl := Except.ok.inj h
    simp
  | cons first named ih =>
    obtain ⟨r, hr, hrest⟩ := Outcome.bind_eq_ok.mp h
    obtain ⟨back, hback, heq⟩ := Outcome.bind_eq_ok.mp hrest
    obtain rfl := Except.ok.inj heq
    have hr := Schema.relation_eq_ok.mp hr
    have hkeys : ∀ column, column ∈ (projectFields first keys r.fields).2 ↔
        column ∈ keys ∨ column ∈ s.keys first := by
      simp [mem_projectFields_snd, Schema.keys, hr, Relation.keys, and_assoc]
    rw [List.mem_append, mem_projectFields, ih hback]
    simp only [hkeys, not_or]
    constructor
    · rintro (⟨column, hc, rfl, hnew⟩ |
        ⟨before, relation, after, rfl, r', hr', column, hc, rfl, hnew⟩)
      · exact ⟨[], first, named, rfl, r, hr, column, hc, rfl, fun hkey => ⟨hnew hkey, by simp⟩⟩
      · refine ⟨first :: before, relation, after, rfl, r', hr', column, hc, rfl, fun hkey => ?_⟩
        obtain ⟨⟨hold, hfirst⟩, hbefore⟩ := hnew hkey
        exact ⟨hold, List.forall_mem_cons.mpr ⟨hfirst, hbefore⟩⟩
    · rintro ⟨before, relation, after, hnamed, r', hr', column, hc, rfl, hnew⟩
      cases before with
      | nil =>
        obtain ⟨rfl, rfl⟩ := List.cons.inj hnamed
        obtain rfl := Option.some.inj (hr.symm.trans hr')
        exact .inl ⟨column, hc, rfl, fun hkey => (hnew hkey).1⟩
      | cons _ before =>
        obtain ⟨rfl, rfl⟩ := List.cons.inj hnamed
        refine .inr ⟨before, relation, after, rfl, r', hr', column, hc, rfl, fun hkey => ?_⟩
        obtain ⟨hold, hbefore⟩ := hnew hkey
        obtain ⟨hfirst, hbefore⟩ := List.forall_mem_cons.mp hbefore
        exact ⟨⟨hold, hfirst⟩, hbefore⟩

/-- A wildcard asks for no name twice. -/
theorem nodup_projectRelations (dotless : s.Dotless) {keys named projection : List String}
    (hnodup : named.Nodup) (h : projectRelations s keys named = .ok projection) :
    projection.Nodup := by
  induction named generalizing keys projection with
  | nil =>
    obtain rfl := Except.ok.inj h
    exact .nil
  | cons first named ih =>
    obtain ⟨hout, hnodup⟩ := List.nodup_cons.mp hnodup
    obtain ⟨r, hr, hrest⟩ := Outcome.bind_eq_ok.mp h
    obtain ⟨back, hback, heq⟩ := Outcome.bind_eq_ok.mp hrest
    obtain rfl := Except.ok.inj heq
    have hr := Schema.relation_eq_ok.mp hr
    refine List.Nodup.append ?_ (ih hnodup hback) fun name hfront hlater => ?_
    · have hnames : ((r.fields.filter fun f => !(f.isKey && keys.contains f.name)).map
          (·.name)).Nodup := r.fields_nodup.sublist (List.filter_sublist.map _)
      have hinjective : Function.Injective (qualified first) := by
        intro c c' heq
        rw [← String.toList_inj] at heq ⊢
        simpa using heq
      have hasked := hnames.map hinjective
      rw [List.map_map] at hasked
      rw [projectFields_fst r.fields_nodup]
      exact hasked
    · obtain ⟨column, hc, rfl, -⟩ := mem_projectFields.mp hfront
      obtain ⟨before, relation, after, rfl, r', hr', column', hc', heq, -⟩ :=
        (mem_projectRelations hback).mp hlater
      obtain ⟨rfl, -⟩ := (qualified_inj (dotless.column hr hc) (dotless.column hr' hc')).mp heq
      exact hout (by simp)

/-- The relation under whose name a wildcard asks for a column of a named relation: for a key the
first that has it as a key. -/
def askedUnder (s : Schema) (named : List String) (relation column : String) : String :=
  if column ∈ s.keys relation then (named.find? (column ∈ s.keys ·)).getD relation else relation

theorem askedUnder_of_key {named : List String} {column : String} (hnamed : relation ∈ named)
    (hkey : column ∈ s.keys relation) : ∃ before after,
      named = before ++ askedUnder s named relation column :: after ∧
        column ∈ s.keys (askedUnder s named relation column) ∧
          ∀ other ∈ before, column ∉ s.keys other := by
  obtain ⟨first, hfirst⟩ := Option.isSome_iff_exists.mp
    (by simpa using ⟨relation, hnamed, hkey⟩ : (named.find? (column ∈ s.keys ·)).isSome = true)
  rw [askedUnder, if_pos hkey, hfirst, Option.getD_some]
  obtain ⟨hmem, before, after, hsplit, hbefore⟩ := List.find?_eq_some_iff_append.mp hfirst
  exact ⟨before, after, hsplit, by simpa using hmem, by simpa using hbefore⟩

/-- A wildcard asks for every column of a named relation. -/
theorem askedUnder_mem {named projection : List String} {column : String}
    (h : projectAll s named = .ok projection) (hnamed : relation ∈ named)
    (hr : s.relation? relation = some r) (hc : column ∈ r.columns) :
    qualified (askedUnder s named relation column) column ∈ projection := by
  refine (mem_projectRelations h).mpr ?_
  by_cases hkey : column ∈ s.keys relation
  · obtain ⟨before, after, hsplit, hfirst, hbefore⟩ := askedUnder_of_key hnamed hkey
    obtain ⟨r', hr', hmem⟩ := mem_keys.mp hfirst
    exact ⟨before, _, after, hsplit, r', hr', column, r'.keys_subset_columns hmem, rfl,
      fun _ => ⟨List.not_mem_nil, hbefore⟩⟩
  · obtain ⟨before, after, hsplit⟩ := List.append_of_mem hnamed
    rw [askedUnder, if_neg hkey]
    refine ⟨before, relation, after, hsplit, r, hr, column, hc, rfl, fun hmem => ?_⟩
    exact absurd (mem_keys.mpr ⟨r, hr, hmem⟩) hkey

/-- A column is asked for under the name of its own relation, or it is a key of both. -/
theorem askedUnder_eq_or_key {named : List String} {column : String} (hnamed : relation ∈ named) :
    askedUnder s named relation column = relation ∨
      column ∈ s.keys relation ∧ column ∈ s.keys (askedUnder s named relation column) := by
  by_cases hkey : column ∈ s.keys relation
  · obtain ⟨-, -, -, hfirst, -⟩ := askedUnder_of_key hnamed hkey
    exact .inr ⟨hkey, hfirst⟩
  · exact .inl (if_neg hkey)

/-! ## The columns that are fetched -/

/-- Columns of one relation are fetched by one step. -/
theorem fetchAll_singleton (columns more : List String) :
    fetchAll (more.map (relation, ·)) [⟨relation, columns⟩] = [⟨relation, columns ++ more⟩] := by
  induction more generalizing columns with
  | nil => rw [List.append_nil]; rfl
  | cons c more ih =>
    have hstep : fetchAll ((c :: more).map (relation, ·)) [⟨relation, columns⟩] =
        fetchAll (more.map (relation, ·)) (fetch relation c [⟨relation, columns⟩]) := rfl
    rw [hstep, fetch, if_pos rfl, ih, List.append_assoc]
    rfl

theorem fetchAll_nil {columns : List String} (hne : columns ≠ []) :
    fetchAll (columns.map (relation, ·)) [] = [⟨relation, columns⟩] := by
  obtain ⟨c, columns, rfl⟩ := List.exists_cons_of_ne_nil hne
  exact fetchAll_singleton [c] columns

/-- Columns of a relation that is named already are collected in order. -/
theorem addColumns_relation (hr : s.relation? r.name = some r) {columns seen : List String}
    (hc : columns ⊆ r.columns) (hdot : ∀ c ∈ columns, Dotless c) (hnodup : columns.Nodup)
    (hnew : ∀ c ∈ columns, qualified r.name c ∉ seen) :
    addColumns s seen ⟨[r.name], steps⟩ (columns.map (qualified r.name)) =
      .ok ⟨[r.name], fetchAll (columns.map (r.name, ·)) steps⟩ := by
  induction columns generalizing seen steps with
  | nil => rfl
  | cons c columns ih =>
    obtain ⟨hcdot, hdots⟩ := List.forall_mem_cons.mp hdot
    obtain ⟨hcnew, hnews⟩ := List.forall_mem_cons.mp hnew
    obtain ⟨hout, hnodup⟩ := List.nodup_cons.mp hnodup
    have hlocated : locate s (qualified r.name c) = .ok (r.name, c) :=
      locate_eq_ok.mpr ⟨rfl, hcdot, r, hr, hc List.mem_cons_self⟩
    rw [List.map_cons, addColumns, if_neg hcnew, hlocated, Outcome.bind_ok]
    simp only [List.mem_singleton, if_true]
    refine ih (fun d hd => hc (List.mem_cons_of_mem c hd)) hdots hnodup fun d hd => ?_
    rw [List.mem_cons, not_or]
    refine ⟨fun heq => hout ?_, hnews d hd⟩
    exact ((qualified_inj (hdots d hd) hcdot).mp heq).2 ▸ hd

/-- The columns of the relations that a wildcard query names are fetched, and so are those that it
asks for in their place. -/
theorem fetches_of_wildcard (dotless : s.Dotless) {named : List String}
    {condition : Option Query.Condition} {plan : SelectPlan} {column : String}
    (h : ofSelect ⟨.wildcard, named, condition⟩ s = .ok plan) (hnamed : relation ∈ named)
    (hr : s.relation? relation = some r) (hc : column ∈ r.columns) :
    qualified (askedUnder s named relation column) column ∈ plan.projection ∧
      Fetches plan.joins (askedUnder s named relation column) column ∧
        Fetches plan.joins relation column := by
  have hasked := askedUnder_mem (ofSelect_eq_ok.mp h).1 hnamed hr hc
  obtain ⟨-, joined, planned⟩ := planned_of_ofSelect dotless h
  obtain ⟨other, column', ⟨hname, hdot, -⟩, hfetches⟩ :=
    planned.fetches_asked (List.mem_append_left _ hasked)
  obtain ⟨hother, rfl⟩ := (qualified_inj (dotless.column hr hc) hdot).mp hname
  rw [← hother] at hfetches
  refine ⟨hasked, hfetches, ?_⟩
  by_cases hkey : column ∈ s.keys relation
  · exact fetches_key_of_ofSelect dotless h hnamed hkey
  · rwa [askedUnder, if_neg hkey] at hfetches

/-! ## The joins -/

/-- The keys of one relation lie in one space, so that there is nothing to bridge. -/
theorem pivotRelations_singleton (map : KeyMap) (relation : String) :
    pivotRelations [relation] map = .ok [] := by
  have hspaces : (map.spaces [relation]).length ≤ 1 := by
    cases hkeys : map.keys? relation with
    | none => simp [KeyMap.spaces, KeySpaces.ofCliques, hkeys]
    | some keys =>
      have hspaces : map.spaces [relation] = KeySpaces.connect [] keys := by
        simp [KeyMap.spaces, KeySpaces.ofCliques, hkeys]
      by_cases hne : keys = []
      · simp [hspaces, KeySpaces.connect, hne]
      · have hlength : (KeySpaces.connect [] keys).length + 0 = 0 + 1 :=
          KeySpaces.length_connect hne
        rw [hspaces]
        omega
  rw [pivotRelations, searchPivots, if_pos hspaces]

/-- The keys of a relation are among its columns, so that none of them is missing. -/
theorem addKeys_relation (hr : s.relation? r.name = some r) :
    addKeys (keyMap s) (r.columns.map (qualified r.name)) [r.name] steps = steps := by
  have hnone : missingKeys (keyMap s) (r.columns.map (qualified r.name)) [r.name] = [] := by
    refine List.eq_nil_iff_forall_not_mem.mpr fun ⟨other, key⟩ hmissing => ?_
    obtain ⟨⟨hother, r', hr', hkey⟩, hasked⟩ := mem_missingKeys.mp hmissing
    obtain rfl := List.mem_singleton.mp hother
    obtain rfl := Option.some.inj (hr.symm.trans hr')
    exact hasked (List.mem_map_of_mem (r.keys_subset_columns hkey))
  rw [addKeys_eq_fetchAll, hnone]
  rfl

theorem orderSteps_singleton (map : KeyMap) (step : JoinStep) :
    orderSteps map none [step] = .ok [step] := by
  rw [orderSteps_eq (List.cons_ne_nil _ _), List.find?_cons_of_pos rfl]
  simp [orderSteps_nil, Except.map]

/-- A relation without dots in its columns is joined alone. -/
theorem planJoins_relation (hr : s.relation? r.name = some r) (hne : r.columns ≠ [])
    (hdot : ∀ c ∈ r.columns, Dotless c) :
    planJoins s (r.columns.map (qualified r.name)) [] [r.name] = .ok [⟨r.name, r.columns⟩] := by
  refine planJoins_eq_ok.mpr ⟨checkNamed_eq_ok.mpr ⟨List.nodup_singleton _, ?_⟩, ?_⟩
  · intro relation hrelation
    obtain rfl := List.mem_singleton.mp hrelation
    exact ⟨List.not_mem_nil, r, hr⟩
  · have hcollected : addColumns s [] ⟨[r.name], []⟩ (r.columns.map (qualified r.name)) =
        .ok ⟨[r.name], fetchAll (r.columns.map (r.name, ·)) []⟩ :=
      addColumns_relation hr (List.Subset.refl _) hdot r.fields_nodup (by simp)
    rw [fetchAll_nil hne] at hcollected
    refine ⟨_, by rw [List.append_nil, hcollected], [], pivotRelations_singleton _ _, ?_⟩
    rw [List.append_nil, List.append_nil, addKeys_relation hr, orderSteps_singleton]

/-- Where a column has a dot in its name, every plan that asks for it by its qualified name joins
another relation: the one whose name the first part of the column belongs to. -/
theorem exists_other_of_planJoins {projection conditionColumns named : List String} {column : String}
    (hdot : ¬ Dotless column) (hasked : qualified relation column ∈ projection)
    (h : planJoins s projection conditionColumns named = .ok steps) :
    ∃ step ∈ steps, step.relation ≠ relation := by
  obtain ⟨draft, pivots, hcollected, -, hperm, -⟩ := collected_of_planJoins h
  have hmem := List.mem_append_left conditionColumns hasked
  obtain ⟨other, c, hname, hc, -⟩ := hcollected.located _ hmem
  have hother : other ≠ relation := by
    rintro rfl
    have hcolumn : column = c := by
      rw [← String.toList_inj] at hname ⊢
      simpa using hname
    exact hdot (hcolumn ▸ hc)
  have hfetched : Fetches steps other c :=
    (Fetches.perm hperm).mp (hcollected.fetches_addKeys.mpr (.inl ⟨hc, hname ▸ hmem⟩))
  obtain ⟨step, hstep, rfl, -⟩ := hfetched
  exact ⟨step, hstep, hother⟩

end ProfileQuery.Plan
