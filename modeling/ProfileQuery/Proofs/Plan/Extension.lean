import Mathlib
import ProfileQuery.Proofs.Plan.Joins
import ProfileQuery.Proofs.Schema.RelationsFile

/-!
# Plans on a larger schema

A relation that is added at the end of a schema is the last choice everywhere: for a bare name, as a
pivot, and it is joined only when it is named, referred to or a pivot. So what succeeded before
succeeds in the same way with it. One lemma for each part of planning says so, in the direction from
the smaller schema to the larger one: the other direction fails, since new names become known.
-/

namespace ProfileQuery

open Plan (JoinStep KeyMap KeySpaces SelectPlan candidates resolve)

variable {s s' : Schema} {r : Relation}

/-! ## Names -/

section Names

variable (hext : s'.relations = s.relations ++ [r])

include hext

/-- A known relation stays what it is. -/
theorem Schema.relation?_extended {name : String} {known : Relation}
    (h : s.relation? name = some known) : s'.relation? name = some known := by
  unfold Schema.relation? at h ⊢
  rw [hext, List.find?_append, h]
  rfl

/-- The relation that is added was not known. -/
theorem Schema.relation?_added : s.relation? r.name = none := by
  have hnodup := s'.relations_nodup
  rw [hext, List.map_append, List.nodup_append] at hnodup
  simp only [Schema.relation?, List.find?_eq_none, beq_iff_eq]
  intro other hother
  exact hnodup.2.2 _ (List.mem_map_of_mem hother) _ (by simp)

/-- For a bare name the added relation comes last, as long as it is not named. -/
theorem Plan.candidates_extended {named : List String} (hnamed : r.name ∉ named) (column : String) :
    candidates s' named column =
      candidates s named column ++ if (r.field? column).isSome then [r.name] else [] := by
  unfold candidates
  rw [hext]
  by_cases h : (r.field? column).isSome = true
  · simp [h, hnamed]
  · simp [h]

theorem Plan.resolve_extended {named : List String} (hnamed : r.name ∉ named)
    {name resolved : String} (h : resolve s named name = .ok resolved) : resolve s' named name = .ok resolved := by
  unfold resolve at h ⊢
  split at h
  · exact h
  · next column _ =>
    rw [Plan.candidates_extended hext hnamed]
    cases hcandidates : candidates s named column with
    | nil => simp [hcandidates] at h
    | cons first rest => simpa [hcandidates] using h

end Names

/-! ## Conditions -/

namespace Query.Condition

variable {rename rename' : String → Except QueryError String}

mutual

/-- A renaming that succeeds wherever another one does, with the same name, gives the same condition
where the other one gives one. -/
theorem mapColumns_mono
    (hmono : ∀ name renamed, rename name = .ok renamed → rename' name = .ok renamed) :
    ∀ {c renamed : Condition}, c.mapColumns rename = .ok renamed →
      c.mapColumns rename' = .ok renamed
  | .comparison _ _ _, _, h => by
    obtain ⟨column', hcolumn, hrest⟩ := Outcome.bind_eq_ok.mp h
    exact Outcome.bind_eq_ok.mpr ⟨column', hmono _ _ hcolumn, hrest⟩
  | .junction _ _, _, h => by
    obtain ⟨children', hchildren, hrest⟩ := Outcome.bind_eq_ok.mp h
    exact Outcome.bind_eq_ok.mpr ⟨children', mapChildren_mono hmono hchildren, hrest⟩
  | .negation _, _, h => by
    obtain ⟨child', hchild, hrest⟩ := Outcome.bind_eq_ok.mp h
    exact Outcome.bind_eq_ok.mpr ⟨child', mapColumns_mono hmono hchild, hrest⟩

theorem mapChildren_mono
    (hmono : ∀ name renamed, rename name = .ok renamed → rename' name = .ok renamed) :
    ∀ {cs renamed : List Condition}, mapChildren rename cs = .ok renamed →
      mapChildren rename' cs = .ok renamed
  | [], _, h => h
  | _ :: _, _, h => by
    obtain ⟨c', hc, htail⟩ := Outcome.bind_eq_ok.mp h
    obtain ⟨cs', hcs, hrest⟩ := Outcome.bind_eq_ok.mp htail
    exact Outcome.bind_eq_ok.mpr ⟨c', mapColumns_mono hmono hc,
      Outcome.bind_eq_ok.mpr ⟨cs', mapChildren_mono hmono hcs, hrest⟩⟩

end

end Query.Condition

namespace Plan

/-! ## Pivots and orders -/

/-- Further candidates behind the others are not needed where the search succeeds without them. -/
theorem searchPivots_append {spaces : KeySpaces} {candidates : KeyMap} {pivots : List String}
    (h : searchPivots spaces candidates = some pivots) (more : KeyMap) :
    searchPivots spaces (candidates ++ more) = some pivots := by
  fun_induction searchPivots spaces candidates generalizing pivots with
  | case1 spaces candidates hone =>
    unfold searchPivots
    rw [if_pos hone]
    exact h
  | case2 => cases h
  | case3 spaces candidates hmany pivot hfind ih =>
    obtain ⟨later, hlater, rfl⟩ := Option.map_eq_some_iff.mp h
    have hmem := List.mem_of_find?_eq_some hfind
    unfold searchPivots
    rw [if_neg hmany]
    split
    · next hnone => simp [List.find?_append, hfind] at hnone
    · next first hfirst =>
      obtain rfl : pivot = first := by simpa [List.find?_append, hfind] using hfirst
      rw [List.erase_append_left _ hmem, ih hlater]
      rfl

/-- Whether a step can come next when the given keys are joined. -/
def possible (keys : Option (List String)) (step : JoinStep) : Bool :=
  match keys with
  | none => true
  | some keys => step.columns.any (keys.contains ·)

/-- The first possible step comes first, and then an order of the others. -/
theorem orderSteps_eq {map : KeyMap} {keys : Option (List String)} {steps : List JoinStep}
    (hne : steps ≠ []) :
    orderSteps map keys steps =
      match steps.find? (possible keys) with
      | none => .error (.joinOrderLoop (steps.map (·.relation)))
      | some step =>
        (orderSteps map (some (keys.getD [] ++ map.keysOf step)) (steps.erase step)).map
          (step :: ·) := by
  fun_cases orderSteps map keys steps with
  | case1 hempty => exact absurd (List.isEmpty_iff.mp hempty) hne
  | case2 _ _ hnone =>
    have hfirst : steps.find? (possible keys) = none := hnone
    rw [hfirst]
  | case3 _ _ step hfind joined e hlater =>
    have hfirst : steps.find? (possible keys) = some step := hfind
    rw [hfirst]
    exact (congrArg (Except.map (step :: ·)) hlater).symm
  | case4 _ _ step hfind joined later hlater =>
    have hfirst : steps.find? (possible keys) = some step := hfind
    rw [hfirst]
    exact (congrArg (Except.map (step :: ·)) hlater).symm

/-- An order depends on the keys of the relations that are ordered only. -/
theorem orderSteps_congr {map map' : KeyMap} {keys : Option (List String)} {steps : List JoinStep}
    (h : ∀ step ∈ steps, map'.keysOf step = map.keysOf step) :
    orderSteps map' keys steps = orderSteps map keys steps := by
  induction hlen : steps.length generalizing keys steps with
  | zero =>
    obtain rfl := List.length_eq_zero_iff.mp hlen
    rw [orderSteps_nil, orderSteps_nil]
  | succ n ih =>
    have hne : steps ≠ [] := List.ne_nil_of_length_eq_add_one hlen
    rw [orderSteps_eq hne, orderSteps_eq hne]
    cases hfind : steps.find? (possible keys) with
    | none => rfl
    | some step =>
      have hmem := List.mem_of_find?_eq_some hfind
      have hlater : (steps.erase step).length = n := by
        rw [List.length_erase_of_mem hmem]
        omega
      have hrest : ∀ other ∈ steps.erase step, map'.keysOf other = map.keysOf other :=
        fun other hother => h other (List.mem_of_mem_erase hother)
      simp only [h step hmem, ih hrest hlater]

theorem missingKeys_congr {map map' : KeyMap} (asked : List String) {relations : List String}
    (h : ∀ relation ∈ relations, map'.keys? relation = map.keys? relation) :
    missingKeys map' asked relations = missingKeys map asked relations := by
  unfold missingKeys
  rw [List.flatMap_congr fun relation hrelation => by rw [h relation hrelation]]

/-! ## What a query asks for -/

section Queries

variable (hext : s'.relations = s.relations ++ [r])

include hext

theorem relation_extended {name : String} {known : Relation} (h : s.relation name = .ok known) :
    s'.relation name = .ok known :=
  Schema.relation_eq_ok.mpr (Schema.relation?_extended hext (Schema.relation_eq_ok.mp h))

theorem projectRelations_extended {keys relations projection : List String}
    (h : projectRelations s keys relations = .ok projection) :
    projectRelations s' keys relations = .ok projection := by
  induction relations generalizing keys projection with
  | nil => exact h
  | cons relation relations ih =>
    obtain ⟨known, hknown, hrest⟩ := Outcome.bind_eq_ok.mp h
    obtain ⟨back, hback, hprojection⟩ := Outcome.bind_eq_ok.mp hrest
    exact Outcome.bind_eq_ok.mpr ⟨known, relation_extended hext hknown,
      Outcome.bind_eq_ok.mpr ⟨back, ih hback, hprojection⟩⟩

theorem resolveProjection_extended {q : Query.Select} (hnamed : r.name ∉ q.relations)
    {projection : List String} (h : resolveProjection q s = .ok projection) :
    resolveProjection q s' = .ok projection := by
  unfold resolveProjection at h ⊢
  split at h
  · exact projectRelations_extended hext h
  · exact Outcome.mapM_eq_ok.mpr ((Outcome.mapM_eq_ok.mp h).imp fun _ _ hresolve =>
      resolve_extended hext hnamed hresolve)

theorem resolveFilter_extended {q : Query.Select} (hnamed : r.name ∉ q.relations)
    {filter : Option Query.Condition × List String} (h : resolveFilter q s = .ok filter) :
    resolveFilter q s' = .ok filter := by
  unfold resolveFilter at h ⊢
  split at h
  · exact h
  · obtain ⟨resolved, hresolved, heq⟩ := Outcome.bind_eq_ok.mp h
    obtain ⟨condition, hcondition, hcolumns⟩ := Outcome.bind_eq_ok.mp hresolved
    exact Outcome.bind_eq_ok.mpr ⟨resolved, Outcome.bind_eq_ok.mpr ⟨condition,
      Query.Condition.mapColumns_mono (fun _ _ => resolve_extended hext hnamed) hcondition,
      hcolumns⟩, heq⟩

/-! ## Joins -/

theorem checkNamed_extended {named : List String} (h : checkNamed s [] named = .ok ()) :
    checkNamed s' [] named = .ok () := by
  obtain ⟨hnodup, hknown⟩ := checkNamed_eq_ok.mp h
  refine checkNamed_eq_ok.mpr ⟨hnodup, fun relation hrelation => ?_⟩
  obtain ⟨hseen, known, hrelation⟩ := hknown relation hrelation
  exact ⟨hseen, known, Schema.relation?_extended hext hrelation⟩

theorem addColumns_extended {seen names : List String} {draft draft' : Draft}
    (h : addColumns s seen draft names = .ok draft') :
    addColumns s' seen draft names = .ok draft' := by
  induction names generalizing seen draft with
  | nil => exact h
  | cons name names ih =>
    unfold addColumns at h ⊢
    split
    · next hseen =>
      rw [if_pos hseen] at h
      exact ih h
    · next hseen =>
      rw [if_neg hseen] at h
      obtain ⟨⟨relation, column⟩, hlocate, hrest⟩ := Outcome.bind_eq_ok.mp h
      obtain ⟨hname, hdot, known, hknown, hcolumn⟩ := locate_eq_ok.mp hlocate
      have hlocate' : locate s' name = .ok (relation, column) :=
        locate_eq_ok.mpr ⟨hname, hdot, known, Schema.relation?_extended hext hknown, hcolumn⟩
      exact Outcome.bind_eq_ok.mpr ⟨(relation, column), hlocate', ih hrest⟩

/-- Known relations have the keys that they had. -/
theorem keys?_extended {relation : String} {known : Relation}
    (h : s.relation? relation = some known) :
    (keyMap s').keys? relation = (keyMap s).keys? relation := by
  rw [keys?_keyMap, keys?_keyMap, h, Schema.relation?_extended hext h]

theorem pivotRelations_extended {relations pivots : List String}
    (hknown : ∀ relation ∈ relations, ∃ known, s.relation? relation = some known)
    (h : pivotRelations relations (keyMap s) = .ok pivots) :
    pivotRelations relations (keyMap s') = .ok pivots := by
  have hspaces : (keyMap s').spaces relations = (keyMap s).spaces relations := by
    refine congrArg KeySpaces.ofCliques (List.filterMap_congr fun relation hrelation => ?_)
    obtain ⟨known, hr⟩ := hknown relation hrelation
    exact keys?_extended hext hr
  have hcandidates : (keyMap s').filter (·.1 ∉ relations) =
      (keyMap s).filter (·.1 ∉ relations) ++ [(r.name, r.keys)].filter (·.1 ∉ relations) := by
    rw [keyMap, hext, List.map_append, List.filter_append]
    rfl
  unfold pivotRelations at h ⊢
  rw [hspaces, hcandidates]
  split at h
  · next hsearch =>
    rw [searchPivots_append hsearch]
    exact h
  · cases h

theorem planJoins_extended {projection conditionColumns named : List String}
    {steps : List JoinStep} (h : planJoins s projection conditionColumns named = .ok steps) :
    planJoins s' projection conditionColumns named = .ok steps := by
  obtain ⟨hnamed, draft, hdraft, pivots, hpivots, horder⟩ := planJoins_eq_ok.mp h
  have hcollected : Collected s named (projection ++ conditionColumns) draft :=
    (collected_of_addColumns (Collected.start (checkNamed_eq_ok.mp hnamed).1) hdraft).congr
      fun name => by simp
  have hknown := hcollected.known (named_of_planJoins h).2 hpivots
  have hnodup := (nodup_append_pivots hcollected.relations_nodup hpivots).1
  have hpivots' := pivotRelations_extended hext
    (fun relation hrelation => hknown relation (List.mem_append_left _ hrelation)) hpivots
  refine planJoins_eq_ok.mpr ⟨checkNamed_extended hext hnamed, draft,
    addColumns_extended hext hdraft, pivots, hpivots', ?_⟩
  rw [← horder, addKeys_eq_fetchAll, addKeys_eq_fetchAll, missingKeys_congr _ fun relation hmem =>
    keys?_extended hext (hknown relation hmem).choose_spec]
  refine orderSteps_congr fun step hstep => ?_
  rw [← addKeys_eq_fetchAll] at hstep
  obtain ⟨known, hr⟩ := hknown _ (hcollected.mem_of_addKeys hnodup hstep)
  rw [KeyMap.keysOf, KeyMap.keysOf, keys?_extended hext hr]

end Queries

/-- A relation that is added to a schema under a new name leaves every plan as it was: its columns,
its joins in order with their columns, and its condition. -/
theorem ofSelect_addRelation {q : Query.Select} {plan : SelectPlan} (h : ofSelect q s = .ok plan)
    (r : Relation) (hnew : r.name ∉ s.names) :
    ∃ s', s.addRelation r.name r.fields = .ok s' ∧ s'.relations = s.relations ++ [r] ∧
      ofSelect q s' = .ok plan := by
  have hnodup : ((s.relations ++ [r]).map (·.name)).Nodup := by
    rw [List.map_append]
    exact nodup_append_singleton s.relations_nodup hnew
  have hext : (Schema.mk (s.relations ++ [r]) hnodup).relations = s.relations ++ [r] := rfl
  refine ⟨_, Schema.addRelation_eq_ok.mpr ⟨hnew, r.fields_nodup, hext⟩, hext, ?_⟩
  obtain ⟨hprojection, columns, hfilter, hjoins⟩ := ofSelect_eq_ok.mp h
  -- the relations that the query names are known without the new one
  have hnamed : r.name ∉ q.relations := by
    intro hmem
    obtain ⟨known, hknown⟩ := (named_of_planJoins hjoins).2 r.name hmem
    rw [Schema.relation?_added hext] at hknown
    cases hknown
  exact ofSelect_eq_ok.mpr ⟨resolveProjection_extended hext hnamed hprojection, columns,
    resolveFilter_extended hext hnamed hfilter, planJoins_extended hext hjoins⟩

/-- Two relations without a common key, and one that has the keys of both. -/
def bridged : Schema where
  relations := [
    ⟨"left", [⟨"p", .integer, true, false, none⟩, ⟨"x", .string, false, false, none⟩], by decide⟩,
    ⟨"right", [⟨"q", .integer, true, false, none⟩, ⟨"y", .string, false, false, none⟩], by decide⟩,
    ⟨"bridge", [⟨"p", .integer, true, false, none⟩, ⟨"q", .integer, true, false, none⟩],
      by decide⟩]
  relations_nodup := by decide

/-- Another bridge, which also has a column of the name that is asked for, is not preferred. -/
theorem ofSelect_addRelation_bridged : ∃ s',
    bridged.addRelation "shortcut" [⟨"q", .integer, true, false, none⟩,
      ⟨"p", .integer, true, false, none⟩, ⟨"x", .string, false, false, none⟩] = .ok s' ∧
      ofSelect ⟨.columns ["x"], ["right"], none⟩ s' = .ok ⟨["left.x"],
        [⟨"left", ["x", "p"]⟩, ⟨"bridge", ["p", "q"]⟩, ⟨"right", ["q"]⟩], none⟩ := by
  have hplan : ofSelect ⟨.columns ["x"], ["right"], none⟩ bridged = .ok ⟨["left.x"],
      [⟨"left", ["x", "p"]⟩, ⟨"bridge", ["p", "q"]⟩, ⟨"right", ["q"]⟩], none⟩ := by cbv
  obtain ⟨s', hs', -, hplan'⟩ := ofSelect_addRelation hplan ⟨"shortcut",
    [⟨"q", .integer, true, false, none⟩, ⟨"p", .integer, true, false, none⟩,
      ⟨"x", .string, false, false, none⟩], by decide⟩ (by decide)
  exact ⟨s', hs', hplan'⟩

end Plan

end ProfileQuery
