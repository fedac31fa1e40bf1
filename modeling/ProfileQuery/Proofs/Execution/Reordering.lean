import Mathlib
import ProfileQuery.Proofs.Execution.Consistent
import ProfileQuery.Proofs.Execution.Feasibility
import ProfileQuery.Proofs.Plan.Reordering

/-!
# Queries in another order

A query with a clear plan finds the same rows in whatever order its columns are listed and its
relations are named, once the cells of each row are put back in place.
-/

namespace ProfileQuery

open Plan (Alike Clear JoinStep Planned SelectPlan Tidy)

/-! ## Rearranged lists -/

/-- The elements of a list at some positions. -/
def pick {α : Type} (order : List Nat) (xs : List α) : List α :=
  order.filterMap (xs[·]?)

section Pick

variable {α β ε : Type} {order : List Nat}

theorem pick_map (f : α → β) (xs : List α) : pick order (xs.map f) = (pick order xs).map f := by
  rw [pick, pick, List.map_filterMap]
  refine List.filterMap_congr fun i _ => ?_
  rw [List.getElem?_map]

theorem pick_range (xs : List α) : pick (List.range xs.length) xs = xs := by
  induction xs with
  | nil => rfl
  | cons x xs ih =>
    rw [pick, List.length_cons, List.range_succ_eq_map, List.filterMap_cons, List.filterMap_map]
    exact congrArg (x :: ·) ih

/-- Picking every position once rearranges a list. -/
theorem pick_perm {xs : List α} (h : order.Perm (List.range xs.length)) :
    (pick order xs).Perm xs :=
  (h.filterMap _).trans (.of_eq (pick_range xs))

/-- The results of a rearranged list are the rearranged results. -/
theorem pick_mapM {f : α → Except ε β} {xs : List α} {ys : List β} (h : xs.mapM f = .ok ys) :
    (pick order xs).mapM f = .ok (pick order ys) := by
  have hresults := Outcome.mapM_eq_ok.mp h
  refine Outcome.mapM_eq_ok.mpr ?_
  -- a position lies in both lists or in neither
  have at? : ∀ i : Nat, (xs[i]? = none ∧ ys[i]? = none) ∨
      ∃ x y, xs[i]? = some x ∧ ys[i]? = some y ∧ f x = .ok y := by
    intro i
    by_cases hlt : i < xs.length
    · have hlt' : i < ys.length := hresults.length_eq ▸ hlt
      exact .inr ⟨xs[i], ys[i], by simp, by simp, hresults.get hlt hlt'⟩
    · have hge : ¬ i < ys.length := hresults.length_eq ▸ hlt
      exact .inl ⟨by simpa using hlt, by simpa using hge⟩
  induction order with
  | nil => exact .nil
  | cons i order ih =>
    rw [pick, pick, List.filterMap_cons, List.filterMap_cons]
    rcases at? i with ⟨hx, hy⟩ | ⟨x, y, hx, hy, hf⟩
    · rw [hx, hy]
      exact ih
    · rw [hx, hy]
      exact .cons hf ih

end Pick

/-! ## The reference in another order -/

/-- The row that a combination contributes to an answer, if it does. -/
def Combination.rowOf? (projection : List String) (condition : Option Query.Condition)
    (combo : Combination) : Option (List (Option Value)) :=
  if combo.Consistent ∧ combo.satisfies condition = true then some (projection.map combo.cell?)
  else none

variable {db : Database} {steps steps' : List JoinStep} {projection : List String}
  {condition : Option Query.Condition}

theorem Combination.rowOf?_pick (order : List Nat) (combo : Combination) :
    combo.rowOf? (pick order projection) condition =
      (combo.rowOf? projection condition).map (pick order) := by
  unfold rowOf?
  split
  · rw [Option.map_some, pick_map]
  · rfl

/-- The rows of the reference, read off from all combinations. -/
theorem Database.referenceRows_eq {plan : SelectPlan}
    (hkeys : ∀ step ∈ plan.joins, db.schema.keys step.relation ⊆ step.columns)
    (hclear : Clear db.schema plan.joins) :
    db.referenceRows plan =
      (db.combinations plan.joins).filterMap (·.rowOf? plan.projection plan.condition) := by
  rw [referenceRows, matched, List.filter_filter, ← List.filterMap_eq_map, List.filterMap_filter]
  refine List.filterMap_congr fun combo hcombo => ?_
  simp only [Combination.rowOf?, Bool.and_eq_true, decide_eq_true_eq,
    matched_iff_consistent hkeys hclear hcombo]
  simp only [and_comm, Function.comp_apply]

/-- A part without its columns. -/
def Part.bare (part : Part) : Part := { part with columns := [] }

/-- The steps for some relations without their columns. -/
def bareSteps (relations : List String) : List JoinStep :=
  relations.map fun relation => ⟨relation, []⟩

theorem Database.combinations_bare (steps : List JoinStep) :
    (db.combinations steps).map (·.map Part.bare) =
      db.combinations (bareSteps (steps.map (·.relation))) := by
  induction steps with
  | nil => rfl
  | cons step steps ih =>
    have hparts : db.parts ⟨step.relation, []⟩ = (db.parts step).map Part.bare := by
      unfold parts
      cases db.table? step.relation with
      | none => rfl
      | some t => simp [Part.bare]
    have hbare : bareSteps ((step :: steps).map (·.relation)) =
        ⟨step.relation, []⟩ :: bareSteps (steps.map (·.relation)) := rfl
    rw [hbare, combinations, combinations, hparts, ← ih, List.map_flatMap, List.flatMap_map]
    refine List.flatMap_congr fun part _ => ?_
    rw [List.map_map, List.map_map]
    rfl

/-- What a combination contributes does not depend on the columns that are fetched. -/
theorem Combination.rowOf?_bare (combo : Combination) :
    (Combination.rowOf? projection condition (combo.map Part.bare)) =
      combo.rowOf? projection condition := by
  have hcellOf : ∀ relation column, Combination.cellOf? (combo.map Part.bare) relation column =
      combo.cellOf? relation column := by
    intro relation column
    rw [cellOf?, List.find?_map, cellOf?, Option.bind_map]
    rfl
  have hcell : Combination.cell? (combo.map Part.bare) = combo.cell? := by
    funext name
    unfold cell?
    split
    · exact hcellOf _ _
    · rfl
  have hsatisfies : Combination.satisfies (combo.map Part.bare) condition =
      combo.satisfies condition := by
    cases condition with
    | none => rfl
    | some c =>
      have hvalue : Combination.value (combo.map Part.bare) = combo.value := by
        funext name
        rw [value, hcell, value]
      rw [satisfies, hvalue, satisfies]
  have hconsistent : Combination.Consistent (combo.map Part.bare) ↔ combo.Consistent := by
    simp only [Consistent, List.forall_mem_map]
    rfl
  simp only [rowOf?, hcell, hsatisfies, hconsistent]

/-- The contributions for the same relations in another order. -/
theorem Database.filterMap_combinations_perm
    (h : (steps.map (·.relation)).Perm (steps'.map (·.relation)))
    (hnodup : (steps.map (·.relation)).Nodup) :
    ((db.combinations steps).filterMap (·.rowOf? projection condition)).Perm
      ((db.combinations steps').filterMap (·.rowOf? projection condition)) := by
  have ofBare : ∀ steps : List JoinStep,
      (db.combinations steps).filterMap (·.rowOf? projection condition) =
        (db.combinations (bareSteps (steps.map (·.relation)))).flatMap
          fun combo => (combo.rowOf? projection condition).toList := by
    intro steps
    rw [← combinations_bare, List.flatMap_map, ← List.filterMap_eq_flatMap_toList]
    refine List.filterMap_congr fun combo _ => ?_
    rw [Combination.rowOf?_bare]
  rw [ofBare, ofBare]
  refine flatMap_combinations_perm (h.map _) fun combo hcombo combo' hperm => ?_
  have hnames : (combo.map (·.relation.name)).Nodup := by
    rw [names_of_mem_combinations hcombo]
    simpa [bareSteps, Function.comp_def] using hnodup
  simp only [Combination.rowOf?, Combination.consistent_perm hperm,
    Combination.satisfies_perm hperm hnames, Combination.cell?_perm hperm hnames]

/-! ## Queries -/

section Queries

variable {names names' relations relations' : List String}

/-- A query that is answered in one order is answered in every order. -/
theorem Database.exists_execute_perm (dotless : db.schema.Dotless) (hnames : names.Perm names')
    (hrel : relations.Perm relations') {mode : JoinMode}
    (hclear : ∀ plan, Plan.ofSelect ⟨.columns names, relations, condition⟩ db.schema = .ok plan →
      Clear db.schema plan.joins)
    (h : ∃ s, db.execute ⟨.columns names, relations, condition⟩ mode = .ok s) :
    ∃ s, db.execute ⟨.columns names', relations', condition⟩ mode = .ok s := by
  obtain ⟨s, hs⟩ := h
  obtain ⟨plan, hplan, hrun⟩ := Outcome.bind_eq_ok.mp hs
  obtain ⟨plan', hplan'⟩ :=
    Plan.exists_ofSelect_perm dotless hplan (hclear plan hplan) hnames hrel
  obtain ⟨hcondition, halike⟩ := Plan.alike_of_ofSelect dotless hplan hplan' hnames hrel
  obtain ⟨-, joined, planned⟩ := Plan.planned_of_ofSelect dotless hplan
  obtain ⟨hchained', joined', planned'⟩ := Plan.planned_of_ofSelect dotless hplan'
  obtain ⟨-, hreadable⟩ := (Database.exists_runPlan_iff dotless planned mode).mp ⟨s, hrun⟩
  have hclear' := halike.clear planned'.tidy (hclear plan hplan)
  obtain ⟨s', hs'⟩ := (Database.exists_runPlan_iff dotless planned' mode).mpr
    ⟨planned'.firstUnlinked?_eq_none hchained' hclear', hcondition ▸ hreadable⟩
  exact ⟨s', Outcome.bind_eq_ok.mpr ⟨plan', hplan', hs'⟩⟩

/-- Without joins there are no rows. -/
theorem Database.rows_of_no_joins {plan : SelectPlan} {mode : JoinMode} {s : Selection}
    (hnone : plan.joins = []) (h : db.runPlan plan mode = .ok s) : s.rows = [] := by
  obtain ⟨joined, filtered, positions, hjoins, hfilter, -, rfl⟩ := of_runPlan_eq_ok h
  rw [hnone] at hjoins
  obtain rfl : Selection.empty = joined := Except.ok.inj hjoins
  obtain ⟨keep, rfl⟩ := of_filterRows_eq_ok hfilter
  rfl

/-- A rearranged list of columns is resolved to the rearranged projection. -/
theorem Database.projection_pick {order : List Nat} (hrel : relations.Perm relations')
    {plan plan' : SelectPlan}
    (hplan : Plan.ofSelect ⟨.columns names, relations, condition⟩ db.schema = .ok plan)
    (hplan' : Plan.ofSelect ⟨.columns (pick order names), relations', condition⟩ db.schema =
      .ok plan') : plan'.projection = pick order plan.projection := by
  have hmapM : names.mapM (Plan.resolve db.schema relations) = .ok plan.projection :=
    (Plan.ofSelect_eq_ok.mp hplan).1
  have hmapM' : (pick order names).mapM (Plan.resolve db.schema relations') =
      .ok plan'.projection := (Plan.ofSelect_eq_ok.mp hplan').1
  rw [← Plan.resolve_perm hrel, pick_mapM hmapM] at hmapM'
  exact (Except.ok.inj hmapM').symm

/-- Two clear plans for the same relations find the same rows, with their cells in the order of the
projections. -/
theorem Database.rows_runPlan_perm (dotless : db.schema.Dotless) {order : List Nat}
    {plan plan' : SelectPlan} {joined joined' : List String} {s s' : Selection}
    (planned : Planned db.schema plan.names joined plan.joins)
    (planned' : Planned db.schema plan'.names joined' plan'.joins)
    (hclear : Clear db.schema plan.joins) (hclear' : Clear db.schema plan'.joins)
    (hrelations : (plan.joins.map (·.relation)).Perm (plan'.joins.map (·.relation)))
    (hprojection : plan'.projection = pick order plan.projection)
    (hcondition : plan.condition = plan'.condition)
    (hrun : db.runPlan plan .inner = .ok s) (hrun' : db.runPlan plan' .inner = .ok s') :
    s'.rows.Perm (s.rows.map (pick order)) := by
  by_cases hnone : plan.joins = []
  · have hnone' : plan'.joins = [] := by
      rw [hnone] at hrelations
      exact List.map_eq_nil_iff.mp (List.Perm.nil_eq hrelations).symm
    rw [rows_of_no_joins hnone hrun, rows_of_no_joins hnone' hrun']
    exact .refl _
  · have hnone' : plan'.joins ≠ [] := by
      intro hempty
      rw [hempty] at hrelations
      exact hnone (List.map_eq_nil_iff.mp (List.Perm.eq_nil hrelations))
    have hrows := (rows_runPlan dotless planned hnone hrun).1
    have hrows' := (rows_runPlan dotless planned' hnone' hrun').1
    rw [referenceRows_eq (fun _ => planned.keys_subset) hclear] at hrows
    rw [referenceRows_eq (fun _ => planned'.keys_subset) hclear', hprojection,
      ← hcondition] at hrows'
    -- the cells of a row are not lost when they are marked as there
    have hinjective : Function.Injective (List.map (some : Value → Option Value)) :=
      List.map_injective_iff.mpr (Option.some_injective _)
    apply (List.map_perm_map_iff hinjective).mp
    have hpicked : (s.rows.map (pick order)).map (List.map (some : Value → Option Value)) =
        ((db.combinations plan.joins).filterMap (·.rowOf? plan.projection plan.condition)).map
          (pick order) := by
      rw [← hrows, List.map_map, List.map_map]
      exact List.map_congr_left fun row _ => (pick_map some row).symm
    have hrow : ∀ combo : Combination, combo.rowOf? (pick order plan.projection) plan.condition =
        (combo.rowOf? plan.projection plan.condition).map (pick order) :=
      Combination.rowOf?_pick order
    rw [hpicked, hrows']
    simp only [hrow]
    rw [← List.map_filterMap]
    exact ((filterMap_combinations_perm hrelations planned.tidy.relations_nodup).map _).symm

/-- The order in which columns are listed and relations are named does not change which rows inner
joins find, as long as no plan fetches a plain column under the name of a key of a joined relation:
either both queries are answered or neither is, and the answers are the same up to the order of the
rows, with the columns in the order asked for. -/
theorem Database.execute_inner_perm (dotless : db.schema.Dotless) {order : List Nat}
    (horder : order.Perm (List.range names.length)) (hrel : relations.Perm relations')
    (hclear : ∀ plan, Plan.ofSelect ⟨.columns names, relations, condition⟩ db.schema = .ok plan →
      Clear db.schema plan.joins)
    (hclear' : ∀ plan, Plan.ofSelect ⟨.columns (pick order names), relations', condition⟩
      db.schema = .ok plan → Clear db.schema plan.joins) :
    ((∃ s, db.execute ⟨.columns names, relations, condition⟩ .inner = .ok s) ↔
      ∃ s', db.execute ⟨.columns (pick order names), relations', condition⟩ .inner = .ok s') ∧
    ∀ s s', db.execute ⟨.columns names, relations, condition⟩ .inner = .ok s →
      db.execute ⟨.columns (pick order names), relations', condition⟩ .inner = .ok s' →
      s'.rows.Perm (s.rows.map (pick order)) := by
  have hnames := (pick_perm horder).symm
  refine ⟨⟨exists_execute_perm dotless hnames hrel hclear,
    exists_execute_perm dotless hnames.symm hrel.symm hclear'⟩, fun s s' hs hs' => ?_⟩
  obtain ⟨plan, hplan, hrun⟩ := Outcome.bind_eq_ok.mp hs
  obtain ⟨plan', hplan', hrun'⟩ := Outcome.bind_eq_ok.mp hs'
  obtain ⟨hcondition, halike⟩ := Plan.alike_of_ofSelect dotless hplan hplan' hnames hrel
  obtain ⟨-, joined, planned⟩ := Plan.planned_of_ofSelect dotless hplan
  obtain ⟨-, joined', planned'⟩ := Plan.planned_of_ofSelect dotless hplan'
  exact rows_runPlan_perm dotless planned planned' (hclear plan hplan) (hclear' plan' hplan')
    (halike.relations_perm planned.tidy planned'.tidy) (projection_pick hrel hplan hplan')
    hcondition hrun hrun'

/-- The ages of the visitors and the days of their visits, listed either way. -/
theorem Database.execute_visits_perm :
    ∃ s s', visits.execute ⟨.columns ["age", "day"], ["person", "visit"], none⟩ .inner = .ok s ∧
      visits.execute ⟨.columns ["day", "age"], ["visit", "person"], none⟩ .inner = .ok s' ∧
      s'.rows.Perm (s.rows.map (pick [1, 0])) := by
  have hplan : Plan.ofSelect ⟨.columns ["age", "day"], ["person", "visit"], none⟩ visits.schema =
      .ok ⟨["person.age", "visit.day"], [⟨"person", ["age", "id"]⟩, ⟨"visit", ["day", "id"]⟩],
        none⟩ := by cbv
  have hplan' : Plan.ofSelect ⟨.columns (pick [1, 0] ["age", "day"]), ["visit", "person"], none⟩
      visits.schema = .ok ⟨["visit.day", "person.age"],
        [⟨"visit", ["day", "id"]⟩, ⟨"person", ["age", "id"]⟩], none⟩ := by cbv
  have horder : [1, 0].Perm (List.range ["age", "day"].length) := by decide
  have hrel : ["person", "visit"].Perm ["visit", "person"] := by decide
  obtain ⟨hiff, hrows⟩ := execute_inner_perm (show visits.schema.Dotless by decide) horder hrel
    (fun plan h => Except.ok.inj (hplan.symm.trans h) ▸ by decide)
    (fun plan h => Except.ok.inj (hplan'.symm.trans h) ▸ by decide)
  obtain ⟨s, hs⟩ := Outcome.exists_of_isOk
    (show (visits.execute ⟨.columns ["age", "day"], ["person", "visit"], none⟩ .inner).isOk = true
      by cbv)
  obtain ⟨s', hs'⟩ := hiff.mp ⟨s, hs⟩
  exact ⟨s, s', hs, hs', hrows s s' hs hs'⟩

/-- Two relations with the key `a`, and a plain column of the first with the name of a key of the
second. -/
def Database.plainKey : Database where
  tables := [
    ⟨⟨"r1", [⟨"a", .integer, true, false, none⟩, ⟨"b", .integer, false, false, none⟩], by decide⟩,
      #[[.integer 1, .integer 5]], by decide⟩,
    ⟨⟨"r2", [⟨"b", .integer, true, false, none⟩, ⟨"a", .integer, true, false, none⟩], by decide⟩,
      #[[.integer 6, .integer 1]], by decide⟩]
  tables_nodup := by decide

/-- Two relations with the key `k`, and a key of the second that reads as the qualified name of a key
of the first. -/
def Database.dottedKey : Database where
  tables := [
    ⟨⟨"x", [⟨"y", .integer, true, false, none⟩, ⟨"k", .integer, true, false, none⟩], by decide⟩,
      #[[.integer 1, .integer 5]], by decide⟩,
    ⟨⟨"r", [⟨"x.y", .integer, true, false, none⟩, ⟨"k", .integer, true, false, none⟩], by decide⟩,
      #[[.integer 2, .integer 5]], by decide⟩]
  tables_nodup := by decide

/-- The order matters when a plain column has the name of a key, and when the name of a column has a
dot: a relation is matched on whatever has the name of one of its keys by then. -/
theorem Database.execute_inner_not_perm :
    (∃ s s', plainKey.execute ⟨.columns ["r1.b", "r2.b"], [], none⟩ .inner = .ok s ∧
      plainKey.execute ⟨.columns ["r2.b", "r1.b"], [], none⟩ .inner = .ok s' ∧
      ¬ s'.rows.Perm (s.rows.map (pick [1, 0]))) ∧
    ∃ s s', dottedKey.execute ⟨.columns ["x.k", "r.k"], [], none⟩ .inner = .ok s ∧
      dottedKey.execute ⟨.columns ["r.k", "x.k"], [], none⟩ .inner = .ok s' ∧
      ¬ s'.rows.Perm (s.rows.map (pick [1, 0])) := by
  have none_one : ∀ {db : Database} {q q' : Query.Select} (row : Row),
      (db.execute q .inner).map (·.rows) = .ok [] →
      (db.execute q' .inner).map (·.rows) = .ok [row] →
      ∃ s s', db.execute q .inner = .ok s ∧ db.execute q' .inner = .ok s' ∧
        ¬ s'.rows.Perm (s.rows.map (pick [1, 0])) := by
    intro db q q' row h h'
    obtain ⟨s, hs, hrows⟩ := Outcome.map_eq_ok.mp h
    obtain ⟨s', hs', hrows'⟩ := Outcome.map_eq_ok.mp h'
    refine ⟨s, s', hs, hs', fun hperm => ?_⟩
    have hlength := hperm.length_eq
    rw [hrows, hrows'] at hlength
    cases hlength
  exact ⟨none_one [.integer 6, .integer 5] (by cbv) (by cbv),
    none_one [.integer 5, .integer 5] (by cbv) (by cbv)⟩

end Queries

end ProfileQuery
