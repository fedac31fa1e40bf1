import Mathlib
import ProfileQuery.Proofs.Execution.Growth
import ProfileQuery.Proofs.Plan.Joins

/-!
# Left joins

Joins treat the rows of a selection one by one: a run of joins makes of each row its offspring, and
the rows after the run are the offspring of those before it, in order. Left joins drop no row, so
that each stored row of the first relation has a group of rows of its own in the answer.
-/

namespace ProfileQuery

open Outcome (Both)
open Plan (JoinStep SelectPlan)

variable {db : Database} {mode : JoinMode} {s s' : Selection} {t : Table} {step : JoinStep}
  {steps : List JoinStep} {row descendant : Row}

namespace Database

/-- The first step of a run that got through, and the rest of the run. -/
theorem of_joinSteps_cons (h : db.joinSteps mode s (step :: steps) = .ok s') :
    ∃ t, db.table? step.relation = some t ∧ step.columns ⊆ t.relation.columns ∧
      s.join db step.relation step.columns mode = .ok (s.joinTable t step.columns mode) ∧
      db.joinSteps mode (s.joinTable t step.columns mode) steps = .ok s' := by
  rw [joinSteps_cons] at h
  obtain ⟨next, hnext, hrest⟩ := Outcome.bind_eq_ok.mp h
  obtain ⟨-, t, ht, hc, rfl⟩ := Selection.of_join_eq_ok hnext
  exact ⟨t, ht, hc, hnext, hrest⟩

/-! ## Offspring -/

/-- The rows that a run of joins makes of one row: its extensions by the first relation, each of
them extended by the others. -/
def offspring (db : Database) (mode : JoinMode) : Selection → List JoinStep → Row → List Row
  | _, [], row => [row]
  | s, step :: steps, row =>
    match db.table? step.relation with
    | none => []
    | some t =>
      (s.extensions t step.columns mode row).flatMap
        (db.offspring mode (s.joinTable t step.columns mode) steps)

theorem offspring_cons (ht : db.table? step.relation = some t) (row : Row) :
    db.offspring mode s (step :: steps) row = (s.extensions t step.columns mode row).flatMap
      (db.offspring mode (s.joinTable t step.columns mode) steps) := by
  rw [offspring, ht]

/-- A run on other rows ends with the offspring of these. -/
theorem joinSteps_withData (hjoins : s.hasJoins = true)
    (h : db.joinSteps mode s steps = .ok s') (rows : List Row) :
    db.joinSteps mode (s.withData rows) steps =
      .ok (s'.withData (rows.flatMap (db.offspring mode s steps))) := by
  -- the first step makes its extensions of the rows, and the other steps start from these
  induction steps generalizing s rows with
  | nil =>
    obtain rfl : s = s' := Except.ok.inj h
    have same : rows.flatMap (db.offspring mode s []) = rows := List.flatMap_singleton' rows
    rw [same]
    rfl
  | cons step steps ih =>
    obtain ⟨t, ht, -, hnext, hrest⟩ := of_joinSteps_cons h
    rw [joinSteps_cons, Selection.join_withData hjoins ht hnext, Outcome.bind_ok,
      ih Selection.hasJoins_joinTable hrest, List.flatMap_assoc]
    refine congrArg (fun rows => Except.ok (s'.withData rows)) ?_
    exact List.flatMap_congr fun row _ => (offspring_cons ht row).symm

/-- The rows after a run are the offspring of those before it. -/
theorem data_joinSteps (hjoins : s.hasJoins = true) (h : db.joinSteps mode s steps = .ok s') :
    s'.data = s.data.flatMap (db.offspring mode s steps) :=
  congrArg Selection.data (Except.ok.inj (h.symm.trans (joinSteps_withData hjoins h s.data)))

/-- Joins only add cells behind those of a row. -/
theorem prefix_of_mem_offspring (h : descendant ∈ db.offspring mode s steps row) :
    row <+: descendant := by
  induction steps generalizing s row with
  | nil =>
    obtain rfl := List.mem_singleton.mp h
    exact List.prefix_rfl
  | cons step steps ih =>
    cases ht : db.table? step.relation with
    | none =>
      rw [offspring, ht] at h
      cases h
    | some t =>
      rw [offspring_cons ht] at h
      obtain ⟨extended, hextended, hrest⟩ := List.mem_flatMap.mp h
      obtain ⟨cells, rfl, -⟩ := Selection.of_mem_extensions hextended
      exact (List.prefix_append row cells).trans (ih hrest)

/-- Left joins leave every row some offspring. -/
theorem offspring_left_ne_nil (h : db.joinSteps .left s steps = .ok s') (row : Row) :
    db.offspring .left s steps row ≠ [] := by
  induction steps generalizing s row with
  | nil => exact List.cons_ne_nil _ _
  | cons step steps ih =>
    obtain ⟨t, ht, -, -, hrest⟩ := of_joinSteps_cons h
    rw [offspring_cons ht]
    obtain ⟨extended, hextended⟩ := List.exists_mem_of_ne_nil _ Selection.extensions_left_ne_nil
    intro hnil
    exact ih hrest extended (List.flatMap_eq_nil_iff.mp hnil extended hextended)

end Database

/-! ## Groups -/

/-- Whether each stored row has a group of rows that is not empty and whose rows begin with its
cells. -/
def Table.Groups (t : Table) (columns : List String) (group : Row → List Row) : Prop :=
  ∀ stored ∈ t.rows, group stored ≠ [] ∧ ∀ row ∈ group stored, t.cells columns stored <+: row

/-- Whether the rows fall into groups, one for each stored row of a table, in stored order. -/
def Selection.GroupedBy (s : Selection) (t : Table) (columns : List String) : Prop :=
  ∃ group, t.Groups columns group ∧
    s.rows = t.rows.toList.flatMap fun stored => (group stored).map (Row.select s.shownPositions)

namespace Database

/-- After left joins each stored row of the first relation has its group. -/
theorem grouped_joinSteps {first : JoinStep}
    (h : db.joinSteps .left .empty (first :: steps) = .ok s) :
    ∃ t, db.table? first.relation = some t ∧ ∃ group, t.Groups first.columns group ∧
      s.data = t.rows.toList.flatMap group := by
  obtain ⟨t, ht, -, -, hrest⟩ := of_joinSteps_cons h
  refine ⟨t, ht, fun stored => db.offspring .left _ steps (t.cells first.columns stored),
    fun stored _ => ⟨offspring_left_ne_nil hrest _, fun row => prefix_of_mem_offspring⟩, ?_⟩
  have hdata : (Selection.empty.joinTable t first.columns .left).data =
      t.rows.toList.map (t.cells first.columns) := rfl
  rw [data_joinSteps Selection.hasJoins_joinTable hrest, hdata, List.flatMap_map]

theorem grouped_runPlan {plan : SelectPlan} {first : JoinStep}
    (hjoins : plan.joins = first :: steps) (hcondition : plan.condition = none)
    (h : db.runPlan plan .left = .ok s) :
    ∃ t, db.table? first.relation = some t ∧ s.GroupedBy t first.columns := by
  obtain ⟨joined, filtered, positions, hjoined, hfilter, -, rfl⟩ := of_runPlan_eq_ok h
  rw [hcondition] at hfilter
  obtain rfl := Except.ok.inj hfilter
  rw [hjoins] at hjoined
  obtain ⟨t, ht, group, hgroup, hdata⟩ := grouped_joinSteps hjoined
  refine ⟨t, ht, group, hgroup, ?_⟩
  rw [Selection.rows, hdata, List.map_flatMap]

/-- Left joins answer a query like inner joins, with more rows: both fail with the same error, or
the rows by inner joins are among those by left joins, in the same order. Without a condition the
rows by left joins fall into groups, one for each stored row of the relation that is joined first.
-/
theorem execute_left (db : Database) (q : Query.Select) :
    Both (fun inner left => left.shown = inner.shown ∧ inner.rows.Sublist left.rows ∧
      (q.condition = none → ∀ plan first rest, Plan.ofSelect q db.schema = .ok plan →
        plan.joins = first :: rest →
          ∃ t, db.table? first.relation = some t ∧ left.GroupedBy t first.columns))
      (db.execute q .inner) (db.execute q .left) := by
  refine ((Within.refl db).execute q .left).mono fun inner left _ hleft hwithin => ?_
  obtain ⟨hshown, hrows⟩ := hwithin.rows_sublist
  refine ⟨hshown, hrows, fun hcondition plan first rest hplan hjoins => ?_⟩
  obtain ⟨plan', hplan', hrun⟩ := Outcome.bind_eq_ok.mp hleft
  obtain rfl := Except.ok.inj (hplan.symm.trans hplan')
  obtain ⟨-, columns, hfilter, -⟩ := Plan.ofSelect_eq_ok.mp hplan
  rw [Plan.resolveFilter, hcondition] at hfilter
  exact grouped_runPlan hjoins (congrArg Prod.fst (Except.ok.inj hfilter)).symm hrun

/-- Each person has a group of rows, also the third one, who has no visit. -/
theorem execute_left_visits :
    ∃ inner left t, visits.execute ⟨.columns ["age", "day"], [], none⟩ .inner = .ok inner ∧
      visits.execute ⟨.columns ["age", "day"], [], none⟩ .left = .ok left ∧
      inner.rows.Sublist left.rows ∧ visits.table? "person" = some t ∧
      left.GroupedBy t ["age", "id"] := by
  have hplan : Plan.ofSelect ⟨.columns ["age", "day"], [], none⟩ visits.schema =
      .ok ⟨["person.age", "visit.day"], [⟨"person", ["age", "id"]⟩, ⟨"visit", ["day", "id"]⟩],
        none⟩ := by cbv
  obtain ⟨inner, hinner⟩ := Outcome.exists_of_isOk
    (show (visits.execute ⟨.columns ["age", "day"], [], none⟩ .inner).isOk = true by cbv)
  obtain ⟨left, hleft, -, hrows, hgroups⟩ := (execute_left visits _).exists_ok hinner
  obtain ⟨t, ht, hgrouped⟩ := hgroups rfl _ _ _ hplan rfl
  exact ⟨inner, left, t, hinner, hleft, hrows, ht, hgrouped⟩

end Database

end ProfileQuery
