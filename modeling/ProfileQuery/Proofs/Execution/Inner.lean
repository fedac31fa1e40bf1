import Mathlib
import ProfileQuery.Proofs.Execution.Reference
import ProfileQuery.Proofs.Execution.Steps

/-!
# Inner joins and the relational reference

The rows of inner joins are the matched combinations of stored rows, laid out by the positions of the
selection. The run invariant pairs this with the layout of the name index; from both, the answer to
a query is the one that the relational reference gives.
-/

namespace ProfileQuery

open Plan (Dotless Fetches JoinStep Linked Located SelectPlan qualified)

namespace Combination

/-- The cells of a combination at the positions of a layout. -/
def laidOut (layout : List (String × String)) (combo : Combination) : Row :=
  layout.map fun source => (combo.cellOf? source.1 source.2).getD .null

theorem getElem?_laidOut {layout : List (String × String)} {p : Nat} {source : String × String}
    (h : layout[p]? = some source) (combo : Combination) :
    (combo.laidOut layout)[p]? = some ((combo.cellOf? source.1 source.2).getD .null) := by
  rw [laidOut, List.getElem?_map, h]
  rfl

end Combination

variable {db : Database} {done steps : List JoinStep} {step : JoinStep} {s s' : Selection}
  {layout : List (String × String)} {t : Table} {combo : Combination}

/-- The column that a bare name stands for, in a combination: the cell of the first part that has
fetched it. -/
theorem Indexed.exists_first (h : Indexed db done layout s) (hcombo : combo ∈ db.combinations done)
    (hnodup : (done.map (·.relation)).Nodup) {c : String} (hc : Dotless c)
    (hearlier : ∃ earlier ∈ done, c ∈ earlier.columns) :
    ∃ p first, s.indexOf? c = some p ∧ combo.find? (c ∈ ·.columns) = some first ∧
      (combo.laidOut layout)[p]? = some ((first.cell? c).getD .null) ∧
        ∃ before ∈ done, first ∈ db.parts before ∧ c ∈ before.columns := by
  rcases Database.find?_columns hcombo c with
    ⟨hnone, -⟩ | ⟨before, hmem, first, hfirst, hpart, hdone, hfound⟩
  · obtain ⟨earlier, hmem, hcolumn⟩ := hearlier
    exact absurd hcolumn (by simpa using List.find?_eq_none.mp hnone earlier hmem)
  · obtain ⟨p, hp, hlayout⟩ := h.bare_some c before hc hdone
    have hcell := Combination.getElem?_laidOut hlayout combo
    rw [← Database.name_of_mem_parts hpart, Combination.cellOf?_of_mem
      (by rw [Database.names_of_mem_combinations hcombo]; exact hnodup) hfirst] at hcell
    exact ⟨p, first, hp, hfound, hcell, before, hmem, hpart,
      by simpa using List.find?_some hdone⟩

/-! ## One join -/

section OneJoin

variable (h : Indexed db done layout s) (ht : db.table? step.relation = some t)
  (hc : step.columns ⊆ t.relation.columns) (hdot : ∀ c ∈ t.relation.columns, Dotless c)
  (runnable : Runnable db done) (hcombo : combo ∈ db.combinations done)

include h ht hc hdot runnable hcombo

omit ht in
/-- A stored row matches the cells of a combination exactly when it agrees with its parts. -/
theorem agrees_iff_matches {row : Row} (hrow : row ∈ t.rows) :
    Combination.Agrees combo ⟨t.relation, step.columns, row⟩ ↔
      t.cells (s.onColumns t.relation step.columns) row =
        s.cellsAt (s.onColumns t.relation step.columns) (combo.laidOut layout) := by
  rw [Table.cells, Selection.cellsAt, Row.select, List.map_map, List.map_inj_left]
  -- at a key that was fetched before, both sides compare the new cell with the first one
  have atColumn : ∀ c ∈ step.columns, c ∈ t.relation.keys →
      (∃ earlier ∈ done, c ∈ earlier.columns) →
      ∃ first, combo.find? (c ∈ ·.columns) = some first ∧
        (t.relation.cell? c row = first.cell? c ↔ (t.relation.cell? c row).getD .null =
          ((combo.laidOut layout)[(s.indexOf? c).getD 0]?).getD .null) := by
    intro c hmem _ hearlier
    obtain ⟨p, first, hp, hfirst, hcell, before, hbefore, hpart, hcolumn⟩ :=
      h.exists_first hcombo runnable.relations_nodup (hdot c (hc hmem)) hearlier
    refine ⟨first, hfirst, ?_⟩
    obtain ⟨v, hv⟩ := Option.isSome_iff_exists.mp
      (Relation.isSome_cell? (t.rows_arity row hrow) (hc hmem))
    obtain ⟨t', ht', hcolumns⟩ := runnable.known before hbefore
    obtain ⟨t'', ht'', hrelation, -, -⟩ := Database.mem_parts.mp hpart
    obtain rfl := Option.some.inj (ht'.symm.trans ht'')
    have hknown : c ∈ first.relation.columns := hrelation ▸ hcolumns hcolumn
    obtain ⟨w, hw⟩ := Option.isSome_iff_exists.mp (Database.isSome_cell?_of_mem_parts hpart hknown)
    simp [hp, hcell, hv, hw]
  constructor
  · intro hagrees c hon
    obtain ⟨hmem, hkey, hearlier⟩ := (h.mem_onColumns fun c hmem => hdot c (hc hmem)).mp hon
    obtain ⟨first, hfirst, hiff⟩ := atColumn c hmem hkey hearlier
    exact hiff.mp (hagrees c hmem hkey first hfirst)
  · intro hequal c hmem hkey first hfirst
    have hfound : ∃ earlier ∈ done, c ∈ earlier.columns := by
      rcases Database.find?_columns hcombo c with ⟨-, hnone⟩ | ⟨before, hbefore, -, -, -, hdone, -⟩
      · rw [hnone] at hfirst
        cases hfirst
      · exact ⟨before, hbefore, by simpa using List.find?_some hdone⟩
    obtain ⟨first', hfirst', hiff⟩ := atColumn c hmem hkey hfound
    obtain rfl := Option.some.inj (hfirst'.symm.trans hfirst)
    exact hiff.mpr (hequal c ((h.mem_onColumns fun c hmem => hdot c (hc hmem)).mpr
      ⟨hmem, hkey, hfound⟩))

omit hc hdot runnable in
/-- The cells of a combination and of one more stored row. -/
theorem laidOut_concat (hnew : step.relation ∉ done.map (·.relation)) (row : Row) :
    Combination.laidOut (layout ++ (s.addedColumns t.relation step.columns).map (step.relation, ·))
        (combo ++ [⟨t.relation, step.columns, row⟩]) =
      combo.laidOut layout ++ t.cells (s.addedColumns t.relation step.columns) row := by
  have hnames := Database.names_of_mem_combinations hcombo
  rw [Combination.laidOut, List.map_append, List.map_map]
  congr 1
  · refine List.map_congr_left fun source hsource => ?_
    obtain ⟨before, hbefore, hrelation, -⟩ := h.fetched source hsource
    have hmem : source.1 ∈ combo.map (·.relation.name) := by
      rw [hnames, ← hrelation]
      exact List.mem_map_of_mem hbefore
    obtain ⟨part, hpart, hname⟩ := List.mem_map.mp hmem
    rw [Combination.cellOf?_append ⟨part, hpart, hname⟩]
  · refine List.map_congr_left fun c _ => ?_
    simp only [Function.comp_apply]
    rw [Combination.cellOf?_concat _ (Database.name_of_table? ht)]
    · rfl
    · intro other hother hsame
      apply hnew
      rw [← hnames, ← hsame]
      exact List.mem_map_of_mem hother

end OneJoin

/-- The rows after an inner join are the extensions of those before it; before the first there is one
row without cells. -/
theorem Indexed.stepRows_inner (h : Indexed db done layout s)
    (hdot : ∀ c ∈ step.columns, Dotless c) {rows : List Row}
    (hfirst : done = [] → rows = [[]]) (hlater : done ≠ [] → s.data = rows) :
    s.stepRows t step.columns .inner = rows.flatMap fun row =>
      (s.matchingRows t step.columns row).map fun stored =>
        row ++ t.cells (s.addedColumns t.relation step.columns) stored := by
  have hjoins := h.hasJoins_eq
  rw [Selection.stepRows, hjoins]
  cases done with
  | nil =>
    have hon : s.onColumns t.relation step.columns = [] := by
      refine List.eq_nil_iff_forall_not_mem.mpr fun c hmem => ?_
      obtain ⟨-, -, earlier, hearlier, -⟩ := (h.mem_onColumns hdot).mp hmem
      cases hearlier
    simp [hfirst rfl, Selection.matchingRows, Selection.addedColumns, hon, Table.cells,
      Selection.cellsAt, Row.select]
  | cons first done =>
    rw [← hlater (List.cons_ne_nil _ _)]
    simp only [List.isEmpty_cons, Bool.not_false, if_true, Selection.joinedRows]
    refine List.flatMap_congr fun row _ => ?_
    cases s.matchingRows t step.columns row with
    | nil => rfl
    | cons stored rest => simp [Selection.extendRow]

/-! ## Runs -/

/-- After inner joins the rows are the matched combinations, laid out. -/
theorem Database.joinSteps_inner (dotless : db.schema.Dotless) (runnable : Runnable db steps)
    (hne : steps ≠ []) (hrun : db.joinSteps .inner .empty steps = .ok s') :
    ∃ layout, Indexed db steps layout s' ∧
      s'.data = (db.matched steps).map (·.laidOut layout) := by
  refine (Database.of_joinSteps dotless runnable (P := fun done layout s =>
    done ≠ [] → s.data = (db.matched done).map (·.laidOut layout)) (fun h => absurd rfl h)
    (fun done layout s step t hdata hindexed runnable ht hc _ _ => ?_) hrun).imp
      fun layout h => ⟨h.1, h.2 hne⟩
  have hdot := dotless.table ht
  have hnew := runnable.fresh
  have hfirst : done = [] → (db.matched done).map (·.laidOut layout) = [[]] := by
    rintro rfl
    have hlayout : layout = [] := by
      refine List.eq_nil_iff_forall_not_mem.mpr fun source hsource => ?_
      obtain ⟨before, hbefore, -⟩ := hindexed.fetched source hsource
      cases hbefore
    rw [hlayout]
    rfl
  rw [Selection.mergeTable, Selection.merge,
    hindexed.stepRows_inner (fun c hmem => hdot c (hc hmem)) hfirst hdata, Database.matched_concat,
    List.flatMap_map, List.map_flatMap]
  refine List.flatMap_congr fun combo hmem => ?_
  have hcombo : combo ∈ db.combinations done := List.mem_of_mem_filter hmem
  have hparts : db.parts step = t.rows.toList.map fun row => ⟨t.relation, step.columns, row⟩ := by
    rw [Database.parts, ht]
  rw [hparts, List.filter_map, List.map_map, List.map_map, Selection.matchingRows]
  -- the stored rows that are matched are those that agree with the combination
  have same : t.rows.toList.filter ((fun part => decide (Combination.Agrees combo part)) ∘
      fun row => ⟨t.relation, step.columns, row⟩) = t.rows.toList.filter fun stored =>
        t.cells (s.onColumns t.relation step.columns) stored =
          s.cellsAt (s.onColumns t.relation step.columns) (combo.laidOut layout) := by
    refine List.filter_congr fun row hrow => ?_
    exact decide_eq_decide.mpr (agrees_iff_matches hindexed hc hdot runnable.left hcombo
      (Array.mem_toList_iff.mp hrow))
  rw [same]
  exact List.map_congr_left fun row _ => (laidOut_concat hindexed ht hcombo hnew row).symm

/-! ## Reading by name -/

/-- In a matched combination the position of a qualified name holds the cell of its own relation,
also where it is the position of an earlier step. -/
theorem Indexed.exists_value (h : Indexed db steps layout s) (runnable : Runnable db steps)
    (hcombo : combo ∈ db.matched steps) {relation column : String}
    (hf : Fetches steps relation column) :
    ∃ p v, s.indexOf? (qualified relation column) = some p ∧
      combo.cell? (qualified relation column) = some v ∧ (combo.laidOut layout)[p]? = some v := by
  obtain ⟨step, hstep, rfl, hcolumn⟩ := hf
  have hdot := h.dotless step hstep column hcolumn
  obtain ⟨before, after, rfl⟩ := List.append_of_mem hstep
  have hall : combo ∈ db.combinations (before ++ step :: after) := List.mem_of_mem_filter hcombo
  have hmatched : combo.Matched := by simpa using List.of_mem_filter hcombo
  have hnodup : (combo.map (·.relation.name)).Nodup := by
    rw [Database.names_of_mem_combinations hall]
    exact runnable.relations_nodup
  obtain ⟨earlier, part, later, rfl, hearlier, hpart⟩ := Database.split_of_mem_combinations hall
  obtain ⟨t, ht, hcolumns⟩ := runnable.known step hstep
  obtain ⟨t', ht', hrelation, hpartColumns, -⟩ := Database.mem_parts.mp hpart
  obtain rfl := Option.some.inj (ht.symm.trans ht')
  obtain ⟨v, hv⟩ := Option.isSome_iff_exists.mp
    (Database.isSome_cell?_of_mem_parts hpart (hrelation ▸ hcolumns hcolumn))
  have own : Combination.cellOf? (earlier ++ part :: later) step.relation column = some v := by
    rw [← Database.name_of_mem_parts hpart, Combination.cellOf?_of_mem hnodup (by simp), hv]
  obtain ⟨p, hp, hlayout⟩ := h.own before step after rfl column hcolumn
  refine ⟨p, v, hp, by rw [Combination.cell?_qualified hdot, own], ?_⟩
  -- the position holds the column itself, or that of the first step with the key
  rcases hlayout with hown | ⟨hkey, first, hfirst, hshared⟩
  · rw [Combination.getElem?_laidOut hown, own]
    rfl
  · rcases Database.find?_columns hearlier column with ⟨hnone, -⟩ |
      ⟨first', -, firstPart, hmem, hfirstPart, hfound, hfoundPart⟩
    · rw [hnone] at hfirst
      cases hfirst
    · obtain rfl := Option.some.inj (hfound.symm.trans hfirst)
      have hagrees : part.cell? column = firstPart.cell? column := by
        refine hmatched.agrees column (hpartColumns ▸ hcolumn) ?_ firstPart hfoundPart
        rwa [hrelation, ← Schema.keys_of_table? ht]
      rw [Combination.getElem?_laidOut hshared]
      dsimp only
      rw [← Database.name_of_mem_parts hfirstPart,
        Combination.cellOf?_of_mem hnodup (by simp [hmem]), ← hagrees, hv]
      rfl

/-- A filter keeps the combinations that satisfy the condition. -/
theorem Indexed.data_filterRows (h : Indexed db steps layout s) (runnable : Runnable db steps)
    {condition : Option Query.Condition} (hdata : s.data = (db.matched steps).map (·.laidOut layout))
    (hnames : ∀ c, condition = some c → ∀ name ∈ c.leafColumns, ∃ relation column,
      name = qualified relation column ∧ Fetches steps relation column)
    (hfilter : Database.filterRows s condition = .ok s') :
    s'.index = s.index ∧
      s'.data = ((db.matched steps).filter (·.satisfies condition)).map (·.laidOut layout) := by
  cases condition with
  | none =>
    obtain rfl := Except.ok.inj hfilter
    exact ⟨rfl, by simpa [Combination.satisfies] using hdata⟩
  | some c =>
    obtain ⟨test, hcompile, heq⟩ := Outcome.bind_eq_ok.mp hfilter
    obtain rfl := Except.ok.inj heq
    obtain rfl := Filter.eval_of_compile hcompile
    refine ⟨rfl, ?_⟩
    rw [Selection.filter, hdata, List.filter_map]
    refine congrArg (List.map _) (List.filter_congr fun combo hcombo => ?_)
    refine Query.Condition.eval_congr c fun name hname => ?_
    obtain ⟨relation, column, rfl, hf⟩ := hnames c rfl name hname
    obtain ⟨p, v, hp, hv, hcell⟩ := h.exists_value runnable hcombo hf
    have hp' : s.index.find? (qualified relation column) = some p := hp
    simp [Filter.readRow, Filter.cell, Combination.value, hp', hv, hcell]

/-- The rows that a projection shows are the cells with its names. -/
theorem Indexed.rows_project (h : Indexed db steps layout s) (runnable : Runnable db steps)
    {combos : List Combination} (hcombos : combos ⊆ db.matched steps) {filtered : Selection}
    (hindex : filtered.index = s.index) (hdata : filtered.data = combos.map (·.laidOut layout))
    {names : List String} (hnames : ∀ name ∈ names, ∃ relation column,
      name = qualified relation column ∧ Fetches steps relation column)
    {positions : List Nat} (hpositions : filtered.positions names = .ok positions) :
    (filtered.data.map (Row.select positions)).map (·.map some) =
      combos.map fun combo => names.map combo.cell? := by
  rw [Selection.positions_eq_ok] at hpositions
  simp only [hdata, List.map_map]
  refine List.map_congr_left fun combo hcombo => ?_
  simp only [Function.comp_apply, Row.select, List.map_map]
  -- on the names of the projection, each with the position it stands for
  induction hpositions with
  | nil => rfl
  | @cons name position names positions hposition _ ih =>
    obtain ⟨relation, column, rfl, hf⟩ := hnames name List.mem_cons_self
    obtain ⟨p, v, hp, hv, hcell⟩ := h.exists_value runnable (hcombos hcombo) hf
    have hp' : filtered.indexOf? (qualified relation column) = some p := by
      rw [Selection.indexOf?, hindex]
      exact hp
    obtain rfl := Option.some.inj (hp'.symm.trans hposition)
    rw [List.map_cons, List.map_cons, ih fun name hmem => hnames name (List.mem_cons_of_mem _ hmem)]
    simp [hcell, hv]

/-- A plan that is carried out by inner joins has the laid out combinations that satisfy its
condition, and shows them as it asks to. -/
theorem Database.data_runPlan (dotless : db.schema.Dotless) {plan : SelectPlan}
    {joined : List String} (planned : Plan.Planned db.schema plan.names joined plan.joins)
    (hne : plan.joins ≠ []) (hrun : db.runPlan plan .inner = .ok s') :
    ∃ s layout positions, db.joinSteps .inner .empty plan.joins = .ok s ∧
      Indexed db plan.joins layout s ∧ s'.index = s.index ∧
      s'.data = ((db.matched plan.joins).filter (·.satisfies plan.condition)).map
        (·.laidOut layout) ∧
      s'.positions plan.projection = .ok positions ∧
      s'.shown = some ⟨plan.projection, positions⟩ := by
  have runnable := planned.runnable
  obtain ⟨s, filtered, positions, hjoins, hfilter, hpositions, rfl⟩ := of_runPlan_eq_ok hrun
  obtain ⟨layout, hindexed, hdata⟩ := Database.joinSteps_inner dotless runnable hne hjoins
  have hnames : ∀ c, plan.condition = some c → ∀ name ∈ c.leafColumns, ∃ relation column,
      name = qualified relation column ∧ Fetches plan.joins relation column := fun c hc name hname =>
    planned.exists_fetches name (by simp [SelectPlan.names, hc, hname])
  obtain ⟨hindex, hfiltered⟩ := hindexed.data_filterRows runnable hdata hnames hfilter
  exact ⟨s, layout, positions, hjoins, hindexed, hindex, hfiltered, hpositions, rfl⟩

/-- A plan that is carried out by inner joins gives the rows of the reference, and every name that it
mentions has a cell in the combinations that remain. -/
theorem Database.rows_runPlan (dotless : db.schema.Dotless) {plan : SelectPlan}
    {joined : List String} (planned : Plan.Planned db.schema plan.names joined plan.joins)
    (hne : plan.joins ≠ []) (hrun : db.runPlan plan .inner = .ok s') :
    s'.rows.map (·.map some) = db.referenceRows plan ∧
      ∀ combo ∈ db.matched plan.joins, ∀ name ∈ plan.names, (combo.cell? name).isSome = true := by
  have runnable := planned.runnable
  obtain ⟨s, layout, positions, -, hindexed, hindex, hdata, hpositions, hshown⟩ :=
    Database.data_runPlan dotless planned hne hrun
  have hrows := hindexed.rows_project runnable (List.filter_subset_self _) hindex hdata
    (fun name hname => planned.exists_fetches name (List.mem_append_left _ hname)) hpositions
  rw [Selection.rows, Selection.shownPositions, hshown]
  refine ⟨hrows, ?_⟩
  intro combo hcombo name hname
  obtain ⟨relation, column, rfl, hf⟩ := planned.exists_fetches name hname
  obtain ⟨p, v, -, hv, -⟩ := hindexed.exists_value runnable hcombo hf
  rw [hv]
  rfl

/-! ## Queries -/

/-- The answer to a query by inner joins is what the relational reference says, row by row: the
combinations of stored rows in lexicographic order, without those whose parts disagree on a key or
that the condition rules out, each with the cells of the projection. -/
theorem Database.execute_inner_eq_reference (dotless : db.schema.Dotless) {q : Query.Select}
    {plan : SelectPlan} (hplan : Plan.ofSelect q db.schema = .ok plan) (hne : plan.joins ≠ [])
    (h : db.execute q .inner = .ok s) :
    s.rows.map (·.map some) = db.referenceRows plan ∧
      ∀ combo ∈ db.matched plan.joins, ∀ name ∈ plan.names, (combo.cell? name).isSome = true := by
  obtain ⟨plan', hplan', hrun⟩ := Outcome.bind_eq_ok.mp h
  obtain rfl := Except.ok.inj (hplan.symm.trans hplan')
  obtain ⟨-, joined, planned⟩ := Plan.planned_of_ofSelect dotless hplan
  exact Database.rows_runPlan dotless planned hne hrun

/-- People with their ages, and the days of their visits; an age and a day are missing. -/
def Database.visits : Database where
  tables := [
    ⟨⟨"person", [⟨"id", .integer, true, false, none⟩, ⟨"age", .integer, false, false, none⟩],
        by decide⟩,
      #[[.integer 1, .integer 40], [.integer 2, .integer 50], [.integer 3, .null]], by decide⟩,
    ⟨⟨"visit", [⟨"id", .integer, true, false, none⟩, ⟨"day", .integer, false, false, none⟩],
        by decide⟩,
      #[[.integer 2, .integer 7], [.integer 1, .null], [.integer 2, .integer 7]], by decide⟩]
  tables_nodup := by decide

/-- The days of the visits of people older than 45, one row for each visit. -/
theorem Database.execute_visits_eq_reference :
    ∃ s, visits.execute ⟨.columns ["age", "day"], [], some (.comparison .greater "age" (.integer 45))⟩
        .inner = .ok s ∧
      s.rows.map (·.map some) =
        [[some (.integer 50), some (.integer 7)], [some (.integer 50), some (.integer 7)]] := by
  have hplan : Plan.ofSelect
      ⟨.columns ["age", "day"], [], some (.comparison .greater "age" (.integer 45))⟩ visits.schema =
      .ok ⟨["person.age", "visit.day"], [⟨"person", ["age", "id"]⟩, ⟨"visit", ["day", "id"]⟩],
        some (.comparison .greater "person.age" (.integer 45))⟩ := by cbv
  obtain ⟨s, hs⟩ := Outcome.exists_of_isOk (show (visits.execute
      ⟨.columns ["age", "day"], [], some (.comparison .greater "age" (.integer 45))⟩
      .inner).isOk = true by cbv)
  refine ⟨s, hs, (execute_inner_eq_reference (by decide) hplan (by simp) hs).1.trans ?_⟩
  cbv

end ProfileQuery
