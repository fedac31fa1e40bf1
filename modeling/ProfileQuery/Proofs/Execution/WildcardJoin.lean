import ProfileQuery.Proofs.Execution.Reselect
import ProfileQuery.Proofs.Plan.Wildcard

/-!
# Wildcards over several relations

The answer to a wildcard query over several relations has no column twice, and yet no cell of the
rows that were joined is lost (`Database.execute_wildcard_keeps`). A key that is left out because a
relation named before has it too stands at the same position under both names: the keys of one name
are all matched with the column that was fetched first under it.
-/

namespace ProfileQuery

open Plan (Dotless Fetches JoinStep askedUnder qualified)

variable {db : Database} {steps : List JoinStep} {layout : List (String × String)} {s : Selection}

/-- Keys of one name have one position. -/
theorem Placed.indexOf?_key (h : Placed db steps layout s) (hindexed : Indexed db steps layout s)
    {relation other key : String} (hkey : key ∈ db.schema.keys relation)
    (hfetches : Fetches steps relation key) (hother : key ∈ db.schema.keys other)
    (hfetches' : Fetches steps other key) :
    s.indexOf? (qualified relation key) = s.indexOf? (qualified other key) := by
  obtain ⟨p, q, hp, hq, hsame⟩ := h.indexOf?_eq_iff hindexed hfetches
  obtain ⟨p', q', hp', hq', hsame'⟩ := h.indexOf?_eq_iff hindexed hfetches'
  rw [hq, hq', ← hsame.mpr (.inl hkey), ← hsame'.mpr (.inl hother), ← hp, ← hp']

/-- Where the position of a column is shown, its cells are. -/
theorem Indexed.cells_select (h : Indexed db steps layout s) (runnable : Runnable db steps)
    {combos : List Combination} (hcombos : combos ⊆ db.matched steps) {relation column : String}
    (hfetches : Fetches steps relation column) {positions : List Nat} {k p : Nat}
    (hp : s.indexOf? (qualified relation column) = some p) (hk : positions[k]? = some p) :
    ((combos.map (·.laidOut layout)).map (Row.select positions)).map (·[k]?) =
        combos.map (·.cellOf? relation column) ∧
      ∀ combo ∈ combos, (combo.cellOf? relation column).isSome = true := by
  have cell : ∀ combo ∈ combos, ∃ v, combo.cellOf? relation column = some v ∧
      (combo.laidOut layout)[p]? = some v := by
    intro combo hcombo
    obtain ⟨q, v, hq, hv, hcell⟩ := h.exists_value runnable (hcombos hcombo) hfetches
    obtain rfl := Option.some.inj (hp.symm.trans hq)
    obtain ⟨step, hstep, -, hcolumn⟩ := hfetches
    rw [Combination.cell?_qualified (h.dotless step hstep column hcolumn)] at hv
    exact ⟨v, hv, hcell⟩
  constructor
  · rw [List.map_map, List.map_map]
    refine List.map_congr_left fun combo hcombo => ?_
    obtain ⟨v, hv, hcell⟩ := cell combo hcombo
    simp [Row.select, hk, hv, hcell]
  · intro combo hcombo
    obtain ⟨v, hv, -⟩ := cell combo hcombo
    rw [hv]
    rfl

/-- A column that is fetched is shown where it is asked for by its own name, or, if it is a key, by
the name of another relation with the key. -/
theorem Database.shown_of_runPlan (dotless : db.schema.Dotless) {plan : Plan.SelectPlan}
    {joined : List String} (planned : Plan.Planned db.schema plan.names joined plan.joins)
    (hrun : db.runPlan plan .inner = .ok s) {relation other column : String}
    (hfetches : Fetches plan.joins relation column)
    (hasked : qualified other column ∈ plan.projection) (hfetches' : Fetches plan.joins other column)
    (hsame : other = relation ∨
      column ∈ db.schema.keys relation ∧ column ∈ db.schema.keys other) :
    ∃ k p : Nat, plan.projection[k]? = some (qualified other column) ∧
      s.shownPositions[k]? = some p ∧ s.indexOf? (qualified relation column) = some p ∧
      s.rows.map (fun row => row[k]?) =
        ((db.matched plan.joins).filter (·.satisfies plan.condition)).map
          (·.cellOf? relation column) ∧
      ∀ combo ∈ (db.matched plan.joins).filter (·.satisfies plan.condition),
        (combo.cellOf? relation column).isSome = true := by
  have runnable := planned.runnable
  have hne : plan.joins ≠ [] := by
    obtain ⟨step, hstep, -⟩ := hfetches
    exact List.ne_nil_of_mem hstep
  obtain ⟨all, layout, positions, hjoins, hindexed, hindex, hdata, hpositions, hshown⟩ :=
    data_runPlan dotless planned hne hrun
  obtain ⟨layout', hindexed', hplaced⟩ := placed_of_joinSteps dotless runnable hjoins
  rw [Selection.positions_congr hindex] at hpositions
  obtain ⟨k, p, hname, hk, hother⟩ := Selection.exists_position hpositions hasked
  have hp : all.indexOf? (qualified relation column) = some p := by
    rcases hsame with rfl | ⟨hkey, hkey'⟩
    · exact hother
    · rwa [hplaced.indexOf?_key hindexed' hkey hfetches hkey' hfetches']
  set combos := (db.matched plan.joins).filter (·.satisfies plan.condition)
  have hcombos : combos ⊆ db.matched plan.joins := List.filter_subset_self _
  obtain ⟨hcells, hsome⟩ := hindexed.cells_select runnable hcombos hfetches hp hk
  rw [Selection.rows, Selection.shownPositions, hshown, hdata]
  refine ⟨k, p, hname, hk, ?_, hcells, hsome⟩
  rwa [Selection.indexOf?, hindex]

namespace Database

/-- A wildcard query loses nothing: no name is asked for twice, and each column of each relation
that the query names is at a position that the answer shows, under the name of its own relation or,
if it is a key, under that of the first named relation with the key. There the answer has, row by
row, the cells of the rows that were joined. -/
theorem execute_wildcard_keeps (dotless : db.schema.Dotless) {relations : List String}
    {condition : Option Query.Condition}
    (h : db.execute ⟨.wildcard, relations, condition⟩ .inner = .ok s) :
    ∃ plan positions, Plan.ofSelect ⟨.wildcard, relations, condition⟩ db.schema = .ok plan ∧
      s.shown = some ⟨plan.projection, positions⟩ ∧ plan.projection.Nodup ∧
      ∀ relation ∈ relations, ∃ r, db.schema.relation? relation = some r ∧
        ∀ column ∈ r.columns, ∃ k p : Nat,
          plan.projection[k]? =
            some (qualified (askedUnder db.schema relations relation column) column) ∧
          positions[k]? = some p ∧ s.indexOf? (qualified relation column) = some p ∧
          s.rows.map (fun row => row[k]?) =
            ((db.matched plan.joins).filter (·.satisfies plan.condition)).map
              (·.cellOf? relation column) ∧
          ∀ combo ∈ (db.matched plan.joins).filter (·.satisfies plan.condition),
            (combo.cellOf? relation column).isSome = true := by
  obtain ⟨plan, hplan, hrun⟩ := Outcome.bind_eq_ok.mp h
  obtain ⟨-, joined, planned⟩ := Plan.planned_of_ofSelect dotless hplan
  obtain ⟨hprojection, _, -, hjoins⟩ := Plan.ofSelect_eq_ok.mp hplan
  obtain ⟨hnodup, hknown⟩ := Plan.named_of_planJoins hjoins
  obtain ⟨_, _, positions, -, -, -, hs⟩ := of_runPlan_eq_ok hrun
  have hshown : s.shown = some ⟨plan.projection, positions⟩ := by rw [hs]
  refine ⟨plan, positions, hplan, hshown, Plan.nodup_projectRelations dotless hnodup hprojection,
    fun relation hrelation => ?_⟩
  obtain ⟨r, hr⟩ := hknown relation hrelation
  refine ⟨r, hr, fun column hc => ?_⟩
  obtain ⟨hasked, hfetches', hfetches⟩ := Plan.fetches_of_wildcard dotless hplan hrelation hr hc
  obtain ⟨k, p, hk, hp, hrest⟩ := shown_of_runPlan dotless planned hrun hfetches hasked
    hfetches' (Plan.askedUnder_eq_or_key hrelation)
  rw [Selection.shownPositions, hshown] at hp
  exact ⟨k, p, hk, hp, hrest⟩

/-- People with the cities they live in, visits of people to cities, and the lands of the cities. -/
def travels : Database where
  tables := [
    ⟨⟨"person", [⟨"id", .integer, true, false, none⟩, ⟨"city", .string, false, false, none⟩],
        by decide⟩, #[[.integer 1, .text "Oslo"], [.integer 2, .text "Rome"]], by decide⟩,
    ⟨⟨"visit", [⟨"id", .integer, true, false, none⟩, ⟨"city", .string, true, false, none⟩],
        by decide⟩, #[[.integer 1, .text "Rome"], [.integer 2, .text "Rome"]], by decide⟩,
    ⟨⟨"city", [⟨"city", .string, true, false, none⟩, ⟨"land", .string, false, false, none⟩],
        by decide⟩, #[[.text "Oslo", .text "Norway"], [.text "Rome", .text "Italy"]], by decide⟩]
  tables_nodup := by decide

/-- The key of the cities is left out, and shown where that of the visits is, which was matched with
a column of the people that is no key. -/
theorem execute_wildcard_keeps_travels : travels.schema.Dotless ∧
    ∃ s, travels.execute ⟨.wildcard, ["person", "visit", "city"], none⟩ .inner = .ok s ∧
      s.rows = [[.integer 2, .text "Rome", .text "Rome", .text "Italy"]] ∧
      ∃ k p : Nat, ["person.id", "person.city", "visit.city", "city.land"][k]? = some "visit.city" ∧
        s.shownPositions[k]? = some p ∧ s.indexOf? "city.city" = some p ∧
        s.rows.map (fun row => row[k]?) = [some (.text "Rome")] := by
  have dotless : travels.schema.Dotless := by decide
  obtain ⟨s, hs, hrows⟩ := Outcome.bind_eq_ok.mp (show
    (travels.execute ⟨.wildcard, ["person", "visit", "city"], none⟩ .inner >>= fun s => .ok s.rows) =
      .ok [[.integer 2, .text "Rome", .text "Rome", .text "Italy"]] by cbv)
  have hplan : Plan.ofSelect ⟨.wildcard, ["person", "visit", "city"], none⟩ travels.schema =
      .ok ⟨["person.id", "person.city", "visit.city", "city.land"],
        [⟨"person", ["id", "city"]⟩, ⟨"visit", ["city", "id"]⟩, ⟨"city", ["land", "city"]⟩],
        none⟩ := by cbv
  obtain ⟨plan, positions, hplan', hshown, -, hkeeps⟩ := execute_wildcard_keeps dotless hs
  obtain rfl := Except.ok.inj (hplan.symm.trans hplan')
  obtain ⟨r, hr, hcolumns⟩ := hkeeps "city" (by simp)
  obtain rfl := Option.some.inj hr
  obtain ⟨k, p, hk, hp, hindex, hcells, -⟩ := hcolumns "city" (by decide)
  refine ⟨dotless, s, hs, Except.ok.inj hrows, k, p, hk, ?_, hindex, hcells.trans ?_⟩
  · rw [Selection.shownPositions, hshown]
    exact hp
  · cbv

end Database

end ProfileQuery
