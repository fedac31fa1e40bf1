import ProfileQuery.Proofs.Execution.Reordering
import ProfileQuery.Proofs.Plan.Wildcard
import ProfileQuery.Proofs.Schema.RoundTrip
import ProfileQuery.Proofs.Selection.Outcome
import ProfileQuery.Proofs.Store.Requests

/-!
# A whole relation

A query for all columns of one relation returns its rows as they are stored, whatever database of
its schema holds them, exactly when no column of the relation has a dot in its name
(`Database.execute_wildcard_iff`). With a dot, every plan joins another relation, and where that one
has no rows, nothing is returned.
-/

namespace ProfileQuery

open Plan (Dotless JoinStep qualified)

/-! ## Relations without dots -/

namespace Selection

/-- The qualified names of a relation that is joined alone have the positions of its fields. -/
theorem positions_relation {r : Relation} (hdot : ∀ f ∈ r.fields, Dotless f.name)
    (data : List Row) :
    (empty.merge r.name [] r.fields data).positions (r.columns.map (qualified r.name)) =
      .ok (List.range r.arity) := by
  refine positions_eq_ok.mpr (List.forall₂_iff_get.mpr
    ⟨by simp [Relation.columns, Relation.arity], fun i _ hi => ?_⟩)
  have hlt : i < r.fields.length := by simpa [Relation.arity] using hi
  have hfound : (empty.merge r.name [] r.fields data).indexOf?
      (qualified r.name r.fields[i].name) = some i := by
    change (indexFields r.name .empty 0 r.fields).find? _ = some i
    rw [find?_indexFields_own (hdot _ (List.getElem_mem hlt)) hdot r.fields_nodup,
      r.findIdx?_name hlt]
    simp
  rw [List.get_eq_getElem, List.get_eq_getElem, List.getElem_range, List.getElem_map]
  simpa [Relation.columns] using hfound

end Selection

namespace Database

variable {db : Database} {t : Table}

/-- The answer to a wildcard shows the rows of a relation as they are stored. -/
theorem execute_wildcard (ht : t ∈ db.tables) (hne : t.relation.fields ≠ [])
    (hdot : ∀ f ∈ t.relation.fields, Dotless f.name) (mode : JoinMode) :
    ∃ answer, db.execute ⟨.wildcard, [t.relation.name], none⟩ mode = .ok answer ∧
      answer.shownFields = t.relation.fields ∧ answer.rows = t.rows.toList := by
  have htable := table?_of_mem ht
  have hr := relation?_of_table? htable
  have hplan : Plan.ofSelect ⟨.wildcard, [t.relation.name], none⟩ db.schema =
      .ok ⟨t.relation.columns.map (qualified t.relation.name),
        [⟨t.relation.name, t.relation.columns⟩], none⟩ :=
    Plan.ofSelect_eq_ok.mpr ⟨Plan.projectAll_singleton hr, [], rfl,
      Plan.planJoins_relation hr (by simpa [Relation.columns] using hne)
        (by simpa [Relation.columns] using hdot)⟩
  have hcells : t.rows.toList.map (t.cells t.relation.columns) = t.rows.toList := by
    refine (List.map_congr_left fun row hrow => ?_).trans (List.map_id _)
    exact t.cells_columns (t.rows_arity row (Array.mem_toList_iff.mp hrow))
  set whole := Selection.empty.merge t.relation.name [] t.relation.fields t.rows.toList
  have hjoin : db.joinSteps mode .empty [⟨t.relation.name, t.relation.columns⟩] = .ok whole := by
    rw [joinSteps_cons, Selection.join_first htable (List.Subset.refl _) rfl rfl,
      t.relation.fieldsOf_columns, hcells]
    rfl
  refine ⟨{ whole with shown := some ⟨t.relation.columns.map (qualified t.relation.name),
    List.range t.relation.arity⟩ }, ?_, pick_range t.relation.fields, ?_⟩
  · rw [execute, hplan, Outcome.bind_ok, runPlan, hjoin, Outcome.bind_ok]
    exact Selection.project_eq_ok.mpr
      ⟨_, Selection.positions_relation hdot t.rows.toList, rfl⟩
  · refine (List.map_congr_left fun row hrow => ?_).trans (List.map_id _)
    have harity := t.rows_arity row (Array.mem_toList_iff.mp hrow)
    exact harity ▸ row.select_range

end Database

/-! ## Relations with dots -/

namespace Selection

variable {s : Selection} {t : Table} {columns : List String}

theorem data_joinTable_of_nil (hjoins : s.hasJoins = true) (h : s.data = []) (mode : JoinMode) :
    (s.joinTable t columns mode).data = [] := by
  rw [joinTable, if_pos hjoins, merge, h]
  rfl

/-- Nothing matches a relation without rows. -/
theorem data_joinTable_of_empty (h : t.rows.toList = []) :
    (s.joinTable t columns .inner).data = [] := by
  have hnone : ∀ row, s.extensions t columns .inner row = [] := by
    intro row
    rw [extensions_inner, matchingRows, h]
    rfl
  unfold joinTable
  split
  · simp [merge, hnone]
  · simp [merge, h]

end Selection

namespace Database

/-- By inner joins nothing is left where a relation without rows is among the steps. -/
theorem data_joinSteps_of_empty {db : Database} {steps : List JoinStep} {s s' : Selection}
    (h : db.joinSteps .inner s steps = .ok s')
    (hempty : s.hasJoins = true ∧ s.data = [] ∨ ∃ step ∈ steps, ∀ t,
      db.table? step.relation = some t → t.rows.toList = []) : s'.data = [] := by
  induction steps generalizing s with
  | nil =>
    obtain rfl : s = s' := Except.ok.inj h
    obtain ⟨-, hdata⟩ | ⟨_, hstep, -⟩ := hempty
    · exact hdata
    · cases hstep
  | cons step steps ih =>
    rw [joinSteps_cons] at h
    obtain ⟨s₁, hjoin, hrest⟩ := Outcome.bind_eq_ok.mp h
    obtain ⟨-, t, ht, -, rfl⟩ := Selection.of_join_eq_ok hjoin
    refine ih hrest ?_
    obtain ⟨hjoins, hdata⟩ | ⟨other, hother, hnone⟩ := hempty
    · exact .inl ⟨Selection.hasJoins_joinTable, Selection.data_joinTable_of_nil hjoins hdata _⟩
    · rcases List.mem_cons.mp hother with rfl | hlater
      · exact .inl ⟨Selection.hasJoins_joinTable, Selection.data_joinTable_of_empty (hnone t ht)⟩
      · exact .inr ⟨other, hlater, hnone⟩

end Database

/-- Some database of a schema has rows of one relation only. -/
theorem Schema.exists_database {s : Schema} {r : Relation} (hr : r ∈ s.relations) :
    ∃ db : Database, db.schema = s ∧
      (∃ t, db.table? r.name = some t ∧ t.relation = r ∧ t.rows.toList ≠ []) ∧
      ∀ other ≠ r.name, ∀ t, db.table? other = some t → t.rows.toList = [] := by
  have hempty : ∀ r' ∈ s.relations,
      (Database.ofSchema s).table? r'.name = some (Table.empty r') := fun r' hr' =>
    Database.table?_of_mem (t := Table.empty r') (List.mem_map_of_mem hr')
  have hgains := Database.gains_push (hempty r hr) (List.length_replicate (a := Value.null))
  refine ⟨_, hgains.schema_eq.trans (Request.schema_ofSchema s), ?_, fun other hother t ht => ?_⟩
  · obtain ⟨t, ht, hrelation, hrows⟩ := hgains.exists_table? (hempty r hr)
    refine ⟨t, ht, hrelation, ?_⟩
    simp [hrows, Table.empty]
  · have hmem : t.relation ∈ s.relations := by
      rw [← hgains.schema_eq.trans (Request.schema_ofSchema s)]
      exact List.mem_map_of_mem (Database.mem_of_table? ht)
    obtain rfl := Database.name_of_table? ht
    obtain ⟨t', ht', -, hrows⟩ := hgains.exists_table? (hempty _ hmem)
    obtain rfl := Option.some.inj (ht.symm.trans ht')
    simpa [Table.empty, hother.symm] using hrows

/-! ## Dots and wildcards -/

namespace Database

variable {s : Schema} {r : Relation}

/-- A wildcard returns the rows of a relation from every database of its schema exactly when no
column of the relation has a dot in its name. -/
theorem execute_wildcard_iff (hr : r ∈ s.relations) (hne : r.fields ≠ []) :
    (∀ db : Database, db.schema = s → ∀ mode, ∃ t answer, db.table? r.name = some t ∧
      db.execute ⟨.wildcard, [r.name], none⟩ mode = .ok answer ∧ answer.rows = t.rows.toList) ↔
    ∀ f ∈ r.fields, Dotless f.name := by
  constructor
  · intro h f hf
    by_contra hdot
    obtain ⟨db, rfl, ⟨t, ht, rfl, hrows⟩, hothers⟩ := Schema.exists_database hr
    obtain ⟨t', answer, ht', hanswer, heq⟩ := h db rfl .inner
    obtain rfl := Option.some.inj (ht.symm.trans ht')
    obtain ⟨plan, hplan, hrun⟩ := Outcome.bind_eq_ok.mp hanswer
    obtain ⟨hprojection, columns, -, hjoins⟩ := Plan.ofSelect_eq_ok.mp hplan
    have hasked : qualified t.relation.name f.name ∈ plan.projection := by
      obtain heq := Except.ok.inj
        ((Plan.projectAll_singleton (relation?_of_table? ht)).symm.trans hprojection)
      exact heq ▸ List.mem_map_of_mem (List.mem_map_of_mem hf)
    obtain ⟨step, hstep, hother⟩ := Plan.exists_other_of_planJoins hdot hasked hjoins
    obtain ⟨joined, filtered, positions, hjoined, hfilter, -, rfl⟩ := of_runPlan_eq_ok hrun
    obtain ⟨keep, rfl⟩ := of_filterRows_eq_ok hfilter
    have hdata : joined.data = [] :=
      data_joinSteps_of_empty hjoined (.inr ⟨step, hstep, hothers _ hother⟩)
    refine hrows (heq.symm.trans ?_)
    simp [Selection.rows, Selection.filter, hdata]
  · rintro hdot db rfl mode
    obtain ⟨t, ht, rfl⟩ := List.mem_map.mp hr
    obtain ⟨answer, hanswer, -, hrows⟩ := execute_wildcard ht hne hdot mode
    exact ⟨t, answer, table?_of_mem ht, hanswer, hrows⟩

/-- The people as they are stored. -/
theorem execute_wildcard_visits :
    ∃ answer, visits.execute ⟨.wildcard, ["person"], none⟩ .left = .ok answer ∧
      answer.rows =
        [[.integer 1, .integer 40], [.integer 2, .integer 50], [.integer 3, .null]] := by
  obtain ⟨t, answer, ht, hanswer, hrows⟩ := (execute_wildcard_iff
    (r := ⟨"person", [⟨"id", .integer, true, false, none⟩, ⟨"age", .integer, false, false, none⟩],
      by decide⟩) (s := visits.schema) (by decide) (by decide)).mpr (by decide) visits rfl .left
  obtain rfl := Option.some.inj ht
  exact ⟨answer, hanswer, hrows⟩

end Database

/-- A relation with a dot in the name of its column. -/
def Relation.dotted : Relation := ⟨"_r", [⟨"a.b", .string, false, false, none⟩], by decide⟩

/-- The part in front of the dot is taken for that of another relation, which there is not. -/
theorem Database.execute_wildcard_dotted :
    ∃ s, RelationsFile.read "_r:\n  a.b :string\n" = .ok s ∧ s.relations = [.dotted] ∧
      ∃ db, (ofSchema s).insert "_r" [.text "x"] = .ok db ∧
        db.execute ⟨.wildcard, ["_r"], none⟩ .inner = .error (.unknownRelation "_r.a") := by
  have hlines : Text.lines "_r:\n  a.b :string\n".toList =
      ["_r:".toList, "  a.b :string".toList, []] := by cbv
  have hheading : RelationsFile.Line.ofText (Text.trim "_r:".toList) = .heading "_r" :=
    RelationsFile.ofText_heading
      (RelationsFile.headline_underscore "r".toList (by simp [Text.Bare, Text.isBlank])) rfl
  have hfield : RelationsFile.Line.ofText (Text.trim "  a.b :string".toList) =
      .field "a.b" [":string"] none := rfl
  refine ⟨⟨[.dotted], by decide⟩, ?_, rfl, _, rfl, by cbv⟩
  rw [RelationsFile.read, hlines, RelationsFile.readLines_heading hheading rfl,
    RelationsFile.readLines_field hfield rfl, RelationsFile.readLines_blank]
  exact RelationsFile.finish_relation (r := .dotted) (by simp [Schema.empty])

end ProfileQuery
