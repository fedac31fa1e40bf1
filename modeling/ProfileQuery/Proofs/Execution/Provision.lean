import ProfileQuery.Proofs.Execution.Feasibility
import ProfileQuery.Proofs.Execution.Inner
import ProfileQuery.Proofs.Plan.Named

/-!
# What planned joins provide

The steps that are planned for some columns fetch all of them, and each only once (`Provision`): a
step for each relation that is named, referred to or a pivot, with distinct columns of it, all of its
keys among them. So when the joins get through, neither the condition nor the projection comes upon
a column that is missing, also where a key was fetched from another relation before.
-/

namespace ProfileQuery

open Plan (Fetches JoinStep Refers keyMap pivotRelations planJoins splitQualified)

/-- Steps that fetch the columns asked for, each once, from relations that a query needs. -/
structure Plan.Provision (s : Schema) (named asked : List String) (steps : List JoinStep) :
    Prop where
  relations_nodup : (steps.map (·.relation)).Nodup
  needed : ∃ included pivots, included.Nodup ∧
    (∀ relation, relation ∈ included ↔ relation ∈ named ∨ Refers asked relation) ∧
    pivotRelations included (keyMap s) = .ok pivots ∧
    ∀ step ∈ steps, step.relation ∈ included ∨ step.relation ∈ pivots
  columns_nodup : ∀ step ∈ steps, step.columns.Nodup
  columns : ∀ step ∈ steps, ∃ r, s.relation? step.relation = some r ∧
    step.columns ⊆ r.columns ∧ r.keys ⊆ step.columns
  fetches : ∀ name ∈ asked, ∃ relation column, splitQualified name = (some relation, column) ∧
    ∃ step ∈ steps, step.relation = relation ∧ column ∈ step.columns

theorem Plan.provision_of_planJoins {s : Schema} (dotless : s.Dotless)
    {projection conditionColumns named : List String} {steps : List JoinStep}
    (h : planJoins s projection conditionColumns named = .ok steps) :
    Provision s named (projection ++ conditionColumns) steps := by
  obtain ⟨draft, pivots, hcollected, hpivots, hperm, -⟩ := collected_of_planJoins h
  have planned := (planned_addKeys dotless hcollected (named_of_planJoins h).2 hpivots).perm hperm
  refine ⟨planned.tidy.relations_nodup, ⟨draft.relations, pivots,
    hcollected.relations_nodup, ?_, hpivots, ?_⟩, planned.tidy.columns_nodup, ?_, ?_⟩
  · intro relation
    rw [hcollected.mem_relations, refers_iff]
  · intro step hstep
    exact List.mem_append.mp (planned.relation hstep).1
  · intro step hstep
    exact (planned.relation hstep).2
  · intro name hname
    obtain ⟨relation, column, ⟨rfl, hc, -⟩, hfetched⟩ := planned.fetches_asked hname
    exact ⟨relation, column, splitQualified_qualified hc, hfetched⟩

/-- A condition on names that an index has does not fail for a missing column. -/
theorem Filter.compile_ne_undefinedColumn {ix : NameIndex} {c : Query.Condition}
    (hnames : ∀ name ∈ c.leafColumns, ∃ p, ix.find? name = some p) (name : String) :
    compile ix c ≠ .error (.undefinedColumn name) := by
  intro h
  obtain ⟨leaf, hleaf, hfault⟩ := exists_fault_of_compile h
  cases hfault with
  | column hcolumn =>
    obtain ⟨p, hp⟩ := hnames leaf.column (by
      rw [Query.Condition.leafColumns_eq]
      exact List.mem_map_of_mem hleaf)
    cases hcolumn.symm.trans hp

/-- The steps that are planned for the columns of a projection and of a condition fetch all of them,
each once, from the relations that are named, referred to or pivots. So after these steps were
carried out, in either mode, a condition on such columns never fails for a missing column, and what
it leaves can be shown. -/
theorem Database.planJoins_provides {s : Schema} (dotless : s.Dotless)
    {projection conditionColumns named : List String} {steps : List JoinStep}
    (h : planJoins s projection conditionColumns named = .ok steps) :
    Plan.Provision s named (projection ++ conditionColumns) steps ∧
      ∀ db : Database, db.schema = s → ∀ mode joined,
        db.joinSteps mode .empty steps = .ok joined → ∀ condition : Option Query.Condition,
          (∀ c, condition = some c → c.leafColumns ⊆ projection ++ conditionColumns) →
            (∀ name, filterRows joined condition ≠ .error (.undefinedColumn name)) ∧
            ∀ filtered, filterRows joined condition = .ok filtered →
              ∃ shown, filtered.project projection = .ok shown := by
  refine ⟨Plan.provision_of_planJoins dotless h, ?_⟩
  rintro db rfl mode joined hjoined condition hcondition
  obtain ⟨-, relations, planned⟩ := Plan.planned_of_planJoins dotless h
  obtain ⟨layout, hindexed⟩ := indexed_of_joinSteps dotless planned.runnable hjoined
  have hfetched : ∀ name ∈ projection ++ conditionColumns, ∃ relation column,
      name = Plan.qualified relation column ∧ Fetches steps relation column := by
    intro name hname
    obtain ⟨relation, column, hlocated, hf⟩ := planned.fetches_asked hname
    exact ⟨relation, column, hlocated.1, hf⟩
  have hprojection := fun name hname => hfetched name (List.mem_append_left _ hname)
  cases condition with
  | none =>
    refine ⟨fun name => nofun, fun filtered hfiltered => ?_⟩
    obtain rfl := Except.ok.inj hfiltered
    exact hindexed.exists_project hprojection rfl
  | some c =>
    have hpositions : ∀ name ∈ c.leafColumns, ∃ p, joined.index.find? name = some p := by
      intro name hname
      obtain ⟨relation, column, rfl, hf⟩ := hfetched name (hcondition c rfl hname)
      exact hindexed.exists_position hf
    constructor
    · intro name hfails
      cases hcompile : Filter.compile joined.index c with
      | error e =>
        simp only [filterRows, hcompile, Outcome.bind_error] at hfails
        obtain rfl := Except.error.inj hfails
        exact Filter.compile_ne_undefinedColumn hpositions name hcompile
      | ok test =>
        simp only [filterRows, hcompile, Outcome.bind_ok] at hfails
        cases hfails
    · intro filtered hfiltered
      obtain ⟨test, -, heq⟩ := Outcome.bind_eq_ok.mp hfiltered
      obtain rfl := Except.ok.inj heq
      exact hindexed.exists_project hprojection rfl

/-- A key that was fetched from another relation before can be compared and shown under the name of
either. -/
theorem Database.planJoins_provides_visits : ∃ joined,
    visits.joinSteps .left .empty [⟨"visit", ["id"]⟩, ⟨"person", ["id"]⟩] = .ok joined ∧
      (∀ name, filterRows joined (some (.comparison .equal "person.id" (.integer 2))) ≠
        .error (.undefinedColumn name)) ∧
      ∀ filtered,
        filterRows joined (some (.comparison .equal "person.id" (.integer 2))) = .ok filtered →
          ∃ shown, filtered.project ["visit.id"] = .ok shown := by
  have hplan : planJoins visits.schema ["visit.id"] ["person.id"] [] =
      .ok [⟨"visit", ["id"]⟩, ⟨"person", ["id"]⟩] := by cbv
  obtain ⟨joined, hjoined⟩ := Outcome.exists_of_isOk (show (visits.joinSteps .left .empty
    [⟨"visit", ["id"]⟩, ⟨"person", ["id"]⟩]).isOk = true by cbv)
  refine ⟨joined, hjoined, ?_⟩
  apply (planJoins_provides (by decide) hplan).2 visits rfl .left joined hjoined
  intro c hc
  obtain rfl := Option.some.inj hc
  simp [Query.Condition.leafColumns]

end ProfileQuery
