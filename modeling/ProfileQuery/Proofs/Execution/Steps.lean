import ProfileQuery.Execution
import ProfileQuery.Proofs.Execution.Layout
import ProfileQuery.Proofs.Plan.Linked

/-!
# Running the steps of a plan

One join succeeds exactly when the step is linked to those before it: it is the first, or it fetches
a key of its own relation under a name that was fetched before. So a run of readable steps gets
through exactly when all of them are linked, and else it stops at the first that is not. What single
joins preserve holds after a run.
-/

namespace ProfileQuery

open Plan (Dotless JoinStep Linked Planned firstUnlinked?)

/-- Steps for distinct stored relations, each of which fetches known columns once. -/
structure Runnable (db : Database) (steps : List JoinStep) : Prop where
  relations_nodup : (steps.map (·.relation)).Nodup
  columns_nodup : ∀ step ∈ steps, step.columns.Nodup
  known : ∀ step ∈ steps, ∃ t, db.table? step.relation = some t ∧
    step.columns ⊆ t.relation.columns

/-- The relation of a step was not joined before. -/
theorem Runnable.fresh {db : Database} {done rest : List JoinStep} {step : JoinStep}
    (h : Runnable db (done ++ step :: rest)) : step.relation ∉ done.map (·.relation) := by
  have hnodup := h.relations_nodup
  rw [List.map_append, List.nodup_append] at hnodup
  exact fun hmem => hnodup.2.2 _ hmem _ (by simp) rfl

theorem Runnable.left {db : Database} {done rest : List JoinStep} (h : Runnable db (done ++ rest)) :
    Runnable db done := by
  refine ⟨?_, fun step hstep => h.columns_nodup step (List.mem_append_left _ hstep),
    fun step hstep => h.known step (List.mem_append_left _ hstep)⟩
  have hnodup := h.relations_nodup
  rw [List.map_append, List.nodup_append] at hnodup
  exact hnodup.1

variable {db : Database} {done steps : List JoinStep} {step : JoinStep} {s s' : Selection}
  {layout : List (String × String)} {t : Table} {mode : JoinMode}

theorem Plan.Planned.runnable {asked joined : List String}
    (h : Planned db.schema asked joined steps) : Runnable db steps := by
  refine ⟨h.tidy.relations_nodup, h.tidy.columns_nodup, fun step hstep => ?_⟩
  obtain ⟨-, r, hr, hcolumns, -⟩ := h.relation hstep
  rw [Database.relation?_schema] at hr
  obtain ⟨t, ht, rfl⟩ := Option.map_eq_some_iff.mp hr
  exact ⟨t, ht, hcolumns⟩

theorem Schema.Dotless.table (dotless : db.schema.Dotless) {relation : String}
    (ht : db.table? relation = some t) : ∀ c ∈ t.relation.columns, Plan.Dotless c :=
  dotless t.relation (List.mem_map_of_mem (Database.mem_of_table? ht))

namespace Selection

/-- The rows after a join: those of the relation for the first one, extended rows later. -/
def stepRows (s : Selection) (t : Table) (columns : List String) (mode : JoinMode) : List Row :=
  if s.hasJoins then s.joinedRows t columns mode else t.rows.toList.map (t.cells columns)

end Selection

namespace Indexed

theorem hasJoins_eq (h : Indexed db done layout s) : s.hasJoins = !done.isEmpty := by
  rw [Selection.hasJoins, h.joined]
  cases done <;> simp

theorem isJoined_eq_false (h : Indexed db done layout s) {relation : String}
    (hnew : relation ∉ done.map (·.relation)) : s.isJoined relation = false := by
  rw [Selection.isJoined, h.joined]
  simpa using hnew

/-- A step joins exactly when it is linked; otherwise there is nothing to match it on. -/
theorem join_eq (h : Indexed db done layout s) (ht : db.table? step.relation = some t)
    (hc : step.columns ⊆ t.relation.columns) (hdot : ∀ c ∈ t.relation.columns, Dotless c)
    (hnew : step.relation ∉ done.map (·.relation)) :
    s.join db step.relation step.columns mode =
      if Linked db.schema done step then
        .ok (s.mergeTable t step.columns (s.stepRows t step.columns mode))
      else .error (.noSharedKeys step.relation) := by
  have hname := Database.name_of_table? ht
  have hdotColumns : ∀ c ∈ step.columns, Dotless c := fun c hmem => hdot c (hc hmem)
  -- linked after some step means that there are columns to match on
  have hlinked : Linked db.schema done step ↔
      done = [] ∨ s.onColumns t.relation step.columns ≠ [] := by
    apply or_congr_right
    rw [Schema.keys_of_table? ht]
    constructor
    · rintro ⟨key, hkey⟩
      exact List.ne_nil_of_mem ((h.mem_onColumns hdotColumns).mpr hkey)
    · intro hne
      obtain ⟨key, hkey⟩ := List.exists_mem_of_ne_nil _ hne
      exact ⟨key, (h.mem_onColumns hdotColumns).mp hkey⟩
  have hjoined := h.isJoined_eq_false hnew
  cases done with
  | nil =>
    have hon : s.onColumns t.relation step.columns = [] := by
      refine List.eq_nil_iff_forall_not_mem.mpr fun c hmem => ?_
      obtain ⟨-, -, earlier, hearlier, -⟩ := (h.mem_onColumns hdotColumns).mp hmem
      cases hearlier
    have hadded : s.addedColumns t.relation step.columns = step.columns := by
      rw [Selection.addedColumns, hon]
      simp
    rw [if_pos (.inl rfl), Selection.join_first ht hc hjoined h.hasJoins_eq, Selection.mergeTable,
      hon, hadded, hname, Selection.stepRows, h.hasJoins_eq]
    rfl
  | cons first done =>
    by_cases hon : s.onColumns t.relation step.columns = []
    · have hunlinked : ¬ Linked db.schema (first :: done) step := fun hl =>
        (hlinked.mp hl).elim (List.cons_ne_nil _ _) (· hon)
      rw [if_neg hunlinked]
      exact Selection.join_noSharedKeys ht hc hjoined h.hasJoins_eq hon
    · rw [if_pos (hlinked.mpr (.inr hon)), Selection.join_next ht hc hjoined h.hasJoins_eq hon,
        Selection.mergeTable, hname, Selection.stepRows, h.hasJoins_eq]
      rfl

end Indexed

/-! ## Runs -/

namespace Database

theorem joinSteps_cons :
    db.joinSteps mode s (step :: steps) =
      (s.join db step.relation step.columns mode >>= fun s' => db.joinSteps mode s' steps) := rfl

/-- What is left of a selection is its rows that pass a test. -/
theorem of_filterRows_eq_ok {condition : Option Query.Condition}
    (h : filterRows s condition = .ok s') : ∃ keep, s' = s.filter keep := by
  cases condition with
  | none =>
    obtain rfl := Except.ok.inj h
    exact ⟨fun _ => true, by rw [Selection.filter, List.filter_true]⟩
  | some c =>
    obtain ⟨test, -, heq⟩ := Outcome.bind_eq_ok.mp h
    exact ⟨test, (Except.ok.inj heq).symm⟩

/-- A plan is carried out by its joins, its condition and its projection. -/
theorem of_runPlan_eq_ok {plan : Plan.SelectPlan} (h : db.runPlan plan mode = .ok s') :
    ∃ joined filtered positions, db.joinSteps mode .empty plan.joins = .ok joined ∧
      filterRows joined plan.condition = .ok filtered ∧
      filtered.positions plan.projection = .ok positions ∧
      s' = { filtered with shown := some ⟨plan.projection, positions⟩ } := by
  obtain ⟨joined, hjoins, hrest⟩ := Outcome.bind_eq_ok.mp h
  obtain ⟨filtered, hfilter, hproject⟩ := Outcome.bind_eq_ok.mp hrest
  obtain ⟨positions, hpositions, rfl⟩ := Selection.project_eq_ok.mp hproject
  exact ⟨joined, filtered, positions, hjoins, hfilter, hpositions, rfl⟩

/-- What holds of the empty selection and is preserved by every join holds after a run. -/
theorem of_joinSteps (dotless : db.schema.Dotless) (runnable : Runnable db steps)
    {P : List JoinStep → List (String × String) → Selection → Prop} (start : P [] [] .empty)
    (next : ∀ done layout s step t, P done layout s → Indexed db done layout s →
      Runnable db (done ++ [step]) → db.table? step.relation = some t →
      step.columns ⊆ t.relation.columns → Linked db.schema done step →
      P (done ++ [step])
        (layout ++ (s.addedColumns t.relation step.columns).map (step.relation, ·))
        (s.mergeTable t step.columns (s.stepRows t step.columns mode)))
    (h : db.joinSteps mode .empty steps = .ok s') :
    ∃ layout, Indexed db steps layout s' ∧ P steps layout s' := by
  -- on the steps that are left, for any steps that were carried out before
  suffices general : ∀ rest done layout s, Indexed db done layout s → P done layout s →
      Runnable db (done ++ rest) → db.joinSteps mode s rest = .ok s' →
      ∃ layout, Indexed db (done ++ rest) layout s' ∧ P (done ++ rest) layout s' from
    general steps [] [] .empty (.empty db) start runnable h
  intro rest
  induction rest with
  | nil =>
    intro done layout s hindexed hP _ h
    obtain rfl : s = s' := Except.ok.inj h
    rw [List.append_nil]
    exact ⟨layout, hindexed, hP⟩
  | cons step rest ih =>
    intro done layout s hindexed hP runnable h
    obtain ⟨t, ht, hc⟩ := runnable.known step (by simp)
    have hnew := runnable.fresh
    have hdot := dotless.table ht
    rw [joinSteps_cons, hindexed.join_eq ht hc hdot hnew] at h
    split at h
    · next hlinked =>
      have hindexed' := hindexed.mergeTable hc hdot (s.stepRows t step.columns mode) ht
        (runnable.columns_nodup step (by simp)) hnew
      have happend : done ++ step :: rest = done ++ [step] ++ rest := by simp
      rw [happend] at runnable ⊢
      exact ih _ _ _ hindexed'
        (next done layout s step t hP hindexed runnable.left ht hc hlinked) runnable h
    · cases h

/-- After a run the columns that the steps fetched are indexed. -/
theorem indexed_of_joinSteps (dotless : db.schema.Dotless) (runnable : Runnable db steps)
    (h : db.joinSteps mode .empty steps = .ok s') : ∃ layout, Indexed db steps layout s' := by
  obtain ⟨layout, hindexed, -⟩ := of_joinSteps dotless runnable (P := fun _ _ _ => True) trivial
    (fun _ _ _ _ _ _ _ _ _ _ _ => trivial) h
  exact ⟨layout, hindexed⟩

/-- A run gets through exactly when every step is linked; the first that is not stops it. -/
theorem joinSteps_outcome (dotless : db.schema.Dotless) (runnable : Runnable db steps)
    (mode : JoinMode) :
    match firstUnlinked? db.schema [] steps with
    | none => ∃ s', db.joinSteps mode .empty steps = .ok s'
    | some step => db.joinSteps mode .empty steps = .error (.noSharedKeys step.relation) := by
  -- on the steps that are left, as above
  suffices general : ∀ rest done layout s, Indexed db done layout s → Runnable db (done ++ rest) →
      match firstUnlinked? db.schema done rest with
      | none => ∃ s', db.joinSteps mode s rest = .ok s'
      | some step => db.joinSteps mode s rest = .error (.noSharedKeys step.relation) from
    general steps [] [] .empty (.empty db) runnable
  intro rest
  induction rest with
  | nil => exact fun _ _ s _ _ => ⟨s, rfl⟩
  | cons step rest ih =>
    intro done layout s hindexed runnable
    obtain ⟨t, ht, hc⟩ := runnable.known step (by simp)
    have hnew := runnable.fresh
    have hdot := dotless.table ht
    rw [joinSteps_cons, hindexed.join_eq ht hc hdot hnew, firstUnlinked?]
    by_cases hlinked : Linked db.schema done step
    · have hindexed' := hindexed.mergeTable hc hdot (s.stepRows t step.columns mode) ht
        (runnable.columns_nodup step (by simp)) hnew
      rw [if_pos hlinked, if_pos hlinked, Outcome.bind_ok]
      exact ih _ _ _ hindexed' (by simpa using runnable)
    · rw [if_neg hlinked, if_neg hlinked]
      rfl

end Database

end ProfileQuery
