import Mathlib
import ProfileQuery.Proofs.Execution.Steps
import ProfileQuery.Proofs.Selection.Filter

/-!
# Plans that can be carried out

An order of joins is found by looking for any fetched column with the name of a key joined before,
but a relation is joined on its own keys only. Both come to the same where no plain column is fetched
under the name of a key (`Clear`); then every plan can be carried out. In general the joins get
through exactly when each relation is linked by a key of its own, and the rest of the plan fails only
for patterns that cannot be read.
-/

namespace ProfileQuery

open Plan (Chained Dotless Fetches JoinStep Linked Located Planned SelectPlan firstUnlinked?
  keyMap qualified)

variable {db : Database} {steps : List JoinStep} {s s' : Selection}
  {layout : List (String × String)} {mode : JoinMode}

/-- A qualified name of a fetched column has a position. -/
theorem Indexed.exists_position (h : Indexed db steps layout s) {relation column : String}
    (hf : Fetches steps relation column) :
    ∃ p, s.indexOf? (qualified relation column) = some p := by
  obtain ⟨step, hstep, rfl, hcolumn⟩ := hf
  obtain ⟨before, after, hsplit⟩ := List.append_of_mem hstep
  obtain ⟨p, hp, -⟩ := h.own before step after hsplit column hcolumn
  exact ⟨p, hp⟩

/-! ## The condition -/

/-- The pattern of every pattern comparison can be read. -/
def Query.Condition.Readable (c : Query.Condition) : Prop :=
  ∀ leaf ∈ c.leaves, leaf.op.isPattern = true →
    ∃ p, Filter.literalPattern leaf.op leaf.literal = .ok p

/-- A condition on known names compiles exactly when its patterns can be read. -/
theorem Filter.exists_compile_iff_readable {ix : NameIndex} {c : Query.Condition}
    (hnames : ∀ name ∈ c.leafColumns, ∃ p, ix.find? name = some p) :
    (∃ test, compile ix c = .ok test) ↔ c.Readable := by
  rw [exists_compile_iff]
  refine forall₂_congr fun leaf hleaf => ?_
  have hcolumn := hnames leaf.column (by
    rw [Query.Condition.leafColumns_eq]
    exact List.mem_map_of_mem hleaf)
  rw [performable_iff, and_iff_right hcolumn, readable_iff]

/-! ## The whole plan -/

/-- Fetched columns can be shown, also after a filter, which leaves the index as it is. -/
theorem Indexed.exists_project (h : Indexed db steps layout s) {names : List String}
    (hnames : ∀ name ∈ names, ∃ relation column,
      name = qualified relation column ∧ Fetches steps relation column)
    {filtered : Selection} (hindex : filtered.index = s.index) :
    ∃ s', filtered.project names = .ok s' := by
  have hpositions : filtered.positions names =
      .ok (names.map fun name => (s.index.find? name).getD 0) := by
    refine Outcome.mapM_ok_of_forall fun name hname => ?_
    obtain ⟨relation, column, rfl, hf⟩ := hnames name hname
    obtain ⟨p, hp⟩ := h.exists_position hf
    rw [Selection.indexOf?] at hp
    simp [Selection.indexOf?, hindex, hp]
  exact ⟨_, by rw [Selection.project, hpositions]; rfl⟩

/-- What the joins of a plan leave can be filtered and shown, as far as patterns can be read. -/
theorem Indexed.exists_rest_iff (h : Indexed db steps layout s) {plan : SelectPlan}
    (hnames : ∀ name ∈ plan.names, ∃ relation column,
      name = qualified relation column ∧ Fetches steps relation column) :
    (∃ s', (do let filtered ← Database.filterRows s plan.condition
               filtered.project plan.projection) = .ok s') ↔
      ∀ c, plan.condition = some c → c.Readable := by
  have positioned : ∀ name ∈ plan.names, ∃ p, s.index.find? name = some p := by
    intro name hname
    obtain ⟨relation, column, rfl, hf⟩ := hnames name hname
    exact h.exists_position hf
  have projects : ∀ filtered : Selection, filtered.index = s.index →
      ∃ s', filtered.project plan.projection = .ok s' := fun _ =>
    h.exists_project fun name hname => hnames name (List.mem_append_left _ hname)
  cases hcondition : plan.condition with
  | none =>
    obtain ⟨s', hs'⟩ := projects s rfl
    simpa using ⟨s', hs'⟩
  | some c =>
    have hcompile : (∃ test, Filter.compile s.index c = .ok test) ↔ c.Readable :=
      Filter.exists_compile_iff_readable fun name hname =>
        positioned name (by simp [SelectPlan.names, hcondition, hname])
    constructor
    · rintro ⟨s', hs'⟩ c' hc'
      obtain rfl := Option.some.inj hc'
      obtain ⟨filtered, hfilter, -⟩ := Outcome.bind_eq_ok.mp hs'
      obtain ⟨test, htest, -⟩ := Outcome.bind_eq_ok.mp hfilter
      exact hcompile.mp ⟨test, htest⟩
    · intro hreadable
      obtain ⟨test, htest⟩ := hcompile.mpr (hreadable c rfl)
      obtain ⟨s', hs'⟩ := projects (s.filter test) rfl
      exact ⟨s', by rw [Database.filterRows, htest]; exact hs'⟩

/-- A plan is carried out exactly when its relations are linked and its patterns can be read. -/
theorem Database.exists_runPlan_iff (dotless : db.schema.Dotless) {plan : SelectPlan}
    {joined : List String} (planned : Planned db.schema plan.names joined plan.joins)
    (mode : JoinMode) :
    (∃ s, db.runPlan plan mode = .ok s) ↔
      firstUnlinked? db.schema [] plan.joins = none ∧
        ∀ c, plan.condition = some c → c.Readable := by
  have houtcome := Database.joinSteps_outcome dotless planned.runnable mode
  unfold runPlan
  cases hfirst : firstUnlinked? db.schema [] plan.joins with
  | some step =>
    rw [hfirst] at houtcome
    simp [houtcome, Outcome.bind_error]
  | none =>
    rw [hfirst] at houtcome
    obtain ⟨rows, hrows⟩ := houtcome
    obtain ⟨layout, hindexed⟩ := Database.indexed_of_joinSteps dotless planned.runnable hrows
    simp only [hrows, Outcome.bind_ok, true_and]
    exact hindexed.exists_rest_iff planned.exists_fetches

/-! ## Accepted plans -/

/-- The joins of an accepted plan, carried out in the order that was planned: they get through where
every relation after the first has a key of its own that was fetched before, and stop with the first
that has not. They all get through when no plain column is fetched under the name of a key. -/
theorem Database.joinSteps_ofSelect (dotless : db.schema.Dotless) {q : Query.Select}
    {plan : SelectPlan} (hplan : Plan.ofSelect q db.schema = .ok plan) (mode : JoinMode) :
    ((∃ s, db.joinSteps mode .empty plan.joins = .ok s) ↔
      ∀ before step after, plan.joins = before ++ step :: after → Linked db.schema before step) ∧
    (∀ e, db.joinSteps mode .empty plan.joins = .error e →
      ∃ step ∈ firstUnlinked? db.schema [] plan.joins, e = .noSharedKeys step.relation) ∧
    (Plan.Clear db.schema plan.joins → ∃ s, db.joinSteps mode .empty plan.joins = .ok s) := by
  obtain ⟨hchained, joined, planned⟩ := Plan.planned_of_ofSelect dotless hplan
  have houtcome := Database.joinSteps_outcome dotless planned.runnable mode
  have hlinked : firstUnlinked? db.schema [] plan.joins = none ↔
      ∀ before step after, plan.joins = before ++ step :: after → Linked db.schema before step :=
    Plan.firstUnlinked?_eq_none
  rw [← hlinked]
  cases hfirst : firstUnlinked? db.schema [] plan.joins with
  | some step =>
    rw [hfirst] at houtcome
    refine ⟨by simp [houtcome], fun e he => ⟨step, rfl, ?_⟩, fun hclear => ?_⟩
    · exact (Except.error.inj (houtcome.symm.trans he)).symm
    · rw [planned.firstUnlinked?_eq_none hchained hclear] at hfirst
      cases hfirst
  | none =>
    rw [hfirst] at houtcome
    obtain ⟨s, hs⟩ := houtcome
    refine ⟨by simp [hs], fun e he => ?_, fun _ => ⟨s, hs⟩⟩
    rw [hs] at he
    cases he

/-- Relations of which the second has a plain column with the name of a key of the first. -/
def Schema.crossed : Schema where
  relations := [
    ⟨"r1", [⟨"a", .integer, true, false, none⟩], by decide⟩,
    ⟨"r2", [⟨"a", .integer, false, false, none⟩, ⟨"b", .integer, true, false, none⟩], by decide⟩,
    ⟨"r3", [⟨"a", .integer, true, false, none⟩, ⟨"b", .integer, true, false, none⟩], by decide⟩]
  relations_nodup := by decide

/-- Without the plain column the relations are linked. -/
theorem Database.joinSteps_ofSelect_crossed :
    ∃ s, (ofSchema .crossed).joinSteps .left .empty
      [⟨"r1", ["a"]⟩, ⟨"r3", ["b", "a"]⟩, ⟨"r2", ["b"]⟩] = .ok s := by
  have hplan : Plan.ofSelect ⟨.columns ["r1.a", "r3.b"], ["r2"], none⟩ (ofSchema .crossed).schema =
      .ok ⟨["r1.a", "r3.b"], [⟨"r1", ["a"]⟩, ⟨"r3", ["b", "a"]⟩, ⟨"r2", ["b"]⟩], none⟩ := by cbv
  exact (joinSteps_ofSelect (by decide) hplan .left).2.2 (by decide)

/-- With it a plan is accepted that joins the second relation behind the first, which has no key in
common with it. -/
theorem Database.joinSteps_crossed :
    Schema.crossed.Dotless ∧
      Plan.ofSelect ⟨.columns ["r1.a", "r2.a"], ["r1", "r2", "r3"], none⟩ .crossed =
        .ok ⟨["r1.a", "r2.a"], [⟨"r1", ["a"]⟩, ⟨"r2", ["a", "b"]⟩, ⟨"r3", ["a", "b"]⟩], none⟩ ∧
      ∀ mode, (ofSchema .crossed).joinSteps mode .empty
        [⟨"r1", ["a"]⟩, ⟨"r2", ["a", "b"]⟩, ⟨"r3", ["a", "b"]⟩] = .error (.noSharedKeys "r2") := by
  refine ⟨by decide, by cbv, fun mode => ?_⟩
  cases mode <;> cbv

end ProfileQuery
