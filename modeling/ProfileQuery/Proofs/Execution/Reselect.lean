import ProfileQuery.Proofs.Execution.Runs
import ProfileQuery.Proofs.Plan.Preference

/-!
# Selecting again by the names of a query

A bare name has two meanings. In a query it is resolved by the schema, and relations that the query
names come first; in the selection that answers the query it stands for the first column of that
name that was fetched. So a bare name that is selected again can show the column of another
relation. It shows what the query showed exactly when it suffices (`Plan.BareSuffices`): when it was
resolved to a key, or no join before that of its relation fetches a column of that name. Qualified
names always show the same.
-/

namespace ProfileQuery

open Plan (Dotless Fetches JoinStep qualified resolve)

namespace Plan

variable {s : Schema} {steps : List JoinStep} {relation column name resolved : String}
  {named : List String}

/-- Whether the bare name of a column is enough to find that of its relation after some steps: it is
a key of the relation, or the relation is the first of which a column with the name is fetched. -/
def BareSuffices (s : Schema) (steps : List JoinStep) (relation column : String) : Prop :=
  column ∈ s.keys relation ∨
    (steps.find? (column ∈ ·.columns)).map (·.relation) = some relation

instance : Decidable (BareSuffices s steps relation column) :=
  inferInstanceAs (Decidable (_ ∨ _))

/-- Whether the bare ones among the names of a query suffice after some steps. -/
def Unambiguous (s : Schema) (names named : List String) (steps : List JoinStep) : Prop :=
  ∀ name ∈ names, Dotless name → ∀ relation ∈ (candidates s named name).head?,
    BareSuffices s steps relation name

instance {names : List String} : Decidable (Unambiguous s names named steps) :=
  inferInstanceAs (Decidable (∀ name ∈ names, Dotless name →
    ∀ relation ∈ (candidates s named name).head?, BareSuffices s steps relation name))

/-- A name is resolved to itself, or it is bare and resolved to that of its first candidate. -/
theorem of_resolve_eq_ok (h : resolve s named name = .ok resolved) :
    (¬ Dotless name ∧ resolved = name) ∨
      Dotless name ∧ ∃ relation, (candidates s named name).head? = some relation ∧
        resolved = qualified relation name := by
  by_cases hdot : Dotless name
  · rw [resolve_of_dotless hdot] at h
    cases hhead : (candidates s named name).head? with
    | none =>
      rw [hhead] at h
      cases h
    | some relation =>
      rw [hhead] at h
      exact .inr ⟨hdot, relation, rfl, (Except.ok.inj h).symm⟩
  · rw [resolve_of_not_dotless hdot] at h
    exact .inl ⟨hdot, (Except.ok.inj h).symm⟩

end Plan

/-! ## Where the names of a run stand -/

/-- What holds of the names after the steps `done`: each column that was fetched stands at one
position only. -/
structure Placed (db : Database) (done : List JoinStep) (layout : List (String × String))
    (s : Selection) : Prop where
  layout_nodup : layout.Nodup
  labelled : Labelled db (fun relation columns => ⟨relation, columns⟩ ∈ done) s

variable {db : Database} {done steps : List JoinStep} {layout : List (String × String)}
  {s s' : Selection} {mode : JoinMode}

namespace Placed

theorem empty (db : Database) : Placed db [] [] .empty where
  layout_nodup := .nil
  labelled := .empty db fun _ _ h => by cases h

/-- Joining one more relation keeps what was placed and places the columns that it adds. -/
theorem mergeTable {step : JoinStep} {t : Table} (h : Placed db done layout s)
    (hindexed : Indexed db done layout s) (runnable : Runnable db (done ++ [step]))
    (ht : db.table? step.relation = some t) (hc : step.columns ⊆ t.relation.columns)
    (hdot : ∀ c ∈ t.relation.columns, Dotless c) (data : List Row) :
    Placed db (done ++ [step])
      (layout ++ (s.addedColumns t.relation step.columns).map (step.relation, ·))
      (s.mergeTable t step.columns data) where
  layout_nodup := by
    have hadded : (s.addedColumns t.relation step.columns).Nodup :=
      (runnable.columns_nodup step (by simp)).filter _
    refine h.layout_nodup.append (hadded.map fun _ _ heq => (Prod.mk.inj heq).2) ?_
    -- the relation of the step was not joined before
    rintro source hold hnew
    obtain ⟨c, -, rfl⟩ := List.mem_map.mp hnew
    obtain ⟨earlier, hearlier, hrelation, -⟩ := hindexed.fetched _ hold
    exact runnable.fresh (List.mem_map.mpr ⟨earlier, hearlier, hrelation⟩)
  labelled := by
    have hname := Database.name_of_table? ht
    have hkeys : db.schema.keys t.relation.name = t.relation.keys := by
      rw [hname, Schema.keys_of_table? ht]
    have hnew : s.isJoined t.relation.name = false := by
      rw [hname]
      exact hindexed.isJoined_eq_false runnable.fresh
    refine (h.labelled.merge hc hdot (runnable.columns_nodup step (by simp)) hkeys hnew data).congr
      (fun relation columns => ?_) rfl rfl rfl
    rw [List.mem_append, List.mem_singleton, hname]
    exact or_congr_right (by cases step; simp)

end Placed

theorem Database.placed_of_joinSteps (dotless : db.schema.Dotless) (runnable : Runnable db steps)
    (h : db.joinSteps mode .empty steps = .ok s) :
    ∃ layout, Indexed db steps layout s ∧ Placed db steps layout s :=
  of_joinSteps dotless runnable (.empty db)
    (fun _ _ _ _ _ hplaced hindexed runnable ht hc _ =>
      hplaced.mergeTable hindexed runnable ht hc (dotless.table ht) _) h

/-- The bare name of a column that was fetched is known, and it has the position of the qualified
name exactly when it suffices. -/
theorem Placed.indexOf?_eq_iff (h : Placed db steps layout s) (hindexed : Indexed db steps layout s)
    {relation column : String} (hfetches : Fetches steps relation column) :
    ∃ p q, s.indexOf? column = some p ∧ s.indexOf? (qualified relation column) = some q ∧
      (p = q ↔ Plan.BareSuffices db.schema steps relation column) := by
  obtain ⟨step, hstep, rfl, hcolumn⟩ := hfetches
  have hdot := hindexed.dotless step hstep column hcolumn
  obtain ⟨first, hfirst⟩ := Option.isSome_iff_exists.mp
    (by simpa using ⟨step, hstep, hcolumn⟩ : (steps.find? (column ∈ ·.columns)).isSome = true)
  obtain ⟨p, hp, hlayoutp⟩ := hindexed.bare_some column first hdot hfirst
  obtain ⟨q, -, hq, -, -, hshared⟩ := h.labelled.own step.relation step.columns hstep column hcolumn
  refine ⟨p, q, hp, hq, ?_⟩
  rw [Plan.BareSuffices, hfirst, Option.map_some, Option.some.injEq]
  by_cases hkey : column ∈ db.schema.keys step.relation
  · have heq : p = q := Option.some.inj (hp.symm.trans (hshared hkey))
    exact iff_of_true heq (.inl hkey)
  · -- a column that is no key has a position of its own
    obtain ⟨before, after, hsteps⟩ := List.append_of_mem hstep
    obtain ⟨q', hq', hlayout⟩ := hindexed.own before step after hsteps column hcolumn
    obtain rfl := Option.some.inj (hq.symm.trans hq')
    have hlayoutq := hlayout.resolve_right fun hshares => hkey hshares.1
    rw [or_iff_right hkey]
    constructor
    · rintro rfl
      exact (Prod.mk.inj (Option.some.inj (hlayoutp.symm.trans hlayoutq))).1
    · intro hrelation
      rw [hrelation] at hlayoutp
      obtain ⟨hltp, hgetp⟩ := List.getElem?_eq_some_iff.mp hlayoutp
      obtain ⟨hltq, hgetq⟩ := List.getElem?_eq_some_iff.mp hlayoutq
      exact (h.layout_nodup.getElem_inj_iff).mp (hgetp.trans hgetq.symm)

/-! ## Names of a query -/

namespace Selection

/-- Names that are known have the positions of others that are known exactly when each has. -/
theorem positions_eq_iff {names others : List String} {same : String → Prop}
    (h : List.Forall₂ (fun name other => ∃ p q, s.indexOf? name = some p ∧
      s.indexOf? other = some q ∧ (p = q ↔ same name)) names others) :
    ∃ ps qs, s.positions names = .ok ps ∧ s.positions others = .ok qs ∧
      (ps = qs ↔ ∀ name ∈ names, same name) := by
  simp only [positions_eq_ok]
  induction h with
  | nil => exact ⟨[], [], .nil, .nil, by simp⟩
  | cons hfirst _ ih =>
    obtain ⟨p, q, hp, hq, hsame⟩ := hfirst
    obtain ⟨ps, qs, hps, hqs, hrest⟩ := ih
    refine ⟨p :: ps, q :: qs, .cons hp hps, .cons hq hqs, ?_⟩
    rw [List.cons_eq_cons, hsame, hrest, List.forall_mem_cons]

end Selection

/-- After the joins of a plan the names of the query are known, and each has the position of the
name that it was resolved to exactly when it is qualified or suffices. -/
theorem Placed.positions_names (h : Placed db steps layout s) (hindexed : Indexed db steps layout s)
    {names relations projection asked joined : List String}
    (hprojection : names.mapM (resolve db.schema relations) = .ok projection)
    (planned : Plan.Planned db.schema asked joined steps) (hasked : projection ⊆ asked) :
    ∃ ps qs, s.positions names = .ok ps ∧ s.positions projection = .ok qs ∧
      (ps = qs ↔ Plan.Unambiguous db.schema names relations steps) := by
  have hfetched : ∀ resolved ∈ projection, ∃ relation column,
      resolved = qualified relation column ∧ Dotless column ∧ Fetches steps relation column := by
    intro resolved hmem
    obtain ⟨relation, column, hlocated, hfetches⟩ := planned.fetches_asked (hasked hmem)
    exact ⟨relation, column, hlocated.1, hlocated.2.1, hfetches⟩
  have hnames := ((List.forall₂_and_left _ _).mpr
    ⟨hfetched, (Outcome.mapM_eq_ok.mp hprojection).flip⟩).flip
  refine Selection.positions_eq_iff (hnames.imp fun name resolved hname => ?_)
  obtain ⟨⟨relation, column, rfl, hdot, hfetches⟩, hresolve⟩ := hname
  obtain ⟨p, q, hp, hq, hiff⟩ := h.indexOf?_eq_iff hindexed hfetches
  rcases Plan.of_resolve_eq_ok hresolve with ⟨hbare, rfl⟩ | ⟨hbare, other, hhead, hother⟩
  · exact ⟨q, q, hq, hq, iff_of_true rfl fun hbare' => absurd hbare' hbare⟩
  · obtain ⟨rfl, rfl⟩ := (Plan.qualified_inj hdot hbare).mp hother
    refine ⟨p, q, hp, hq, hiff.trans ?_⟩
    simp [hbare, hhead]

/-! ## Answers -/

namespace Database

/-- The names of a query that was answered are known to the answer. Selecting them again shows the
positions that the answer shows exactly when the bare ones suffice; then the rows are the same. -/
theorem select_execute (dotless : db.schema.Dotless) {names relations : List String}
    {condition : Option Query.Condition} (hne : names ≠ [])
    (h : db.execute ⟨.columns names, relations, condition⟩ mode = .ok s) :
    ∃ plan positions, Plan.ofSelect ⟨.columns names, relations, condition⟩ db.schema = .ok plan ∧
      s.positions names = .ok positions ∧
      s.select names = .ok (s.data.map (Row.select positions)) ∧
      (positions = s.shownPositions ↔
        Plan.Unambiguous db.schema names relations plan.joins) ∧
      (Plan.Unambiguous db.schema names relations plan.joins → s.select names = .ok s.rows) := by
  obtain ⟨plan, hplan, hrun⟩ := Outcome.bind_eq_ok.mp h
  obtain ⟨-, _, planned⟩ := Plan.planned_of_ofSelect dotless hplan
  obtain ⟨hprojection, -⟩ := Plan.ofSelect_eq_ok.mp hplan
  obtain ⟨joined, filtered, shown, hjoins, hfilter, hshown, rfl⟩ := of_runPlan_eq_ok hrun
  obtain ⟨layout, hindexed, hplaced⟩ := placed_of_joinSteps dotless planned.runnable hjoins
  obtain ⟨ps, qs, hps, hqs, hiff⟩ :=
    hplaced.positions_names hindexed hprojection planned (List.subset_append_left _ _)
  -- filtering and projecting leave the names where they are
  obtain ⟨keep, rfl⟩ := of_filterRows_eq_ok hfilter
  have hindex : (joined.filter keep).index = joined.index := rfl
  rw [Selection.positions_congr hindex] at hshown
  obtain rfl : qs = shown := Except.ok.inj (hqs.symm.trans hshown)
  set answer : Selection := { joined.filter keep with shown := some ⟨plan.projection, qs⟩ }
  have hpositions : answer.positions names = .ok ps :=
    (Selection.positions_congr hindex names).trans hps
  have hselect := Selection.select_eq_ok hne hpositions
  refine ⟨plan, ps, hplan, hpositions, hselect, hiff, fun hall => ?_⟩
  rw [hselect, hiff.mpr hall]
  rfl

/-- People and the cities they live in; both have names. -/
def namesakes : Database where
  tables := [
    ⟨⟨"person", [⟨"zip", .integer, true, false, none⟩, ⟨"name", .string, false, false, none⟩],
        by decide⟩, #[[.integer 1, .text "Ada"]], by decide⟩,
    ⟨⟨"city", [⟨"zip", .integer, true, false, none⟩, ⟨"name", .string, false, false, none⟩],
        by decide⟩, #[[.integer 1, .text "Oslo"]], by decide⟩]
  tables_nodup := by decide

theorem select_execute_namesakes : namesakes.schema.Dotless ∧ ["zip", "name", "city.name"] ≠ [] ∧
    ∃ s, namesakes.execute ⟨.columns ["zip", "name", "city.name"], [], none⟩ .inner = .ok s ∧
      s.select ["zip", "name", "city.name"] = .ok s.rows := by
  have dotless : namesakes.schema.Dotless := by decide
  have hne : ["zip", "name", "city.name"] ≠ [] := by simp
  obtain ⟨s, hs⟩ := Outcome.exists_of_isOk (show (namesakes.execute
    ⟨.columns ["zip", "name", "city.name"], [], none⟩ .inner).isOk = true by cbv)
  obtain ⟨plan, -, hplan, -, -, -, hrows⟩ := select_execute dotless hne hs
  have hplan' : Plan.ofSelect ⟨.columns ["zip", "name", "city.name"], [], none⟩ namesakes.schema =
      .ok ⟨["person.zip", "person.name", "city.name"],
        [⟨"person", ["zip", "name"]⟩, ⟨"city", ["name", "zip"]⟩], none⟩ := by cbv
  obtain rfl := Except.ok.inj (hplan.symm.trans hplan')
  exact ⟨dotless, hne, s, hs, hrows (by decide)⟩

/-- A bare name that is selected again can show another column, and no names stand for all columns.
-/
theorem select_namesakes : namesakes.schema.Dotless ∧
    (∃ s, namesakes.execute ⟨.columns ["city.name", "name"], [], none⟩ .inner = .ok s ∧
      s.rows = [[.text "Oslo", .text "Ada"]] ∧
      s.select ["city.name", "name"] = .ok [[.text "Oslo", .text "Oslo"]]) ∧
    ∃ s, namesakes.execute ⟨.columns [], ["person"], none⟩ .inner = .ok s ∧
      s.rows = [[]] ∧ s.select [] = .ok [[.integer 1]] := by
  have again : ∀ {q : Query.Select} {names : List String} {rows rows' : List Row},
      (namesakes.execute q .inner >>= fun s => .ok (s.rows, s.select names)) =
        .ok (rows, .ok rows') →
      ∃ s, namesakes.execute q .inner = .ok s ∧ s.rows = rows ∧ s.select names = .ok rows' := by
    intro q names rows rows' h
    obtain ⟨s, hs, heq⟩ := Outcome.bind_eq_ok.mp h
    obtain ⟨hrows, hselect⟩ := Prod.mk.inj (Except.ok.inj heq)
    exact ⟨s, hs, hrows, hselect⟩
  exact ⟨by decide, again (by cbv), again (by cbv)⟩

end Database

end ProfileQuery
