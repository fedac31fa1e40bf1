import Mathlib.Data.List.Induction
import ProfileQuery.Proofs.Plan.Linked

/-!
# Plans in another order

The order in which columns are asked for and relations are named decides the order of the joins, but
not what they fetch (`Alike`). Where a plan is clear, an order of the joins is found for every order
of the columns and relations: the relations of a plan hang together by their keys, so no search for
an order gets stuck.
-/

namespace ProfileQuery.Plan

variable {s : Schema} {steps steps' : List JoinStep}

/-! ## Relations that hang together -/

/-- When everything but the first is related to something before it, no part is cut off from the
rest. -/
theorem exists_crossing {α : Type} {r : α → α → Prop} (symm : ∀ a b, r a b → r b a) {xs : List α}
    (h : ∀ before x after, xs = before ++ x :: after → before = [] ∨ ∃ earlier ∈ before, r x earlier)
    (p : α → Prop) (hin : ∃ a ∈ xs, p a) (hout : ∃ b ∈ xs, ¬ p b) :
    ∃ a ∈ xs, ∃ b ∈ xs, p a ∧ ¬ p b ∧ r a b := by
  induction xs using List.reverseRecOn with
  | nil => exact nomatch hin.choose_spec.1
  | append_singleton xs last ih =>
    by_cases hboth : (∃ a ∈ xs, p a) ∧ ∃ b ∈ xs, ¬ p b
    · obtain ⟨a, ha, b, hb, hrest⟩ := ih
        (fun before x after heq => h before x (after ++ [last]) (by simp [heq])) hboth.1 hboth.2
      exact ⟨a, List.mem_append_left _ ha, b, List.mem_append_left _ hb, hrest⟩
    · -- the last one is on the other side of all the rest
      rcases h xs last [] rfl with hempty | ⟨earlier, hearlier, hr⟩
      · obtain ⟨a, ha, hpa⟩ := hin
        obtain ⟨b, hb, hpb⟩ := hout
        rw [hempty, List.nil_append, List.mem_singleton] at ha hb
        exact absurd (ha ▸ hpa) (hb ▸ hpb)
      · by_cases hlast : p last
        · have hno : ¬ p earlier := fun hyes => by
            obtain ⟨b, hb, hpb⟩ := hout
            rcases List.mem_append.mp hb with hold | hnew
            · exact hboth ⟨⟨earlier, hearlier, hyes⟩, b, hold, hpb⟩
            · exact hpb (List.mem_singleton.mp hnew ▸ hlast)
          exact ⟨last, by simp, earlier, by simp [hearlier], hlast, hno, hr⟩
        · have hyes : p earlier := by
            by_contra hno
            obtain ⟨a, ha, hpa⟩ := hin
            rcases List.mem_append.mp ha with hold | hnew
            · exact hboth ⟨⟨a, hold, hpa⟩, earlier, hearlier, hno⟩
            · exact hlast (List.mem_singleton.mp hnew ▸ hpa)
          exact ⟨earlier, by simp [hearlier], last, by simp, hyes, hlast, symm _ _ hr⟩

/-- Whether two relations have a key in common. -/
def Meet (s : Schema) (relation other : String) : Prop :=
  ∃ key ∈ s.keys relation, key ∈ s.keys other

/-- In a clear plan every relation after the first has a key in common with an earlier one. -/
theorem Clear.meet (hclear : Clear s steps) (hlinked : firstUnlinked? s [] steps = none)
    {before after : List String} {relation : String}
    (h : steps.map (·.relation) = before ++ relation :: after) :
    before = [] ∨ ∃ earlier ∈ before, Meet s relation earlier := by
  obtain ⟨first, last, rfl, rfl, hlast⟩ := List.map_eq_append_iff.mp h
  obtain ⟨step, rest, rfl, rfl, -⟩ := List.map_eq_cons_iff.mp hlast
  rcases firstUnlinked?_eq_none.mp hlinked first step rest rfl with hempty | ⟨key, -, hkey, earlier,
    hearlier, hcolumn⟩
  · exact .inl (by simpa using hempty)
  · refine .inr ⟨earlier.relation, List.mem_map_of_mem (by simpa using hearlier), key, hkey, ?_⟩
    by_contra hplain
    exact hclear earlier (by simp [show earlier ∈ first by simpa using hearlier]) key hcolumn hplain
      step (by simp) hkey

/-! ## What is fetched -/

/-- Steps that fetch the same columns from the same relations. -/
def Alike (steps steps' : List JoinStep) : Prop :=
  ∀ relation column, Fetches steps relation column ↔ Fetches steps' relation column

theorem Planned.alike {asked asked' joined joined' : List String}
    (h : Planned s asked joined steps) (h' : Planned s asked' joined' steps')
    (hasked : ∀ name, name ∈ asked ↔ name ∈ asked')
    (hjoined : ∀ relation, relation ∈ joined ↔ relation ∈ joined') : Alike steps steps' := by
  intro relation column
  rw [h.fetches, h'.fetches, hasked, hjoined]

namespace Alike

theorem symm (h : Alike steps steps') : Alike steps' steps :=
  fun relation column => (h relation column).symm

/-- A joined relation has a step, which fetches something. -/
theorem mem_relations (h : Alike steps steps') (tidy : Tidy steps) {relation : String}
    (hmem : relation ∈ steps.map (·.relation)) : relation ∈ steps'.map (·.relation) := by
  obtain ⟨step, hstep, rfl⟩ := List.mem_map.mp hmem
  obtain ⟨column, hcolumn⟩ := List.exists_mem_of_ne_nil _ (tidy.columns_ne_nil step hstep)
  obtain ⟨step', hstep', heq, -⟩ := (h _ _).mp ⟨step, hstep, rfl, hcolumn⟩
  exact heq ▸ List.mem_map_of_mem hstep'

theorem relations_perm (h : Alike steps steps') (tidy : Tidy steps) (tidy' : Tidy steps') :
    (steps.map (·.relation)).Perm (steps'.map (·.relation)) :=
  (List.perm_ext_iff_of_nodup tidy.relations_nodup tidy'.relations_nodup).mpr fun _ =>
    ⟨h.mem_relations tidy, h.symm.mem_relations tidy'⟩

theorem clear (h : Alike steps steps') (tidy' : Tidy steps') (hclear : Clear s steps) :
    Clear s steps' := by
  intro step' hstep' c hc hplain other' hother'
  obtain ⟨step, hstep, heq, hcolumn⟩ := (h _ _).mpr ⟨step', hstep', rfl, hc⟩
  obtain ⟨other, hother, heq'⟩ :=
    List.mem_map.mp (h.symm.mem_relations tidy' (List.mem_map_of_mem hother'))
  rw [← heq']
  exact hclear step hstep c hcolumn (heq ▸ hplain) other hother

end Alike

/-! ## Orders -/

/-- An order for the joins of a plan is found when its relations hang together by their keys. -/
theorem Planned.exists_orderSteps {asked joined : List String} (h : Planned s asked joined steps)
    (hmeet : ∀ p : String → Prop, (∃ a ∈ steps.map (·.relation), p a) →
      (∃ b ∈ steps.map (·.relation), ¬ p b) →
      ∃ a ∈ steps.map (·.relation), ∃ b ∈ steps.map (·.relation), p a ∧ ¬ p b ∧ Meet s a b) :
    ∃ out, orderSteps (keyMap s) none steps = .ok out := by
  cases steps with
  | nil => exact ⟨[], orderSteps_nil _⟩
  | cons first rest =>
    have hnodup : (first :: rest).Nodup := List.Nodup.of_map _ h.tidy.relations_nodup
    have hreaches : Reaches (keyMap s) ((keyMap s).keysOf first) rest := by
      rintro left ⟨inner, hinner, hleft⟩
      -- the relations of the steps that are left, and all the others
      let p := fun relation => ∃ step ∈ rest, left step ∧ step.relation = relation
      have hfirst : ¬ p first.relation := by
        rintro ⟨step, hstep, -, heq⟩
        have := h.tidy.step_unique (List.mem_cons_of_mem _ hstep) List.mem_cons_self heq
        exact (List.nodup_cons.mp hnodup).1 (this ▸ hstep)
      obtain ⟨_, -, b, hb, ⟨step, hstep, hstepLeft, rfl⟩, hout, key, hkey, hkey'⟩ := hmeet p
        ⟨inner.relation, by simp [List.mem_map_of_mem hinner], inner, hinner, hleft, rfl⟩
        ⟨first.relation, by simp, hfirst⟩
      refine ⟨step, hstep, hstepLeft, key, h.keys_subset (List.mem_cons_of_mem _ hstep) hkey, ?_⟩
      obtain ⟨placed, hplaced, rfl⟩ := List.mem_map.mp hb
      rcases List.mem_cons.mp hplaced with rfl | hrest
      · exact .inl (keysOf_keyMap s placed ▸ hkey')
      · exact .inr ⟨placed, hrest, fun hl => hout ⟨placed, hrest, hl, rfl⟩,
          keysOf_keyMap s placed ▸ hkey'⟩
    obtain ⟨later, hlater⟩ := exists_orderSteps_of_reaches (List.nodup_cons.mp hnodup).2 hreaches
    refine ⟨first :: later, ?_⟩
    rw [orderSteps]
    simp only [List.isEmpty_cons, Bool.false_eq_true, if_false]
    split
    · next hnone => simp at hnone
    · next step hfind =>
      obtain rfl : first = step := by simpa using hfind
      have hjoinedKeys : (none : Option (List String)).getD [] ++
          ((keyMap s).keys? first.relation).getD [] = (keyMap s).keysOf first := rfl
      rw [hjoinedKeys, List.erase_cons_head, hlater]

/-! ## Planning in another order -/

theorem exists_addColumns {names : List String} (seen : List String) (draft : Draft)
    (h : ∀ name ∈ names, ∃ relation column, Located s name relation column) :
    ∃ draft', addColumns s seen draft names = .ok draft' := by
  induction names generalizing seen draft with
  | nil => exact ⟨draft, rfl⟩
  | cons name names ih =>
    have hrest := fun other hother => h other (List.mem_cons_of_mem name hother)
    unfold addColumns
    split
    · exact ih seen draft hrest
    · obtain ⟨relation, column, hlocated⟩ := h name List.mem_cons_self
      obtain ⟨draft', hdraft'⟩ := ih (name :: seen)
        ⟨if relation ∈ draft.relations then draft.relations else draft.relations ++ [relation],
          fetch relation column draft.steps⟩ hrest
      exact ⟨draft', by rw [locate_eq_ok.mpr hlocated, Outcome.bind_ok]; exact hdraft'⟩

section Permuted

variable {projection projection' conditionColumns conditionColumns' named named' : List String}

/-- What a plan for the same names and relations in another order starts from, and that it would
fetch the same, in whatever order it is joined. -/
theorem exists_unordered (dotless : s.Dotless)
    (h : planJoins s projection conditionColumns named = .ok steps)
    (hasked : ∀ name, name ∈ projection ++ conditionColumns ↔
      name ∈ projection' ++ conditionColumns') (hnamed : named.Perm named') :
    ∃ joined unordered,
      (planJoins s projection' conditionColumns' named' =
        orderSteps (keyMap s) none unordered) ∧
      Planned s (projection' ++ conditionColumns') joined unordered ∧ Alike steps unordered := by
  obtain ⟨hchecked, draft, hdraft, pivots, hpivots, horder⟩ := planJoins_eq_ok.mp h
  obtain ⟨hnodup, hknown⟩ := checkNamed_eq_ok.mp hchecked
  have hchecked' : checkNamed s [] named' = .ok () :=
    checkNamed_eq_ok.mpr ⟨hnamed.nodup hnodup, fun r hr => hknown r (hnamed.mem_iff.mpr hr)⟩
  -- both orders collect the same relations, as sets
  have hcollected := collected_of_checked hchecked hdraft
  obtain ⟨draft', hdraft'⟩ := exists_addColumns [] ⟨named', []⟩
    fun name hname => hcollected.located name ((hasked name).mpr hname)
  have hcollected' := collected_of_checked hchecked' hdraft'
  have hrelations := hcollected.relations_perm hcollected' hnamed hasked
  have hpivots' := pivotRelations_perm hrelations ▸ hpivots
  have planned := planned_addKeys dotless hcollected (fun r hr => (hknown r hr).2) hpivots
  have planned' := planned_addKeys dotless hcollected'
    (fun r hr => (hknown r (hnamed.mem_iff.mpr hr)).2) hpivots'
  refine ⟨_, _, ?_, planned', ?_⟩
  · unfold planJoins
    rw [hchecked', Outcome.bind_ok]
    simp only [hdraft', Outcome.bind_ok, hpivots']
  · have hperm := (perm_and_chained_of_orderSteps horder).1
    refine (planned.perm hperm.symm).alike planned' hasked fun relation => ?_
    rw [List.mem_append, List.mem_append, hrelations.mem_iff]

/-- A clear plan stays possible when names and relations come in another order. -/
theorem exists_planJoins_perm (dotless : s.Dotless)
    (h : planJoins s projection conditionColumns named = .ok steps) (hclear : Clear s steps)
    (hasked : ∀ name, name ∈ projection ++ conditionColumns ↔
      name ∈ projection' ++ conditionColumns') (hnamed : named.Perm named') :
    ∃ steps', planJoins s projection' conditionColumns' named' = .ok steps' := by
  obtain ⟨hchained, joined, planned⟩ := planned_of_planJoins dotless h
  obtain ⟨joined', unordered, hunordered, planned', halike⟩ :=
    exists_unordered dotless h hasked hnamed
  have hlinked := planned.firstUnlinked?_eq_none hchained hclear
  have hmem : ∀ relation, relation ∈ unordered.map (·.relation) ↔
      relation ∈ steps.map (·.relation) := fun relation =>
    ⟨halike.symm.mem_relations planned'.tidy, halike.mem_relations planned.tidy⟩
  rw [hunordered]
  refine planned'.exists_orderSteps fun p hin hout => ?_
  simp only [hmem] at hin hout ⊢
  exact exists_crossing (fun _ _ ⟨key, hkey, hkey'⟩ => ⟨key, hkey', hkey⟩)
    (fun _ _ _ heq => hclear.meet hlinked heq) p hin hout

/-- Plans for the same names and relations in another order fetch the same. -/
theorem alike_of_planJoins (dotless : s.Dotless)
    (h : planJoins s projection conditionColumns named = .ok steps)
    (h' : planJoins s projection' conditionColumns' named' = .ok steps')
    (hasked : ∀ name, name ∈ projection ++ conditionColumns ↔
      name ∈ projection' ++ conditionColumns') (hnamed : named.Perm named') :
    Alike steps steps' := by
  obtain ⟨joined, unordered, hunordered, -, halike⟩ := exists_unordered dotless h hasked hnamed
  rw [hunordered] at h'
  intro relation column
  rw [halike, Fetches.perm (perm_and_chained_of_orderSteps h').1]

end Permuted

/-! ## Queries in another order -/

theorem candidates_perm {named named' : List String} (h : named.Perm named') (column : String) :
    candidates s named column = candidates s named' column := by
  simp only [candidates, h.mem_iff]

theorem resolve_perm {named named' : List String} (h : named.Perm named') :
    resolve s named = resolve s named' := by
  funext name
  simp only [resolve, candidates_perm h]

section Queries

variable {names names' relations relations' : List String} {condition : Option Query.Condition}
  {plan plan' : SelectPlan}

theorem resolveFilter_perm (names names' : List String) (h : relations.Perm relations') :
    resolveFilter ⟨.columns names, relations, condition⟩ s =
      resolveFilter ⟨.columns names', relations', condition⟩ s := by
  cases condition with
  | none => rfl
  | some c => simp only [resolveFilter, resolveCondition, resolve_perm h]

/-- The names in a list that was worked through are the results of those asked for. -/
theorem mem_of_mapM_resolve {projection : List String}
    (h : names.mapM (resolve s relations) = .ok projection) (name : String) :
    name ∈ projection ↔ ∃ asked ∈ names, resolve s relations asked = .ok name := by
  have hresolved := Outcome.mapM_eq_ok.mp h
  clear h
  induction hresolved with
  | nil => simp
  | cons hfirst _ ih =>
    simp only [List.mem_cons, ih, exists_eq_or_imp, hfirst, Except.ok.injEq]
    exact or_congr_left eq_comm

/-- The names that two plans mention, for the same columns in another order. -/
theorem mem_names_perm (hnames : names.Perm names') (hrel : relations.Perm relations')
    (h : ofSelect ⟨.columns names, relations, condition⟩ s = .ok plan)
    {projection' : List String} (h' : names'.mapM (resolve s relations') = .ok projection')
    (name : String) : name ∈ plan.projection ↔ name ∈ projection' := by
  have hprojection : names.mapM (resolve s relations) = .ok plan.projection :=
    (ofSelect_eq_ok.mp h).1
  rw [mem_of_mapM_resolve hprojection, mem_of_mapM_resolve h', resolve_perm hrel]
  simp only [hnames.mem_iff]

/-- A query with a clear plan has a plan in any order. -/
theorem exists_ofSelect_perm (dotless : s.Dotless)
    (h : ofSelect ⟨.columns names, relations, condition⟩ s = .ok plan)
    (hclear : Clear s plan.joins) (hnames : names.Perm names') (hrel : relations.Perm relations') :
    ∃ plan', ofSelect ⟨.columns names', relations', condition⟩ s = .ok plan' := by
  obtain ⟨hprojection, columns, hfilter, hjoins⟩ := ofSelect_eq_ok.mp h
  obtain ⟨projection', hprojection'⟩ : ∃ ys, names'.mapM (resolve s relations') = .ok ys := by
    refine Outcome.exists_mapM_iff.mpr fun name hname => ?_
    rw [← resolve_perm hrel]
    exact Outcome.exists_mapM_iff.mp ⟨_, hprojection⟩ name (hnames.mem_iff.mpr hname)
  have hasked : ∀ name, name ∈ plan.projection ++ columns ↔ name ∈ projection' ++ columns :=
    fun name => by rw [List.mem_append, List.mem_append, mem_names_perm hnames hrel h hprojection']
  obtain ⟨joins', hjoins'⟩ := exists_planJoins_perm dotless hjoins hclear hasked hrel
  exact ⟨⟨projection', joins', plan.condition⟩, ofSelect_eq_ok.mpr ⟨hprojection', columns,
    resolveFilter_perm names names' hrel ▸ hfilter, hjoins'⟩⟩

/-- Plans for the same columns in another order filter by the same condition and fetch the same. -/
theorem alike_of_ofSelect (dotless : s.Dotless)
    (h : ofSelect ⟨.columns names, relations, condition⟩ s = .ok plan)
    (h' : ofSelect ⟨.columns names', relations', condition⟩ s = .ok plan')
    (hnames : names.Perm names') (hrel : relations.Perm relations') :
    plan.condition = plan'.condition ∧ Alike plan.joins plan'.joins := by
  obtain ⟨-, columns, hfilter, hjoins⟩ := ofSelect_eq_ok.mp h
  obtain ⟨hprojection', columns', hfilter', hjoins'⟩ := ofSelect_eq_ok.mp h'
  rw [resolveFilter_perm names names' hrel, hfilter'] at hfilter
  obtain ⟨hcondition, rfl⟩ := Prod.ext_iff.mp (Except.ok.inj hfilter)
  refine ⟨hcondition.symm, alike_of_planJoins dotless hjoins hjoins' (fun name => ?_) hrel⟩
  rw [List.mem_append, List.mem_append, mem_names_perm hnames hrel h hprojection']

end Queries

end ProfileQuery.Plan
