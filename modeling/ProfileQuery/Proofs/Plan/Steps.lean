import ProfileQuery.Plan.Basic
import ProfileQuery.Proofs.Names
import ProfileQuery.Proofs.Outcome
import ProfileQuery.Proofs.Plan.Fetch
import ProfileQuery.Proofs.Plan.Name
import ProfileQuery.Proofs.Plan.Order
import ProfileQuery.Proofs.Store.Database

/-!
# The steps of a plan

What every plan guarantees about its joins (`Planned`): the steps are tidy and chained, each reads
known columns of a known relation and among them all keys, and whatever the query asks for by a
qualified name is fetched. Columns that are fetched without being asked for are keys.
-/

namespace ProfileQuery

/-- No column of the schema has a dot in its name. -/
def Schema.Dotless (s : Schema) : Prop :=
  ∀ r ∈ s.relations, ∀ column ∈ r.columns, Plan.Dotless column

instance (s : Schema) : Decidable s.Dotless :=
  inferInstanceAs (Decidable (∀ r ∈ s.relations, ∀ column ∈ r.columns, Plan.Dotless column))

namespace Schema

variable {s : Schema} {name : String} {r : Relation}

theorem mem_of_relation? (h : s.relation? name = some r) : r ∈ s.relations ∧ r.name = name :=
  ⟨List.mem_of_find?_eq_some h, by simpa using List.find?_some h⟩

theorem Dotless.column (dotless : s.Dotless) (h : s.relation? name = some r) {column : String}
    (hc : column ∈ r.columns) : Plan.Dotless column :=
  dotless r (mem_of_relation? h).1 column hc

theorem relation_eq_ok : s.relation name = .ok r ↔ s.relation? name = some r := by
  unfold Schema.relation
  cases s.relation? name <;> simp

end Schema

namespace Plan

variable {s : Schema}

theorem keys?_keyMap (s : Schema) (relation : String) :
    (keyMap s).keys? relation = (s.relation? relation).map Relation.keys := by
  unfold KeyMap.keys? keyMap Schema.relation?
  induction s.relations with
  | nil => rfl
  | cons r rs ih =>
    rw [List.map_cons, List.lookup_cons, List.find?_cons]
    by_cases h : relation = r.name
    · simp [h]
    · have hbeq : (r.name == relation) = false := by simpa using Ne.symm h
      simp [beq_false_of_ne h, hbeq, ih]

/-! ## Names that are located -/

/-- A name that stands for a known column of a known relation. -/
def Located (s : Schema) (name relation column : String) : Prop :=
  name = qualified relation column ∧ Dotless column ∧
    ∃ r, s.relation? relation = some r ∧ column ∈ r.columns

theorem locate_eq_ok {name relation column : String} :
    locate s name = .ok (relation, column) ↔ Located s name relation column := by
  unfold locate
  cases hsplit : splitQualified name with
  | mk front back =>
    cases front with
    | none =>
      refine ⟨fun h => (nomatch h), fun ⟨hname, hc, _⟩ => ?_⟩
      rw [hname, splitQualified_qualified hc] at hsplit
      cases hsplit
    | some front =>
      obtain ⟨hname, hback⟩ := of_splitQualified hsplit
      constructor
      · intro h
        obtain ⟨r, hr, hrest⟩ := Outcome.bind_eq_ok.mp h
        cases hindex : r.fieldIndex? back with
        | none => simp only [hindex] at hrest; cases hrest
        | some i =>
          simp only [hindex] at hrest
          obtain ⟨rfl, rfl⟩ : front = relation ∧ back = column := by
            simpa using Except.ok.inj hrest
          exact ⟨hname, hback, r, Schema.relation_eq_ok.mp hr,
            (r.isSome_fieldIndex? _).mp (by rw [hindex]; rfl)⟩
      · rintro ⟨hname', hc, r, hr, hmem⟩
        obtain ⟨rfl, rfl⟩ := (qualified_inj hback hc).mp (hname.symm.trans hname')
        obtain ⟨i, hi⟩ := Option.isSome_iff_exists.mp ((r.isSome_fieldIndex? _).mpr hmem)
        simp only [Schema.relation_eq_ok.mpr hr, Outcome.bind_ok, hi]
        rfl

/-! ## Collecting columns -/

/-- The relations and steps collected for the names in `seen`. -/
structure Collected (s : Schema) (named seen : List String) (draft : Draft) : Prop where
  tidy : Tidy draft.steps
  relations_nodup : draft.relations.Nodup
  located : ∀ name ∈ seen, ∃ relation column, Located s name relation column
  fetches : ∀ relation column,
    Fetches draft.steps relation column ↔ Dotless column ∧ qualified relation column ∈ seen
  mem_relations : ∀ relation, relation ∈ draft.relations ↔
    relation ∈ named ∨ ∃ column, Dotless column ∧ qualified relation column ∈ seen

theorem Collected.start {named : List String} (h : named.Nodup) :
    Collected s named [] ⟨named, []⟩ :=
  ⟨⟨List.nodup_nil, by simp, by simp⟩, h, by simp, by simp [Fetches], by simp⟩

theorem mem_append_new {names : List String} {name other : String} :
    other ∈ (if name ∈ names then names else names ++ [name]) ↔ other ∈ names ∨ other = name := by
  split
  · next hin => exact ⟨.inl, fun h => h.elim id fun heq => heq ▸ hin⟩
  · simp

theorem nodup_append_new {names : List String} (h : names.Nodup) (name : String) :
    (if name ∈ names then names else names ++ [name]).Nodup := by
  split
  · exact h
  · next hout => exact nodup_append_singleton h hout

/-- Collecting one more located name. -/
theorem Collected.add {named seen : List String} {draft : Draft}
    (h : Collected s named seen draft) {name relation column : String} (hnew : name ∉ seen)
    (hlocated : Located s name relation column) :
    Collected s named (name :: seen)
      ⟨if relation ∈ draft.relations then draft.relations else draft.relations ++ [relation],
        fetch relation column draft.steps⟩ := by
  obtain ⟨rfl, hc, hr⟩ := hlocated
  have same : ∀ {relation' column' : String}, Dotless column' →
      (qualified relation' column' = qualified relation column ↔
        relation' = relation ∧ column' = column) := fun hc' => qualified_inj hc' hc
  refine ⟨tidy_fetch h.tidy fun hf => hnew ((h.fetches _ _).mp hf).2,
    nodup_append_new h.relations_nodup relation, ?_, ?_, ?_⟩
  · intro name' hname'
    rcases List.mem_cons.mp hname' with rfl | hmem
    · exact ⟨relation, column, rfl, hc, hr⟩
    · exact h.located name' hmem
  · intro relation' column'
    rw [fetches_fetch, h.fetches, List.mem_cons]
    constructor
    · rintro (⟨hc', hmem⟩ | ⟨rfl, rfl⟩)
      · exact ⟨hc', .inr hmem⟩
      · exact ⟨hc, .inl rfl⟩
    · rintro ⟨hc', heq | hmem⟩
      · exact .inr ((same hc').mp heq)
      · exact .inl ⟨hc', hmem⟩
  · intro relation'
    rw [mem_append_new, h.mem_relations]
    constructor
    · rintro ((hnamed | ⟨column', hc', hmem⟩) | rfl)
      · exact .inl hnamed
      · exact .inr ⟨column', hc', List.mem_cons_of_mem _ hmem⟩
      · exact .inr ⟨column, hc, List.mem_cons_self⟩
    · rintro (hnamed | ⟨column', hc', hmem⟩)
      · exact .inl (.inl hnamed)
      · -- the name is the one that is collected now, or was seen before
        rcases List.mem_cons.mp hmem with heq | hmem
        · exact .inr ((same hc').mp heq).1
        · exact .inl (.inr ⟨column', hc', hmem⟩)

/-- What is collected depends on the names seen as a set only. -/
theorem Collected.congr {named seen seen' : List String} {draft : Draft}
    (h : Collected s named seen draft) (heq : ∀ name, name ∈ seen ↔ name ∈ seen') :
    Collected s named seen' draft :=
  ⟨h.tidy, h.relations_nodup, fun name hname => h.located name ((heq name).mpr hname),
    fun relation column => by rw [h.fetches, heq],
    fun relation => by simp only [h.mem_relations, heq]⟩

/-- Which relations are collected from depends on those that are named and on the names seen, as
sets. -/
theorem Collected.relations_perm {named named' seen seen' : List String} {draft draft' : Draft}
    (h : Collected s named seen draft) (h' : Collected s named' seen' draft')
    (hnamed : named.Perm named') (hseen : ∀ name, name ∈ seen ↔ name ∈ seen') :
    draft.relations.Perm draft'.relations := by
  refine (List.perm_ext_iff_of_nodup h.relations_nodup h'.relations_nodup).mpr fun relation => ?_
  rw [h.mem_relations, h'.mem_relations, hnamed.mem_iff]
  simp only [hseen]

theorem collected_of_addColumns {named seen names : List String} {draft draft' : Draft}
    (h : Collected s named seen draft) (hadd : addColumns s seen draft names = .ok draft') :
    Collected s named (names ++ seen) draft' := by
  induction names generalizing seen draft with
  | nil => exact Except.ok.inj hadd ▸ h
  | cons name names ih =>
    unfold addColumns at hadd
    split at hadd
    · next hseen =>
      refine (ih h hadd).congr fun other => ?_
      simp only [List.cons_append, List.mem_cons, List.mem_append]
      refine ⟨.inr, fun hor => hor.elim (fun heq => .inr (heq ▸ hseen)) id⟩
    · next hnew =>
      obtain ⟨⟨relation, column⟩, hlocate, hrest⟩ := Outcome.bind_eq_ok.mp hadd
      refine (ih (h.add hnew (locate_eq_ok.mp hlocate)) hrest).congr fun other => ?_
      simp only [List.cons_append, List.mem_cons, List.mem_append]
      exact ⟨fun hor => or_left_comm.mp hor, fun hor => or_left_comm.mp hor⟩

theorem checkNamed_eq_ok {seen named : List String} :
    checkNamed s seen named = .ok () ↔
      (named.Nodup ∧ ∀ relation ∈ named, relation ∉ seen ∧ ∃ r, s.relation? relation = some r) := by
  induction named generalizing seen with
  | nil => simp [checkNamed]
  | cons relation named ih =>
    unfold checkNamed
    split
    · next hseen =>
      exact ⟨fun h => (nomatch h), fun h => absurd hseen (h.2 relation List.mem_cons_self).1⟩
    · next hnew =>
      rw [Outcome.bind_eq_ok]
      simp only [Schema.relation_eq_ok, ih, List.nodup_cons, List.mem_cons, not_or]
      constructor
      · rintro ⟨r, hr, hnodup, hrest⟩
        refine ⟨⟨fun hmem => (hrest relation hmem).1.1 rfl, hnodup⟩, fun other hother => ?_⟩
        rcases hother with rfl | hmem
        · exact ⟨hnew, r, hr⟩
        · exact ⟨(hrest other hmem).1.2, (hrest other hmem).2⟩
      · rintro ⟨⟨hout, hnodup⟩, hrest⟩
        obtain ⟨r, hr⟩ := (hrest relation (.inl rfl)).2
        refine ⟨r, hr, hnodup, fun other hother => ⟨⟨?_, (hrest other (.inr hother)).1⟩,
          (hrest other (.inr hother)).2⟩⟩
        rintro rfl
        exact hout hother

end Plan

end ProfileQuery
