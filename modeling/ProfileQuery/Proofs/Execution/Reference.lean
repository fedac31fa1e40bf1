import Mathlib.Data.List.Basic
import Mathlib.Data.List.Forall2
import ProfileQuery.Plan.Basic
import ProfileQuery.Proofs.Plan.Name
import ProfileQuery.Proofs.Selection.Filter
import ProfileQuery.Proofs.Selection.Join

/-!
# The relational reference

What a plan means without any hash join, name index or position: all combinations of stored rows,
one from each joined relation, of which those remain whose parts agree on the keys they share and
that satisfy the condition. The cells of the projection are read from the row of their own relation.
-/

namespace ProfileQuery

open Plan (Dotless JoinStep SelectPlan qualified splitQualified)

/-- A stored row in a combination, with its relation and the columns fetched from it. -/
structure Part where
  relation : Relation
  columns : List String
  row : Row

/-- The cell of a part in a column of its relation. -/
def Part.cell? (part : Part) (column : String) : Option Value :=
  part.relation.cell? column part.row

/-- One part for each join, in order. -/
abbrev Combination := List Part

namespace Combination

/-- Whether a part agrees with those before it: on each of its keys that was fetched before it has
the cell of the first that fetched it. -/
def Agrees (earlier : Combination) (part : Part) : Prop :=
  ∀ column ∈ part.columns, column ∈ part.relation.keys →
    ∀ first ∈ earlier.find? (column ∈ ·.columns), part.cell? column = first.cell? column

instance (earlier : Combination) (part : Part) : Decidable (Agrees earlier part) :=
  inferInstanceAs (Decidable (∀ column ∈ part.columns, column ∈ part.relation.keys →
    ∀ first ∈ earlier.find? (column ∈ ·.columns), part.cell? column = first.cell? column))

/-- Whether every part agrees with those before it. -/
def Matched (combo : Combination) : Prop :=
  ∀ k, ∀ h : k < combo.length, Agrees (combo.take k) combo[k]

instance (combo : Combination) : Decidable combo.Matched :=
  inferInstanceAs (Decidable (∀ k, ∀ h : k < combo.length, Agrees (combo.take k) combo[k]))

/-- The cell of the part of a relation in a column. -/
def cellOf? (combo : Combination) (relation column : String) : Option Value :=
  (combo.find? (·.relation.name = relation)).bind (·.cell? column)

/-- The cell with a qualified name, read from the part of its relation. -/
def cell? (combo : Combination) (name : String) : Option Value :=
  match splitQualified name with
  | (some relation, column) => combo.cellOf? relation column
  | (none, _) => none

/-- The value with a qualified name; a missing value where there is none. -/
def value (combo : Combination) (name : String) : Value :=
  (combo.cell? name).getD .null

/-- Whether a combination satisfies a condition, if there is one. -/
def satisfies (combo : Combination) : Option Query.Condition → Bool
  | none => true
  | some condition => condition.eval combo.value

end Combination

namespace Database

/-- The stored rows of the relation of a step, in stored order. -/
def parts (db : Database) (step : JoinStep) : List Part :=
  match db.table? step.relation with
  | none => []
  | some t => t.rows.toList.map fun row => ⟨t.relation, step.columns, row⟩

/-- All combinations of stored rows for some steps, in lexicographic stored order. -/
def combinations (db : Database) : List JoinStep → List Combination
  | [] => [[]]
  | step :: steps =>
    (db.parts step).flatMap fun part => (db.combinations steps).map (part :: ·)

/-- The combinations of stored rows whose parts agree. -/
def matched (db : Database) (steps : List JoinStep) : List Combination :=
  (db.combinations steps).filter fun combo => decide combo.Matched

/-- The rows that a plan asks for: the cells of its projection in the matched combinations that
satisfy its condition. -/
def referenceRows (db : Database) (plan : SelectPlan) : List (List (Option Value)) :=
  ((db.matched plan.joins).filter (·.satisfies plan.condition)).map fun combo =>
    plan.projection.map combo.cell?

end Database

/-! ## The parts of a combination -/

namespace Database

variable {db : Database} {steps : List JoinStep} {step : JoinStep} {combo : Combination}

/-- The combinations for some steps and one more. -/
theorem combinations_concat (steps : List JoinStep) (step : JoinStep) :
    db.combinations (steps ++ [step]) =
      (db.combinations steps).flatMap fun combo =>
        (db.parts step).map fun part => combo ++ [part] := by
  induction steps with
  | nil =>
    rw [List.nil_append, combinations, combinations, List.flatMap_singleton]
    exact List.flatMap_pure_eq_map _ _
  | cons first steps ih =>
    rw [List.cons_append, combinations, ih, combinations, List.flatMap_assoc]
    refine List.flatMap_congr fun part _ => ?_
    simp only [List.map_flatMap, List.flatMap_map, List.map_map]
    rfl

theorem mem_parts {part : Part} : part ∈ db.parts step ↔
    ∃ t, db.table? step.relation = some t ∧ part.relation = t.relation ∧
      part.columns = step.columns ∧ part.row ∈ t.rows := by
  unfold parts
  cases db.table? step.relation with
  | none => simp
  | some t =>
    obtain ⟨relation, columns, row⟩ := part
    simp only [List.mem_map, Array.mem_toList_iff, Part.mk.injEq, Option.some.injEq]
    constructor
    · rintro ⟨row, hrow, rfl, rfl, rfl⟩
      exact ⟨t, rfl, rfl, rfl, hrow⟩
    · rintro ⟨t', rfl, rfl, rfl, hrow⟩
      exact ⟨row, hrow, rfl, rfl, rfl⟩

/-- A combination has a stored row for each step. -/
theorem mem_combinations :
    combo ∈ db.combinations steps ↔
      List.Forall₂ (fun part step => part ∈ db.parts step) combo steps := by
  induction steps generalizing combo with
  | nil => simp [combinations]
  | cons step steps ih =>
    simp only [combinations, List.mem_flatMap, List.mem_map, List.forall₂_cons_right_iff, ih]
    constructor
    · rintro ⟨part, hpart, rest, hrest, rfl⟩
      exact ⟨part, rest, hpart, hrest, rfl⟩
    · rintro ⟨part, rest, hpart, hrest, rfl⟩
      exact ⟨part, hpart, rest, hrest, rfl⟩

end Database

namespace Combination

/-- With one more part, that part has to agree with all before it. -/
theorem matched_concat {combo : Combination} {part : Part} :
    Matched (combo ++ [part]) ↔ Matched combo ∧ Agrees combo part := by
  constructor
  · intro h
    refine ⟨fun k hk => ?_, ?_⟩
    · have hlt : k < (combo ++ [part]).length := by simp; omega
      have hagrees := h k hlt
      rwa [List.take_append_of_le_length (Nat.le_of_lt hk), List.getElem_append_left hk] at hagrees
    · have hagrees := h combo.length (by simp)
      simpa using hagrees
  · rintro ⟨h, hlast⟩ k hk
    by_cases hlt : k < combo.length
    · rw [List.take_append_of_le_length (Nat.le_of_lt hlt), List.getElem_append_left hlt]
      exact h k hlt
    · obtain rfl : k = combo.length := by
        simp only [List.length_append, List.length_singleton] at hk
        omega
      simpa using hlast

variable {combo : Combination} {relation column : String}

theorem cell?_qualified (h : Dotless column) :
    combo.cell? (qualified relation column) = combo.cellOf? relation column := by
  rw [cell?, Plan.splitQualified_qualified h]

/-- More parts do not change the cells of a relation that is there. -/
theorem cellOf?_append (h : ∃ part ∈ combo, part.relation.name = relation) (more : Combination) :
    Combination.cellOf? (combo ++ more) relation column = combo.cellOf? relation column := by
  have hfound : (combo.find? (·.relation.name = relation)).isSome = true := by simpa using h
  rw [cellOf?, List.find?_append, Option.or_of_isSome hfound, cellOf?]

/-- Where the relations are distinct, each part is that of its relation. -/
theorem cellOf?_of_mem (hnodup : (combo.map (·.relation.name)).Nodup) {part : Part}
    (h : part ∈ combo) : combo.cellOf? part.relation.name column = part.cell? column := by
  have hsome : (combo.find? (·.relation.name = part.relation.name)).isSome = true := by
    simpa using ⟨part, h, rfl⟩
  obtain ⟨found, hfound⟩ := Option.isSome_iff_exists.mp hsome
  have hname : found.relation.name = part.relation.name := by simpa using List.find?_some hfound
  obtain rfl := List.inj_on_of_nodup_map hnodup (List.mem_of_find?_eq_some hfound) h hname
  rw [cellOf?, hfound, Option.bind_some]

theorem cellOf?_concat {part : Part} (h : ∀ other ∈ combo, other.relation.name ≠ relation)
    (hpart : part.relation.name = relation) :
    Combination.cellOf? (combo ++ [part]) relation column = part.cell? column := by
  have hnone : combo.find? (·.relation.name = relation) = none := by simpa using h
  simp [cellOf?, List.find?_append, hnone, hpart]

/-- A part that stands behind others agrees with them. -/
theorem Matched.agrees {earlier later : Combination} {part : Part}
    (h : Matched (earlier ++ part :: later)) : Agrees earlier part := by
  have hagrees := h earlier.length (by simp)
  simpa using hagrees

end Combination

namespace Database

open Combination

variable {db : Database} {steps : List JoinStep} {combo : Combination}

/-- Steps and parts that satisfy corresponding tests are found in corresponding places. -/
theorem find?_of_mem_combinations (h : combo ∈ db.combinations steps) {p : Part → Bool}
    {q : JoinStep → Bool} (hpq : ∀ part step, part ∈ db.parts step → p part = q step) :
    (steps.find? q = none ∧ combo.find? p = none) ∨
      ∃ step ∈ steps, ∃ part ∈ combo, part ∈ db.parts step ∧ steps.find? q = some step ∧
        combo.find? p = some part := by
  have hparts := mem_combinations.mp h
  clear h
  induction hparts with
  | nil => exact .inl ⟨rfl, rfl⟩
  | @cons part step combo steps hpart _ ih =>
    rw [List.find?_cons, List.find?_cons, hpq part step hpart]
    cases hq : q step with
    | true => exact .inr ⟨step, List.mem_cons_self, part, List.mem_cons_self, hpart, rfl, rfl⟩
    | false =>
      rcases ih with hnone | ⟨step', hstep, part', hmem, hrest⟩
      · exact .inl hnone
      · exact .inr ⟨step', List.mem_cons_of_mem _ hstep, part', List.mem_cons_of_mem _ hmem, hrest⟩

theorem name_of_mem_parts {part : Part} {step : JoinStep} (h : part ∈ db.parts step) :
    part.relation.name = step.relation := by
  obtain ⟨t, ht, hrelation, -, -⟩ := mem_parts.mp h
  rw [hrelation]
  exact name_of_table? ht

/-- The relations of a combination are those of the steps. -/
theorem names_of_mem_combinations (h : combo ∈ db.combinations steps) :
    combo.map (·.relation.name) = steps.map (·.relation) := by
  have hparts := mem_combinations.mp h
  clear h
  induction hparts with
  | nil => rfl
  | cons hpart _ ih => rw [List.map_cons, List.map_cons, ih, name_of_mem_parts hpart]

/-- The columns that were fetched first are found in corresponding parts. -/
theorem find?_columns (h : combo ∈ db.combinations steps) (column : String) :
    (steps.find? (column ∈ ·.columns) = none ∧ combo.find? (column ∈ ·.columns) = none) ∨
      ∃ step ∈ steps, ∃ part ∈ combo, part ∈ db.parts step ∧
        steps.find? (column ∈ ·.columns) = some step ∧
          combo.find? (column ∈ ·.columns) = some part := by
  refine find?_of_mem_combinations h fun part step hpart => ?_
  obtain ⟨t, -, -, hcolumns, -⟩ := mem_parts.mp hpart
  rw [hcolumns]

/-- A combination has a part for each step, behind one for each earlier step. -/
theorem split_of_mem_combinations {before after : List JoinStep} {step : JoinStep}
    (h : combo ∈ db.combinations (before ++ step :: after)) :
    ∃ earlier part later, combo = earlier ++ part :: later ∧ earlier ∈ db.combinations before ∧
      part ∈ db.parts step := by
  have hparts := mem_combinations.mp h
  have hback := List.forall₂_drop_append _ _ _ hparts
  obtain ⟨part, later, hpart, -, hdrop⟩ := List.forall₂_cons_right_iff.mp hback
  refine ⟨combo.take before.length, part, later, ?_,
    mem_combinations.mpr (List.forall₂_take_append _ _ _ hparts), hpart⟩
  rw [← hdrop, List.take_append_drop]

/-- The combinations that remain for some steps and one more. -/
theorem matched_concat (steps : List JoinStep) (step : JoinStep) :
    db.matched (steps ++ [step]) = (db.matched steps).flatMap fun combo =>
      ((db.parts step).filter fun part => decide (Agrees combo part)).map (combo ++ [·]) := by
  rw [matched, matched, combinations_concat]
  induction db.combinations steps with
  | nil => rfl
  | cons combo combos ih =>
    rw [List.flatMap_cons, List.filter_append, ih, List.filter_map, List.filter_cons]
    by_cases h : combo.Matched
    · simp [h, Combination.matched_concat, Function.comp_def]
    · simp [h, Combination.matched_concat, Function.comp_def]

/-- Stored rows have cells in all known columns. -/
theorem isSome_cell?_of_mem_parts {part : Part} {step : JoinStep} (h : part ∈ db.parts step)
    {column : String} (hc : column ∈ part.relation.columns) : (part.cell? column).isSome = true := by
  obtain ⟨t, -, hrelation, -, hrow⟩ := mem_parts.mp h
  refine Relation.isSome_cell? ?_ hc
  rw [hrelation]
  exact t.rows_arity _ hrow

end Database

end ProfileQuery
