import ProfileQuery.Plan.Basic
import ProfileQuery.Proofs.Outcome

/-!
# Names that are refused

Before it comes to the order of the joins, planning fails only for the names that a query uses
(`Refused`): a relation or a column that is unknown, a relation that is named twice, or relations
that cannot be connected.
-/

namespace ProfileQuery

open Outcome (FailsOnly)

/-- An error that is about names. -/
inductive Refused : QueryError → Prop
  | undefinedColumn (column : String) : Refused (.undefinedColumn column)
  | unknownRelation (relation : String) : Refused (.unknownRelation relation)
  | duplicateJoin (relation : String) : Refused (.duplicateJoin relation)
  | noPivotRelation (relations : List String) : Refused (.noPivotRelation relations)

theorem Schema.relation_refused (s : Schema) (name : String) :
    FailsOnly Refused (s.relation name) := by
  unfold Schema.relation
  split
  · exact .ok _
  · exact .error (.unknownRelation _)

namespace Plan

variable {s : Schema} {named : List String}

theorem resolve_refused (name : String) : FailsOnly Refused (resolve s named name) := by
  unfold resolve
  split
  · exact .ok _
  · split
    · exact .ok _
    · exact .error (.undefinedColumn _)

theorem projectRelations_refused (keys relations : List String) :
    FailsOnly Refused (projectRelations s keys relations) := by
  induction relations generalizing keys with
  | nil => exact .ok []
  | cons relation relations ih =>
    refine (s.relation_refused relation).bind fun r _ => ?_
    exact (ih _).bind fun back _ => .ok _

theorem resolveProjection_refused (q : Query.Select) :
    FailsOnly Refused (resolveProjection q s) := by
  unfold resolveProjection
  split
  · exact projectRelations_refused [] q.relations
  · exact .mapM fun name _ => resolve_refused name

theorem checkNamed_refused (seen named : List String) :
    FailsOnly Refused (checkNamed s seen named) := by
  induction named generalizing seen with
  | nil => exact .ok ()
  | cons relation relations ih =>
    unfold checkNamed
    split
    · exact .error (.duplicateJoin _)
    · exact (s.relation_refused relation).bind fun _ _ => ih _

theorem locate_refused (name : String) : FailsOnly Refused (locate s name) := by
  unfold locate
  split
  · exact .error (.undefinedColumn _)
  · refine (s.relation_refused _).bind fun r _ => ?_
    split
    · exact .error (.undefinedColumn _)
    · exact .ok _

theorem addColumns_refused (seen : List String) (draft : Draft) (names : List String) :
    FailsOnly Refused (addColumns s seen draft names) := by
  induction names generalizing seen draft with
  | nil => exact .ok draft
  | cons name names ih =>
    unfold addColumns
    split
    · exact ih seen draft
    · exact (locate_refused name).bind fun _ _ => ih _ _

theorem pivotRelations_refused (relations : List String) (map : KeyMap) :
    FailsOnly Refused (pivotRelations relations map) := by
  unfold pivotRelations
  split
  · exact .ok _
  · exact .error (.noPivotRelation _)

/-- Planning joins fails for the names, or because no order is found for the steps that were
collected. -/
theorem planJoins_eq_error {projection conditionColumns named : List String} {e : QueryError}
    (h : planJoins s projection conditionColumns named = .error e) :
    Refused e ∨ ∃ draft pivots, checkNamed s [] named = .ok () ∧
      addColumns s [] ⟨named, []⟩ (projection ++ conditionColumns) = .ok draft ∧
      pivotRelations draft.relations (keyMap s) = .ok pivots ∧
      orderSteps (keyMap s) none (addKeys (keyMap s) (projection ++ conditionColumns)
        (draft.relations ++ pivots) draft.steps) = .error e := by
  unfold planJoins at h
  rcases Outcome.bind_eq_error.mp h with hnamed | ⟨_, hnamed, h⟩
  · exact .inl (checkNamed_refused _ _ _ hnamed)
  rcases Outcome.bind_eq_error.mp h with hdraft | ⟨draft, hdraft, h⟩
  · exact .inl (addColumns_refused _ _ _ _ hdraft)
  rcases Outcome.bind_eq_error.mp h with hpivots | ⟨pivots, hpivots, horder⟩
  · exact .inl (pivotRelations_refused _ _ _ hpivots)
  · exact .inr ⟨draft, pivots, hnamed, hdraft, hpivots, horder⟩

end Plan

end ProfileQuery
