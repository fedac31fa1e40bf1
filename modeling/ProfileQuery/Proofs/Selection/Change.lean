import ProfileQuery.Proofs.Selection.Sound
import ProfileQuery.Selection.Change

/-!
# Joins as changes

A join that changes a selection in place does all or nothing (`Change.runOn_join`): it either leaves
the selection that the join of selections gives, or fails as that one does and leaves the selection
as it was. Every step that can fail comes before the first one that changes something. A join that
gets through adds to what is there: fields stay at their positions, and so do their names
(`Selection.indexOf?_joinTable`).
-/

namespace ProfileQuery

namespace Change

variable {α β : Type} {change : Change α} {s s' : Selection} {db : Database} {relation : String}
  {columns : List String} {mode : JoinMode}

/-! ## Steps -/

theorem runOn_bind (change : Change α) (next : α → Change β) (s : Selection) :
    (change >>= next).runOn s = match change.runOn s with
      | (.ok a, s') => (next a).runOn s'
      | (.error e, s') => (.error e, s') := by
  simp only [runOn, Outcome.run_bind]
  rcases change.run.run s with ⟨_ | _, _⟩ <;> rfl

/-- Reading the selection gives the selection. -/
theorem runOn_bind_get (next : Selection → Change β) (s : Selection) :
    (get >>= next).runOn s = (next s).runOn s :=
  runOn_bind get next s

theorem runOn_bind_takeData (next : List Row → Change β) (s : Selection) :
    (takeData >>= next).runOn s = (next s.data).runOn { s with data := [] } :=
  runOn_bind takeData next s

/-- Adding fields and putting rows in place is one merge. -/
theorem runOn_addFields_setData (relation : String) (shared : List String) (fields : List Field)
    (data : List Row) (s : Selection) :
    (addFields relation shared fields >>= fun _ => setData data).runOn s =
      (.ok (), s.merge relation shared fields data) :=
  runOn_bind (addFields relation shared fields) _ s

/-- What a change comes to that either leads to a selection or leaves things as they were. -/
def allOrNothing (s : Selection) : Except QueryError Selection → Except QueryError Unit × Selection
  | .ok s' => (.ok (), s')
  | .error e => (.error e, s)

/-- A step that changes nothing is followed by what follows its outcome. -/
theorem runOn_bind_ofOutcome {x : Except QueryError α} {next : α → Change Unit}
    {rest : α → Except QueryError Selection}
    (h : ∀ a, (next a).runOn s = allOrNothing s (rest a)) :
    (ofOutcome x >>= next).runOn s = allOrNothing s (x >>= rest) := by
  rw [runOn_bind]
  cases x with
  | ok a => exact h a
  | error e => rfl

/-! ## Joins -/

/-- A later join takes the rows out only when nothing can fail any more. -/
theorem runOn_joinNext {fields : List Field} :
    (joinNext db relation fields mode).runOn s =
      allOrNothing s (s.joinNext db relation fields mode) := by
  unfold joinNext Selection.joinNext
  rw [runOn_bind_get]
  dsimp only
  cases (s.sharedKeys fields).isEmpty with
  | true => rfl
  | false =>
    simp only [Bool.false_eq_true, if_false]
    refine runOn_bind_ofOutcome fun keys => ?_
    refine runOn_bind_ofOutcome fun rows => ?_
    rw [runOn_bind_get]
    refine runOn_bind_ofOutcome fun positions => ?_
    rw [runOn_bind_takeData, runOn_addFields_setData]
    rfl

/-- A join in place does what the join of selections does, or it fails as that one does and changes
nothing. -/
theorem runOn_join : (join db relation columns mode).runOn s =
    allOrNothing s (s.join db relation columns mode) := by
  unfold join Selection.join
  rw [runOn_bind_get]
  cases s.isJoined relation with
  | true => rfl
  | false =>
    simp only [Bool.false_eq_true, if_false]
    refine runOn_bind_ofOutcome fun r => ?_
    refine runOn_bind_ofOutcome fun fields => ?_
    rw [runOn_bind_get]
    cases s.hasJoins with
    | true => exact runOn_joinNext
    | false =>
      simp only [Bool.false_eq_true, if_false]
      refine runOn_bind_ofOutcome fun data => ?_
      exact runOn_addFields_setData relation [] fields data s

end Change

namespace Selection

open Plan (qualified)

variable {s : Selection} {t : Table} {columns : List String} {mode : JoinMode}

/-! ## What a join adds to -/

theorem name_mem_of_mem_fieldsOf {r : Relation} {f : Field} (hf : f ∈ r.fieldsOf columns) :
    f.name ∈ columns := by
  obtain ⟨c, hmem, hfield⟩ := List.mem_filterMap.mp hf
  exact (Relation.mem_of_field? hfield).2 ▸ hmem

/-- Exactly the relation becomes joined. -/
theorem isJoined_joinTable {relation : String} :
    (s.joinTable t columns mode).isJoined relation = true ↔
      relation = t.relation.name ∨ s.isJoined relation = true := by
  have hjoined : (s.joinTable t columns mode).joined = t.relation.name :: s.joined := by
    unfold joinTable
    split <;> rfl
  simp [isJoined, hjoined]

theorem shown_joinTable : (s.joinTable t columns mode).shown = s.shown := by
  unfold joinTable
  split <;> rfl

/-- The new fields come behind those that are there. -/
theorem Sound.fields_joinTable (h : s.Sound) : (s.joinTable t columns mode).fields =
    s.fields ++ t.relation.fieldsOf (s.addedColumns t.relation columns) := by
  obtain ⟨data, hmerge⟩ := h.joinTable_eq t columns mode
  rw [hmerge, merge]

/-- A name keeps its position, unless it is the qualified name of a column of the join. -/
theorem Sound.indexOf?_joinTable (h : s.Sound) {name : String} {position : Nat}
    (hother : ∀ c ∈ columns, name ≠ qualified t.relation.name c)
    (hname : s.indexOf? name = some position) :
    (s.joinTable t columns mode).indexOf? name = some position := by
  obtain ⟨data, hmerge⟩ := h.joinTable_eq t columns mode
  rw [hmerge, merge, indexOf?, find?_indexShared_of_ne fun c hc => hother c (onColumns_subset hc)]
  refine find?_indexFields_of_some (fun f hf => ?_) hname
  exact hother f.name (addedColumns_subset (name_mem_of_mem_fieldsOf hf))

end Selection

end ProfileQuery
