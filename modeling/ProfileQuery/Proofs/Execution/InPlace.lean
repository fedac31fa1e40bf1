import ProfileQuery.Proofs.Execution.NestedLoops
import ProfileQuery.Proofs.Selection.Change

/-!
# Runs in place

The selections that joins, filters and projections lead to are the same when the joins change them in
place (`Operation.apply_join`). Main statement: on each of them a join fails exactly with the first of
four faults that applies, and leaves the fields, the names, the rows, the columns that are shown and
the joined relations as they were; without a fault it gets through, and adds to what is there
(`Operation.runOn_join_run`).
-/

namespace ProfileQuery.Operation

open Plan (qualified)

variable {s : Selection}

/-- A join has the effect of the join in place. -/
theorem apply_join (db : Database) (relation : String) (columns : List String) (mode : JoinMode)
    (s : Selection) : (join relation columns mode).apply db s =
      ((Change.join db relation columns mode).runOn s).2 := by
  rw [Change.runOn_join, apply, outcome]
  cases s.join db relation columns mode <;> rfl

/-- Whatever has been done to a selection, a join in place fails exactly when there is a fault: the
relation is joined already; or it is unknown; or it lacks a column, of which the first is reported;
or something is joined already and no column that is asked for is a key whose bare name is known. A
join that fails changes nothing. One that does not fail finds a cell wherever it reads one, and it
makes the one relation joined; fields and names keep their positions, and the columns that are shown
stay. -/
theorem runOn_join_run (db : Database) (ops : List Operation) (relation : String)
    (columns : List String) (mode : JoinMode) :
    match (run db ops).joinFault? db.schema relation columns with
    | some e => (Change.join db relation columns mode).runOn (run db ops) = (.error e, run db ops)
    | none => ∃ t s', db.table? relation = some t ∧ columns ⊆ t.relation.columns ∧
        (∀ row ∈ (run db ops).data, ∀ c ∈ (run db ops).onColumns t.relation columns,
          ∃ p v, (run db ops).indexOf? c = some p ∧ row[p]? = some v) ∧
        (Change.join db relation columns mode).runOn (run db ops) = (.ok (), s') ∧
        (run db ops).join db relation columns mode = .ok s' ∧
        (∀ other, s'.isJoined other = true ↔
          other = relation ∨ (run db ops).isJoined other = true) ∧
        s'.fields = (run db ops).fields ++
          t.relation.fieldsOf ((run db ops).addedColumns t.relation columns) ∧
        (∀ name p, (∀ c ∈ columns, name ≠ qualified relation c) →
          (run db ops).indexOf? name = some p → s'.indexOf? name = some p) ∧
        s'.shown = (run db ops).shown := by
  have hsound := sound_run db ops
  have hrun : (Change.join db relation columns mode).runOn (run db ops) =
      Change.allOrNothing (run db ops) ((run db ops).join db relation columns mode) :=
    Change.runOn_join
  split
  · next e hfault => rw [hrun, Selection.join_of_fault hfault, Change.allOrNothing]
  · next hfault =>
    obtain ⟨t, ht, hc, hjoin⟩ := Selection.join_of_no_fault hfault mode
    obtain rfl := Database.name_of_table? ht
    refine ⟨t, _, ht, hc, fun row hrow c hon => hsound.exists_onCell hrow hon, ?_, hjoin,
      fun other => Selection.isJoined_joinTable, hsound.fields_joinTable,
      fun name p hother hname => hsound.indexOf?_joinTable hother hname,
      Selection.shown_joinTable⟩
    rw [hrun, hjoin, Change.allOrNothing]

end ProfileQuery.Operation
