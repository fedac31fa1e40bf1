import ProfileQuery.Proofs.Execution.Runs

/-!
# Joins by nested loops

A join probes an index of the stored rows with the key cells of each row of the selection. Main
statement: in every selection that joins, filters and projections lead to, this gives the rows that
two nested loops give, in the same order (`Operation.join_eq_nestedLoops`). The outer loop runs over
the rows of the selection and the inner one over the stored rows. Cells are compared as they are, so
missing values are equal, and no cell that is compared or copied lies behind the end of a row.
-/

namespace ProfileQuery

open Operation (run)

namespace Selection

/-- Whether a stored row has the same cells in some columns as a row of the selection has at the
positions of their names. -/
def Meets (s : Selection) (r : Relation) (on : List String) (row stored : Row) : Prop :=
  ∀ c ∈ on, r.cell? c stored = (s.indexOf? c).bind (row[·]?)

instance (s : Selection) (r : Relation) (on : List String) (row stored : Row) :
    Decidable (s.Meets r on row stored) :=
  inferInstanceAs (Decidable (∀ c ∈ on, r.cell? c stored = (s.indexOf? c).bind (row[·]?)))

/-- The rows of the selection, each extended by the stored rows that meet it; of a row that none
meets a left join makes one row with missing values. -/
def nestedLoops (s : Selection) (t : Table) (columns : List String) (mode : JoinMode) : List Row :=
  s.data.flatMap fun row =>
    match t.rows.toList.filter (s.Meets t.relation (s.onColumns t.relation columns) row ·) with
    | [] =>
      match mode with
      | .inner => []
      | .left => [row ++ List.replicate (s.addedColumns t.relation columns).length .null]
    | found => found.map fun stored => row ++ t.cells (s.addedColumns t.relation columns) stored

variable {s : Selection} {t : Table} {columns : List String} {row stored : Row}

/-- In a sound selection every row has a cell in each of the columns that are matched on. -/
theorem Sound.exists_onCell (h : s.Sound) (hrow : row ∈ s.data) {r : Relation} {c : String}
    (hc : c ∈ s.onColumns r columns) :
    ∃ p v, s.indexOf? c = some p ∧ row[p]? = some v := by
  obtain ⟨p, hp⟩ := Option.isSome_iff_exists.mp (mem_onColumns.mp hc).2.2
  have hlt : p < row.length := by
    rw [h.full row hrow]
    exact h.index_lt c p hp
  exact ⟨p, row[p], hp, List.getElem?_eq_getElem hlt⟩

/-- Rows match by their key cells exactly when they meet. -/
theorem Sound.cells_eq_iff_meets (h : s.Sound) (hc : columns ⊆ t.relation.columns)
    (hrow : row ∈ s.data) (hstored : stored ∈ t.rows.toList) :
    t.cells (s.onColumns t.relation columns) stored =
        s.cellsAt (s.onColumns t.relation columns) row ↔
      s.Meets t.relation (s.onColumns t.relation columns) row stored := by
  rw [Table.cells, cellsAt, Row.select, List.map_map, List.map_inj_left, Meets]
  refine forall₂_congr fun c hon => ?_
  obtain ⟨p, v, hp, hv⟩ := h.exists_onCell hrow hon
  obtain ⟨w, hw⟩ := Option.isSome_iff_exists.mp
    (Relation.isSome_cell? (t.rows_arity stored (by simpa using hstored))
      (hc (onColumns_subset hon)))
  simp [hp, hv, hw]

/-- The extensions of the rows are the rows of the nested loops. -/
theorem Sound.flatMap_extensions (h : s.Sound) (hc : columns ⊆ t.relation.columns)
    (mode : JoinMode) :
    s.data.flatMap (s.extensions t columns mode) = s.nestedLoops t columns mode := by
  refine List.flatMap_congr fun row hrow => ?_
  have hmatches : s.matchingRows t columns row =
      t.rows.toList.filter (s.Meets t.relation (s.onColumns t.relation columns) row ·) :=
    List.filter_congr fun stored hstored =>
      decide_eq_decide.mpr (h.cells_eq_iff_meets hc hrow hstored)
  rw [← hmatches]
  cases hfound : s.matchingRows t columns row with
  | nil =>
    rw [extensions, hfound]
    cases mode <;> rfl
  | cons first rest =>
    rw [extensions_of_matchingRows_ne_nil (by simp [hfound]), hfound]

end Selection

namespace Operation

variable {db : Database} {relation : String} {columns : List String} {mode : JoinMode}
  {s' : Selection}

/-- A join that gets through has the rows of nested loops, whatever has been done to the selection
before; the first join has the stored rows, restricted to the columns. Every column that is asked
for and every column that is matched on has a cell in all rows, and a left join pads with one
missing value for each new field. -/
theorem join_eq_nestedLoops (db : Database) (ops : List Operation)
    (h : (run db ops).join db relation columns mode = .ok s') :
    ∃ t, db.table? relation = some t ∧ columns ⊆ t.relation.columns ∧
      (∀ stored ∈ t.rows, ∀ c ∈ columns, (t.relation.cell? c stored).isSome = true) ∧
      ((run db ops).hasJoins = false → s'.data = t.rows.toList.map (t.cells columns)) ∧
      ((run db ops).hasJoins = true →
        s'.data = (run db ops).nestedLoops t columns mode ∧
        (∀ row ∈ (run db ops).data, ∀ c ∈ (run db ops).onColumns t.relation columns,
          ∃ p v, (run db ops).indexOf? c = some p ∧ row[p]? = some v) ∧
        s'.fields.length = (run db ops).fields.length +
          ((run db ops).addedColumns t.relation columns).length) := by
  have hsound := sound_run db ops
  obtain ⟨-, t, ht, hc, rfl⟩ := Selection.of_join_eq_ok h
  refine ⟨t, ht, hc, fun stored hstored c hmem =>
    Relation.isSome_cell? (t.rows_arity stored hstored) (hc hmem), fun hjoins => ?_,
    fun hjoins => ⟨?_, fun row hrow c hon => hsound.exists_onCell hrow hon,
      Selection.length_fields_joinTable hjoins hc⟩⟩
  · rw [Selection.joinTable, if_neg (by simp [hjoins])]
    rfl
  · rw [Selection.joinTable, if_pos hjoins, ← hsound.flatMap_extensions hc mode]
    rfl

/-- The visits of all people, with a missing day for those without a visit. -/
theorem join_eq_nestedLoops_visits : ∃ s',
    (run .visits [.join "person" ["age", "id"] .inner]).join .visits "visit" ["day", "id"] .left =
        .ok s' ∧
      s'.data = [[.integer 40, .integer 1, .null], [.integer 50, .integer 2, .integer 7],
        [.integer 50, .integer 2, .integer 7], [.null, .integer 3, .null]] := by
  obtain ⟨s', hs'⟩ := Outcome.exists_of_isOk (show ((run .visits
    [.join "person" ["age", "id"] .inner]).join .visits "visit" ["day", "id"] .left).isOk = true
    by cbv)
  obtain ⟨t, ht, -, -, -, hlater⟩ := join_eq_nestedLoops _ _ hs'
  have htable : Database.visits.table? "visit" = some Database.visits.tables[1] := by cbv
  obtain rfl := Option.some.inj (ht.symm.trans htable)
  refine ⟨s', hs', (hlater (by cbv)).1.trans ?_⟩
  cbv

end Operation

end ProfileQuery
