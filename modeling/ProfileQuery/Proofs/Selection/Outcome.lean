import ProfileQuery.Proofs.Selection.Join

/-!
# The outcome of a join

What a join comes to, for any selection, relation and columns: the first of four faults that applies
(`joinFault?`), or the selection with the relation joined (`joinTable`). Which one it is depends on
the names only. The rows of the selection play a part only in the rows of the result, where each of
them is replaced by its extensions.
-/

namespace ProfileQuery.Selection

open Plan (qualified)

/-- The selection with other rows. -/
def withData (s : Selection) (data : List Row) : Selection := { s with data }

/-- What a join fails with: the relation is joined already, it is unknown, it lacks a column, or it
has no key in common with what is joined. -/
def joinFault? (s : Selection) (schema : Schema) (relation : String) (columns : List String) :
    Option QueryError :=
  if s.isJoined relation then some (.duplicateJoin relation)
  else
    match schema.relation? relation with
    | none => some (.unknownRelation relation)
    | some r =>
      match columns.find? (· ∉ r.columns) with
      | some c => some (.undefinedColumn (qualified r.name c))
      | none =>
        if s.hasJoins && (s.onColumns r columns).isEmpty then some (.noSharedKeys relation)
        else none

/-- The rows that a join makes of one row. -/
def extensions (s : Selection) (t : Table) (columns : List String) (mode : JoinMode) (row : Row) :
    List Row :=
  extendRow mode (s.addedColumns t.relation columns).length row
    ((s.matchingRows t columns row).map (t.cells (s.addedColumns t.relation columns)))

/-- The selection after a join. -/
def joinTable (s : Selection) (t : Table) (columns : List String) (mode : JoinMode) : Selection :=
  if s.hasJoins then
    s.merge t.relation.name (s.onColumns t.relation columns)
      (t.relation.fieldsOf (s.addedColumns t.relation columns))
      (s.data.flatMap (s.extensions t columns mode))
  else
    s.merge t.relation.name [] (t.relation.fieldsOf columns) (t.rows.toList.map (t.cells columns))

variable {s s' : Selection} {db : Database} {t : Table} {relation : String} {columns : List String}
  {mode : JoinMode} {row extended : Row}

/-! ## Faults -/

theorem find?_unknown_eq_none {r : Relation} :
    columns.find? (· ∉ r.columns) = none ↔ columns ⊆ r.columns := by
  simp [List.find?_eq_none, List.subset_def]

/-- The first unknown column is the one that is reported. -/
theorem requestedFields_eq_error {r : Relation} {c : String}
    (h : columns.find? (· ∉ r.columns) = some c) :
    requestedFields r columns = .error (.undefinedColumn (qualified r.name c)) := by
  induction columns with
  | nil => cases h
  | cons first columns ih =>
    rw [requestedFields, List.mapM_cons]
    cases hfield : r.field? first with
    | none =>
      have hunknown : first ∉ r.columns := by
        rw [← r.isSome_field? first, hfield]
        simp
      obtain rfl : first = c := by simpa [hunknown] using h
      rfl
    | some field =>
      have hknown : first ∈ r.columns := (r.isSome_field? first).mp (by rw [hfield]; rfl)
      rw [Outcome.bind_ok]
      rw [List.find?_cons_of_neg (by simpa using hknown)] at h
      have hrest := ih h
      rw [requestedFields] at hrest
      rw [hrest]
      rfl

/-- A join without a fault joins a table of which it has all columns. -/
theorem join_of_no_fault (h : s.joinFault? db.schema relation columns = none) (mode : JoinMode) :
    ∃ t, db.table? relation = some t ∧ columns ⊆ t.relation.columns ∧
      s.join db relation columns mode = .ok (s.joinTable t columns mode) := by
  unfold joinFault? at h
  split at h
  · cases h
  · next hnew =>
    rw [Bool.not_eq_true] at hnew
    rw [Database.relation?_schema] at h
    cases ht : db.table? relation with
    | none => simp [ht] at h
    | some t =>
      simp only [ht, Option.map_some] at h
      split at h
      · cases h
      · next hunknown =>
        have hc := find?_unknown_eq_none.mp hunknown
        have hname := Database.name_of_table? ht
        refine ⟨t, rfl, hc, ?_⟩
        unfold joinTable
        cases hjoins : s.hasJoins with
        | false => rw [join_first ht hc hnew hjoins, hname]; rfl
        | true =>
          have hon : s.onColumns t.relation columns ≠ [] := by simpa [hjoins] using h
          rw [join_next ht hc hnew hjoins hon, hname]
          rfl

/-- A join fails with its fault. -/
theorem join_of_fault {e : QueryError} (h : s.joinFault? db.schema relation columns = some e) :
    s.join db relation columns mode = .error e := by
  unfold joinFault? at h
  split at h
  · next hjoined =>
    obtain rfl := Option.some.inj h
    simp only [join, hjoined, if_true]
    rfl
  · next hnew =>
    rw [Bool.not_eq_true] at hnew
    rw [Database.relation?_schema] at h
    cases ht : db.table? relation with
    | none =>
      obtain rfl : QueryError.unknownRelation relation = e := by simpa [ht] using h
      have hr : db.schema.relation relation = .error (.unknownRelation relation) := by
        rw [Schema.relation, Database.relation?_schema, ht]
        rfl
      simp only [join, hnew, hr, Bool.false_eq_true, if_false]
      rfl
    | some t =>
      simp only [ht, Option.map_some] at h
      split at h
      · next c hunknown =>
        obtain rfl := Option.some.inj h
        have hr : db.schema.relation relation = .ok t.relation :=
          Database.relation_schema_eq_ok.mpr ⟨t, ht, rfl⟩
        simp only [join, hnew, hr, requestedFields_eq_error hunknown, Outcome.bind_ok,
          Bool.false_eq_true, if_false]
        rfl
      · next hunknown =>
        have hc := find?_unknown_eq_none.mp hunknown
        split at h
        · next hunlinked =>
          obtain rfl := Option.some.inj h
          obtain ⟨hjoins, hon⟩ := Bool.and_eq_true_iff.mp hunlinked
          exact join_noSharedKeys ht hc hnew hjoins (List.isEmpty_iff.mp hon)
        · cases h

/-- What is known of a join that got through. -/
theorem of_join_eq_ok (h : s.join db relation columns mode = .ok s') :
    s.joinFault? db.schema relation columns = none ∧ ∃ t, db.table? relation = some t ∧
      columns ⊆ t.relation.columns ∧ s' = s.joinTable t columns mode := by
  cases hfault : s.joinFault? db.schema relation columns with
  | some e =>
    rw [join_of_fault hfault] at h
    cases h
  | none =>
    obtain ⟨t, ht, hc, hjoin⟩ := join_of_no_fault hfault mode
    exact ⟨rfl, t, ht, hc, Except.ok.inj (h.symm.trans hjoin)⟩

/-- A join that got through has joined the table of the relation. -/
theorem eq_joinTable_of_join (ht : db.table? relation = some t)
    (h : s.join db relation columns mode = .ok s') : s' = s.joinTable t columns mode := by
  obtain ⟨-, t', ht', -, heq⟩ := of_join_eq_ok h
  obtain rfl := Option.some.inj (ht.symm.trans ht')
  exact heq

/-! ## Rows -/

theorem hasJoins_joinTable : (s.joinTable t columns mode).hasJoins = true := by
  unfold joinTable
  split <;> rfl

/-- Other rows have other extensions, and nothing else changes. -/
theorem joinTable_withData (hjoins : s.hasJoins = true) (data : List Row) :
    (s.withData data).joinTable t columns mode =
      (s.joinTable t columns mode).withData (data.flatMap (s.extensions t columns mode)) := by
  have hjoins' : (s.withData data).hasJoins = true := hjoins
  rw [joinTable, joinTable, if_pos hjoins, if_pos hjoins']
  rfl

/-- Other rows are joined like those that are there. -/
theorem join_withData (hjoins : s.hasJoins = true) (ht : db.table? relation = some t)
    (h : s.join db relation columns mode = .ok s') (data : List Row) :
    (s.withData data).join db relation columns mode =
      .ok (s'.withData (data.flatMap (s.extensions t columns mode))) := by
  have hfault : (s.withData data).joinFault? db.schema relation columns = none :=
    (of_join_eq_ok h).1
  obtain ⟨t', ht', -, hjoin⟩ := join_of_no_fault hfault mode
  obtain rfl := Option.some.inj (ht.symm.trans ht')
  rw [hjoin, joinTable_withData hjoins, eq_joinTable_of_join ht h]

theorem extensions_of_matchingRows_eq_nil (h : s.matchingRows t columns row = []) :
    s.extensions t columns .left row =
      [row ++ List.replicate (s.addedColumns t.relation columns).length .null] := by
  rw [extensions, h]
  rfl

/-- A row that matches is extended by the cells of each match. -/
theorem extensions_of_matchingRows_ne_nil (h : s.matchingRows t columns row ≠ []) :
    s.extensions t columns mode row = (s.matchingRows t columns row).map fun stored =>
      row ++ t.cells (s.addedColumns t.relation columns) stored := by
  rw [extensions]
  cases hrows : s.matchingRows t columns row with
  | nil => exact absurd hrows h
  | cons stored rest => simp [extendRow]

/-- Inner joins drop the rows without a match. -/
theorem extensions_inner (row : Row) :
    s.extensions t columns .inner row = (s.matchingRows t columns row).map fun stored =>
      row ++ t.cells (s.addedColumns t.relation columns) stored := by
  by_cases h : s.matchingRows t columns row = []
  · rw [extensions, h]
    rfl
  · exact extensions_of_matchingRows_ne_nil h

/-- Left joins drop no row. -/
theorem extensions_left_ne_nil : s.extensions t columns .left row ≠ [] := by
  by_cases h : s.matchingRows t columns row = []
  · rw [extensions_of_matchingRows_eq_nil h]
    simp
  · rw [extensions_of_matchingRows_ne_nil h]
    simpa using h

/-- An extension adds a cell for each of the added columns behind those of the row. -/
theorem of_mem_extensions (h : extended ∈ s.extensions t columns mode row) :
    ∃ cells, extended = row ++ cells ∧
      cells.length = (s.addedColumns t.relation columns).length := by
  by_cases hrows : s.matchingRows t columns row = []
  · rw [extensions, hrows] at h
    cases mode with
    | inner => cases h
    | left => exact ⟨_, List.mem_singleton.mp h, List.length_replicate⟩
  · rw [extensions_of_matchingRows_ne_nil hrows] at h
    obtain ⟨stored, -, rfl⟩ := List.mem_map.mp h
    exact ⟨_, rfl, t.length_cells _ _⟩

/-- Every row has a cell for each field. -/
def Full (s : Selection) : Prop :=
  ∀ row ∈ s.data, row.length = s.fields.length

theorem length_fieldsOf {r : Relation} (hc : columns ⊆ r.columns) :
    (r.fieldsOf columns).length = columns.length := by
  rw [← List.length_map Field.name, map_name_fieldsOf hc]

theorem length_fields_joinTable (hjoins : s.hasJoins = true) (hc : columns ⊆ t.relation.columns) :
    (s.joinTable t columns mode).fields.length =
      s.fields.length + (s.addedColumns t.relation columns).length := by
  rw [joinTable, if_pos hjoins, merge, List.length_append,
    length_fieldsOf fun _ hmem => hc (addedColumns_subset hmem)]

/-- A join keeps rows full. -/
theorem Full.joinTable (h : s.Full) (hempty : s.hasJoins = false → s.fields = [])
    (hc : columns ⊆ t.relation.columns) : (s.joinTable t columns mode).Full := by
  intro extended hextended
  cases hjoins : s.hasJoins with
  | true =>
    rw [Selection.joinTable, if_pos hjoins, merge] at hextended
    obtain ⟨row, hrow, hmem⟩ := List.mem_flatMap.mp hextended
    obtain ⟨cells, rfl, hcells⟩ := of_mem_extensions hmem
    rw [length_fields_joinTable hjoins hc, List.length_append, h row hrow, hcells]
  | false =>
    have hlater : ¬ s.hasJoins = true := by simp [hjoins]
    rw [Selection.joinTable, if_neg hlater, merge] at hextended ⊢
    obtain ⟨stored, -, rfl⟩ := List.mem_map.mp hextended
    rw [hempty hjoins, List.nil_append, length_fieldsOf hc]
    exact t.length_cells _ _

end ProfileQuery.Selection
