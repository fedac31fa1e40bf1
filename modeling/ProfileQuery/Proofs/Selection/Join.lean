import ProfileQuery.Proofs.Store.Database
import ProfileQuery.Selection.Join

/-!
# What a join returns

The join of a relation, stated without the key index: the columns asked for fall into those on which
the relation is matched and those that are new, and every row of the selection is extended by the
stored rows that agree with it on the first, in stored order. A join of a known relation with known
columns fails only when the relation is joined already or when there is nothing to match it on.
-/

namespace ProfileQuery

/-- The cells of a stored row in some columns of its relation. -/
def Table.cells (t : Table) (columns : List String) (row : Row) : Row :=
  columns.map fun c => (t.relation.cell? c row).getD .null

theorem Table.length_cells (t : Table) (columns : List String) (row : Row) :
    (t.cells columns row).length = columns.length :=
  List.length_map _

/-- The fields of some columns. -/
def Relation.fieldsOf (r : Relation) (columns : List String) : List Field :=
  columns.filterMap r.field?

theorem Relation.fieldsOf_columns (r : Relation) : r.fieldsOf r.columns = r.fields := by
  have hfound : ∀ f ∈ r.fields, (r.field? ∘ Field.name) f = some f := fun f hf => r.field?_name hf
  rw [fieldsOf, columns, List.filterMap_map, List.filterMap_congr hfound, List.filterMap_some]

theorem Table.cells_columns (t : Table) {row : Row} (hrow : row.length = t.relation.arity) :
    t.cells t.relation.columns row = row := by
  refine List.ext_getElem (by rw [t.length_cells, hrow, Relation.columns, List.length_map]; rfl)
    fun i _ hi => ?_
  have hlt : i < t.relation.fields.length := Nat.lt_of_lt_of_eq hi hrow
  simp [cells, Relation.columns, Relation.cell?, Relation.fieldIndex?,
    t.relation.findIdx?_name hlt, hi]

namespace Selection

/-- The columns on which a relation is matched: keys that the selection already has. -/
def onColumns (s : Selection) (r : Relation) (columns : List String) : List String :=
  columns.filter fun c => c ∈ r.keys ∧ (s.indexOf? c).isSome

/-- The columns that a relation adds to a selection. -/
def addedColumns (s : Selection) (r : Relation) (columns : List String) : List String :=
  columns.filter (· ∉ s.onColumns r columns)

/-- The cells of a row at the positions of some names. -/
def cellsAt (s : Selection) (names : List String) (row : Row) : Row :=
  Row.select (names.map fun name => (s.indexOf? name).getD 0) row

/-- The stored rows that match a row of the selection, in stored order. -/
def matchingRows (s : Selection) (t : Table) (columns : List String) (row : Row) : List Row :=
  t.rows.toList.filter fun stored =>
    t.cells (s.onColumns t.relation columns) stored = s.cellsAt (s.onColumns t.relation columns) row

/-- The rows of a join by nested loops. -/
def joinedRows (s : Selection) (t : Table) (columns : List String) (mode : JoinMode) : List Row :=
  let added := s.addedColumns t.relation columns
  s.data.flatMap fun row =>
    extendRow mode added.length row ((s.matchingRows t columns row).map (t.cells added))

variable {s : Selection} {db : Database} {t : Table} {relation : String} {columns : List String}
  {mode : JoinMode}

section Fields

variable {r : Relation}

theorem requestedFields_eq_ok (hc : columns ⊆ r.columns) :
    requestedFields r columns = .ok (r.fieldsOf columns) := by
  rw [requestedFields, Outcome.mapM_eq_ok]
  induction columns with
  | nil => exact .nil
  | cons c columns ih =>
    obtain ⟨f, hf⟩ :=
      Option.isSome_iff_exists.mp ((r.isSome_field? c).mpr (hc List.mem_cons_self))
    rw [Relation.fieldsOf, List.filterMap_cons, hf]
    exact .cons (by simp [hf]) (ih fun _ hmem => hc (List.mem_cons_of_mem _ hmem))

theorem map_name_fieldsOf (hc : columns ⊆ r.columns) :
    (r.fieldsOf columns).map (·.name) = columns := by
  induction columns with
  | nil => rfl
  | cons c columns ih =>
    obtain ⟨f, hf⟩ :=
      Option.isSome_iff_exists.mp ((r.isSome_field? c).mpr (hc List.mem_cons_self))
    have hrest := ih fun _ hmem => hc (List.mem_cons_of_mem _ hmem)
    rw [Relation.fieldsOf] at hrest ⊢
    rw [List.filterMap_cons, hf]
    simp [hrest, (Relation.mem_of_field? hf).2]

/-- Fields picked by their names are the fields of the names picked. -/
theorem filter_fieldsOf (p : String → Bool) :
    (r.fieldsOf columns).filter (fun f => p f.name) = r.fieldsOf (columns.filter p) := by
  induction columns with
  | nil => rfl
  | cons c columns ih =>
    rw [Relation.fieldsOf, Relation.fieldsOf] at ih ⊢
    cases hf : r.field? c with
    | none =>
      by_cases hp : p c = true <;> simp [hf, hp, ih]
    | some f =>
      have hname := (Relation.mem_of_field? hf).2
      by_cases hp : p c = true <;> simp [hf, hp, ih, hname]

theorem sharedKeys_fieldsOf (hc : columns ⊆ r.columns) :
    s.sharedKeys (r.fieldsOf columns) = s.onColumns r columns := by
  have onlyKeys : (r.fieldsOf columns).filter (fun f => f.isKey && (s.indexOf? f.name).isSome) =
      (r.fieldsOf columns).filter
        (fun f => decide (f.name ∈ r.keys ∧ (s.indexOf? f.name).isSome = true)) := by
    refine List.filter_congr fun f hf => ?_
    obtain ⟨c, -, hfield⟩ := List.mem_filterMap.mp hf
    have hname := (Relation.mem_of_field? hfield).2
    subst hname
    have hkey := Relation.mem_keys_iff hfield
    by_cases h : f.isKey = true <;> simp [h, hkey]
  rw [sharedKeys, onlyKeys,
    filter_fieldsOf fun c => decide (c ∈ r.keys ∧ (s.indexOf? c).isSome = true)]
  exact map_name_fieldsOf fun c hmem => hc (List.mem_of_mem_filter hmem)

theorem onColumns_subset : s.onColumns r columns ⊆ columns :=
  fun _ hmem => List.mem_of_mem_filter hmem

theorem addedColumns_subset : s.addedColumns r columns ⊆ columns :=
  fun _ hmem => List.mem_of_mem_filter hmem

theorem mem_onColumns {c : String} :
    c ∈ s.onColumns r columns ↔ c ∈ columns ∧ c ∈ r.keys ∧ (s.indexOf? c).isSome = true := by
  simp [onColumns]

theorem mem_addedColumns {c : String} :
    c ∈ s.addedColumns r columns ↔ c ∈ columns ∧ c ∉ s.onColumns r columns := by
  simp [addedColumns]

theorem positions_onColumns :
    s.positions (s.onColumns r columns) =
      .ok ((s.onColumns r columns).map fun name => (s.indexOf? name).getD 0) := by
  refine Outcome.mapM_ok_of_forall fun c hmem => ?_
  obtain ⟨i, hi⟩ := Option.isSome_iff_exists.mp (mem_onColumns.mp hmem).2.2
  simp [hi]

end Fields

/-! ## Success and failure -/

theorem join_first (ht : db.table? relation = some t) (hc : columns ⊆ t.relation.columns)
    (hnew : s.isJoined relation = false) (hfirst : s.hasJoins = false) :
    s.join db relation columns mode =
      .ok (s.merge relation [] (t.relation.fieldsOf columns)
        (t.rows.toList.map (t.cells columns))) := by
  have hr : db.schema.relation relation = .ok t.relation :=
    Database.relation_schema_eq_ok.mpr ⟨t, ht, rfl⟩
  simp only [join, hnew, hr, requestedFields_eq_ok hc, hfirst, Database.selectFrom_eq_ok ht hc,
    Outcome.bind_ok, Bool.false_eq_true, if_false]
  rfl

/-- Nothing to match a relation on is the one failure of a later join. -/
theorem join_noSharedKeys (ht : db.table? relation = some t) (hc : columns ⊆ t.relation.columns)
    (hnew : s.isJoined relation = false) (hlater : s.hasJoins = true)
    (hon : s.onColumns t.relation columns = []) :
    s.join db relation columns mode = .error (.noSharedKeys relation) := by
  have hr : db.schema.relation relation = .ok t.relation :=
    Database.relation_schema_eq_ok.mpr ⟨t, ht, rfl⟩
  simp only [join, hnew, hr, requestedFields_eq_ok hc, hlater, joinNext, sharedKeys_fieldsOf hc,
    hon, Outcome.bind_ok, Bool.false_eq_true, if_false, if_true, List.isEmpty_nil]
  rfl

/-- A later join extends every row by the stored rows that match it. -/
theorem join_next (ht : db.table? relation = some t) (hc : columns ⊆ t.relation.columns)
    (hnew : s.isJoined relation = false) (hlater : s.hasJoins = true)
    (hon : s.onColumns t.relation columns ≠ []) :
    s.join db relation columns mode =
      .ok (s.merge relation (s.onColumns t.relation columns)
        (t.relation.fieldsOf (s.addedColumns t.relation columns))
        (s.joinedRows t columns mode)) := by
  have hr : db.schema.relation relation = .ok t.relation :=
    Database.relation_schema_eq_ok.mpr ⟨t, ht, rfl⟩
  -- the fields that are not matched on are those of the added columns
  have hadd : (t.relation.fieldsOf columns).filter
      (fun f => !(s.onColumns t.relation columns).contains f.name) =
      t.relation.fieldsOf (s.addedColumns t.relation columns) := by
    rw [filter_fieldsOf fun c => !(s.onColumns t.relation columns).contains c, addedColumns]
    simp
  have haddc : s.addedColumns t.relation columns ⊆ t.relation.columns :=
    fun _ hmem => hc (addedColumns_subset hmem)
  have honc : s.onColumns t.relation columns ⊆ t.relation.columns :=
    fun _ hmem => hc (onColumns_subset hmem)
  have hkeys := Database.selectFrom_eq_ok ht honc
  have hrows := Database.selectFrom_eq_ok ht haddc
  have hnonempty : (s.onColumns t.relation columns).isEmpty = false := by simpa using hon
  have hwidth := congrArg List.length (map_name_fieldsOf haddc)
  rw [List.length_map] at hwidth
  simp only [join, hnew, hr, requestedFields_eq_ok hc, hlater, joinNext, sharedKeys_fieldsOf hc,
    hnonempty, hadd, map_name_fieldsOf haddc, hkeys, hrows, positions_onColumns, hwidth,
    Outcome.bind_ok, Bool.false_eq_true, if_false, if_true]
  refine congrArg (fun data => Except.ok (s.merge relation _ _ data)) ?_
  refine List.flatMap_congr fun row _ => ?_
  rw [KeyIndex.find_ofRows, List.zip_map', List.filter_map, List.map_map]
  rfl

end Selection

end ProfileQuery
