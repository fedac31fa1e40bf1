import Mathlib.Data.List.Nodup
import ProfileQuery.Proofs.Outcome
import ProfileQuery.Store.Database

/-!
# Reading tables

A column of a relation is known exactly when one of its fields has the name, and then every stored
row has a cell in it. What is selected from a table is stated in these terms, without positions.
-/

namespace ProfileQuery

theorem Row.select_range (row : Row) : Row.select (List.range row.length) row = row := by
  refine List.ext_getElem (by simp [select]) fun i _ hi => ?_
  simp [select, hi]

namespace Relation

/-- The names of the columns. -/
def columns (r : Relation) : List String := r.fields.map (·.name)

/-- The cell of a row in a column of its relation. -/
def cell? (r : Relation) (column : String) (row : Row) : Option Value :=
  (r.fieldIndex? column).bind (row[·]?)

theorem isSome_fieldIndex? (r : Relation) (column : String) :
    (r.fieldIndex? column).isSome = true ↔ column ∈ r.columns := by
  simp [fieldIndex?, columns]

theorem isSome_field? (r : Relation) (column : String) :
    (r.field? column).isSome = true ↔ column ∈ r.columns := by
  simp [field?, columns]

theorem mem_of_field? {r : Relation} {column : String} {f : Field} (h : r.field? column = some f) :
    f ∈ r.fields ∧ f.name = column :=
  ⟨List.mem_of_find?_eq_some h, by simpa using List.find?_some h⟩

/-- The field of a column is the only one with its name. -/
theorem eq_of_field? {r : Relation} {column : String} {f g : Field} (h : r.field? column = some f)
    (hg : g ∈ r.fields) (hname : g.name = column) : g = f := by
  obtain ⟨hf, hfname⟩ := mem_of_field? h
  exact List.inj_on_of_nodup_map r.fields_nodup hg hf (hname.trans hfname.symm)

theorem field?_name (r : Relation) {f : Field} (hf : f ∈ r.fields) : r.field? f.name = some f := by
  obtain ⟨g, hg⟩ :=
    Option.isSome_iff_exists.mp ((r.isSome_field? f.name).mpr (List.mem_map_of_mem hf))
  rw [hg, eq_of_field? hg hf rfl]

/-- Each field is the first of its name. -/
theorem findIdx?_name (r : Relation) {i : Nat} (hi : i < r.fields.length) :
    r.fields.findIdx? (·.name == r.fields[i].name) = some i := by
  rw [List.findIdx?_eq_some_iff_getElem]
  refine ⟨hi, beq_self_eq_true _, fun j hj => ?_⟩
  have hne := List.pairwise_iff_getElem.mp r.fields_nodup j i (by simp; omega) (by simpa using hi) hj
  simpa using hne

theorem mem_keys_iff {r : Relation} {column : String} {f : Field} (h : r.field? column = some f) :
    column ∈ r.keys ↔ f.isKey = true := by
  simp only [keys, List.mem_map, List.mem_filter]
  constructor
  · rintro ⟨g, ⟨hg, hkey⟩, hname⟩
    rwa [← eq_of_field? h hg hname]
  · intro hkey
    obtain ⟨hf, hname⟩ := mem_of_field? h
    exact ⟨f, ⟨hf, hkey⟩, hname⟩

theorem keys_subset_columns (r : Relation) : r.keys ⊆ r.columns := by
  intro column hcolumn
  simp only [keys, List.mem_map, List.mem_filter] at hcolumn
  obtain ⟨f, ⟨hf, -⟩, rfl⟩ := hcolumn
  exact List.mem_map_of_mem hf

theorem keys_nodup (r : Relation) : r.keys.Nodup :=
  r.fields_nodup.sublist (List.filter_sublist.map _)

/-- A row with one cell for each field has a cell in every column. -/
theorem isSome_cell? {r : Relation} {column : String} {row : Row} (hrow : row.length = r.arity)
    (h : column ∈ r.columns) : (r.cell? column row).isSome = true := by
  obtain ⟨i, hi⟩ := Option.isSome_iff_exists.mp ((r.isSome_fieldIndex? column).mpr h)
  have hlt : i < row.length := by
    rw [hrow]
    exact (List.findIdx?_eq_some_iff_findIdx_eq.mp hi).1
  simp [cell?, hi, hlt]

end Relation

namespace Database

theorem name_of_table? {db : Database} {relation : String} {t : Table}
    (h : db.table? relation = some t) : t.relation.name = relation := by
  simpa using List.find?_some h

theorem mem_of_table? {db : Database} {relation : String} {t : Table}
    (h : db.table? relation = some t) : t ∈ db.tables :=
  List.mem_of_find?_eq_some h

/-- A relation has one table only. -/
theorem eq_of_table? {db : Database} {relation : String} {t u : Table}
    (ht : db.table? relation = some t) (hu : u ∈ db.tables) (hname : u.relation.name = relation) :
    u = t :=
  List.inj_on_of_nodup_map db.tables_nodup hu (mem_of_table? ht)
    (hname.trans (name_of_table? ht).symm)

/-- Every table is found under the name of its relation. -/
theorem table?_of_mem {db : Database} {t : Table} (ht : t ∈ db.tables) :
    db.table? t.relation.name = some t := by
  have hfound : (db.table? t.relation.name).isSome = true :=
    List.find?_isSome.mpr ⟨t, ht, by simp⟩
  obtain ⟨u, hu⟩ := Option.isSome_iff_exists.mp hfound
  rw [hu, eq_of_table? hu ht rfl]

/-- Where the tables of two databases are for the same relations, they are found alike. -/
theorem exists_table?_of_forall₂ {R : Table → Table → Prop} {db db' : Database} {relation : String}
    {t : Table} (h : List.Forall₂ R db.tables db'.tables)
    (hR : ∀ t t', R t t' → t'.relation = t.relation) (ht : db.table? relation = some t) :
    ∃ t', db'.table? relation = some t' ∧ R t t' := by
  rw [table?] at ht ⊢
  -- on the tables, compared in pairs
  generalize db.tables = tables at h ht
  generalize db'.tables = tables' at h
  induction h with
  | nil => cases ht
  | @cons u u' rest rest' hu _ ih =>
    rw [List.find?_cons, hR u u' hu]
    rw [List.find?_cons] at ht
    split at ht
    · obtain rfl := Option.some.inj ht
      exact ⟨u', rfl, hu⟩
    · exact ih ht

theorem schema_eq_of_forall₂ {R : Table → Table → Prop} {db db' : Database}
    (h : List.Forall₂ R db.tables db'.tables) (hR : ∀ t t', R t t' → t'.relation = t.relation) :
    db'.schema = db.schema := by
  suffices db'.tables.map (·.relation) = db.tables.map (·.relation) by simp only [schema, this]
  rw [← List.forall₂_eq_eq_eq, List.forall₂_map_left_iff, List.forall₂_map_right_iff]
  exact List.Forall₂.flip (h.imp hR)

theorem relation?_schema (db : Database) (relation : String) :
    db.schema.relation? relation = (db.table? relation).map (·.relation) := by
  simp only [schema, Schema.relation?, table?, List.find?_map]
  rfl

theorem relation?_of_table? {db : Database} {relation : String} {t : Table}
    (ht : db.table? relation = some t) : db.schema.relation? relation = some t.relation := by
  rw [relation?_schema, ht]
  rfl

theorem relation_schema_eq_ok {db : Database} {relation : String} {r : Relation} :
    db.schema.relation relation = .ok r ↔
      ∃ t, db.table? relation = some t ∧ t.relation = r := by
  unfold Schema.relation
  rw [relation?_schema]
  cases db.table? relation <;> simp

theorem table_eq_ok {db : Database} {relation : String} {t : Table} :
    db.table relation = .ok t ↔ db.table? relation = some t := by
  unfold table
  cases db.table? relation <;> simp

theorem columnPositions_eq_ok {db : Database} {relation : String} {t : Table}
    (ht : db.table? relation = some t) {columns : List String} (hc : columns ⊆ t.relation.columns) :
    db.columnPositions relation columns =
      .ok (columns.map fun c => (t.relation.fieldIndex? c).getD 0) := by
  refine Outcome.mapM_ok_of_forall fun c hmem => ?_
  obtain ⟨i, hi⟩ :=
    Option.isSome_iff_exists.mp ((t.relation.isSome_fieldIndex? c).mpr (hc hmem))
  simp [Schema.fieldIndex?, relation?_schema, ht, hi]

/-- Selecting known columns of a known relation gives the cells of every stored row in them. -/
theorem selectFrom_eq_ok {db : Database} {relation : String} {t : Table}
    (ht : db.table? relation = some t) {columns : List String} (hc : columns ⊆ t.relation.columns) :
    db.selectFrom relation columns =
      .ok (t.rows.toList.map fun row =>
        columns.map fun c => (t.relation.cell? c row).getD .null) := by
  have htable := table_eq_ok.mpr ht
  unfold selectFrom
  rw [columnPositions_eq_ok ht hc, Outcome.bind_ok, htable, Outcome.bind_ok]
  refine congrArg Except.ok (List.map_congr_left fun row _ => ?_)
  rw [Row.select, List.map_map]
  refine List.map_congr_left fun c hmem => ?_
  obtain ⟨i, hi⟩ :=
    Option.isSome_iff_exists.mp ((t.relation.isSome_fieldIndex? c).mpr (hc hmem))
  simp [Relation.cell?, hi]

end Database

end ProfileQuery
