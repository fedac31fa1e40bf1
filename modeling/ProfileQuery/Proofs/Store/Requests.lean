import Mathlib
import ProfileQuery.Proofs.Store.Database

/-!
# What a database keeps

A database is filled by requests: a row of values, a row of raw cells, or several rows of values one
after another. Which requests fail, and with what, depends on the schema only (`Request.fault?`), and
so do the rows that a request adds to the table of a relation (`Request.accepted`). After any
requests each table holds the rows that were accepted for it, in the order of the requests
(`Request.run_keeps`), and every cell of them can be selected.
-/

namespace ProfileQuery

open Calendar (DateTime)
open Database (castCells)
open Outcome (fault?)

/-- Whether a value is missing or of a datatype; the values of a datatype without a form of its own
are texts. -/
inductive Value.HasType : DataType → Value → Prop where
  | null (datatype : DataType) : HasType datatype .null
  | integer (n : Int64) : HasType .integer (.integer n)
  | date (d : DateTime) : HasType .date (.date d)
  | string (s : String) : HasType .string (.text s)
  | other (tag s : String) : HasType (.other tag) (.text s)

/-- What a database is asked to keep. -/
inductive Request where
  /-- A row of values. -/
  | insert (relation : String) (row : Row)
  /-- A row of raw cells, read at some moment. -/
  | insertRaw (now : DateTime) (relation : String) (cells : List String)
  /-- Rows of values, up to the first that is refused. -/
  | extend (relation : String) (rows : List Row)

/-! ## Faults -/

namespace Relation

/-- Why a row with some number of cells is refused. -/
def arityFault? (r : Relation) (cells : Nat) : Option QueryError :=
  if cells = r.arity then none else some (.schema (.wrongArity r.name r.arity cells))

/-- Why raw cells are refused: their number, or the first that has no value. -/
def cellsFault? (r : Relation) (now : DateTime) (cells : List String) : Option QueryError :=
  (r.arityFault? cells.length).or <| (r.fields.zip cells).findSome? fun (field, cell) =>
    (fault? (Value.ofCell now field.datatype cell)).map fun fault => .typeError (.cell fault)

/-- The values of raw cells that are not refused. -/
def readRow? (r : Relation) (now : DateTime) (cells : List String) : Option Row :=
  if cells.length = r.arity then (castCells now r.fields cells).toOption else none

end Relation

namespace Schema

/-- Why something is refused that needs a relation: the relation is unknown, or refuses it. -/
def refusal? (s : Schema) (name : String) (fault? : Relation → Option QueryError) :
    Option QueryError :=
  match s.relation? name with
  | none => some (.unknownRelation name)
  | some r => fault? r

/-- Why columns cannot be selected: the first that is unknown, or else the relation. -/
def selectFault? (s : Schema) (name : String) (columns : List String) : Option QueryError :=
  (columns.findSome? fun c =>
    if (s.fieldIndex? name c).isSome then none else some (.undefinedColumn (name ++ "." ++ c))).or
  (if s.hasRelation name then none else some (.unknownRelation name))

end Schema

namespace Request

/-- Why a request fails. -/
def fault? (s : Schema) : Request → Option QueryError
  | insert name row => s.refusal? name (·.arityFault? row.length)
  | insertRaw now name cells => s.refusal? name (·.cellsFault? now cells)
  | extend name rows => rows.findSome? fun row => s.refusal? name (·.arityFault? row.length)

/-- The rows that a request adds to the table of a relation. -/
def accepted (r : Relation) : Request → List Row
  | insert name row => if name = r.name ∧ row.length = r.arity then [row] else []
  | insertRaw now name cells => if name = r.name then (r.readRow? now cells).toList else []
  | extend name rows => if name = r.name then rows.takeWhile (·.length = r.arity) else []

/-- The outcome of an insertion: where it fails, the database stays as it was. -/
def settle (db : Database) : Except QueryError Database → Database × Option QueryError
  | .ok db' => (db', none)
  | .error e => (db, some e)

/-- The database after a request, and why the request failed if it did. -/
def perform (db : Database) : Request → Database × Option QueryError
  | insert name row => settle db (db.insert name row)
  | insertRaw now name cells => settle db (db.insertRaw now name cells)
  | extend name rows => db.extend name rows

/-- The database after some requests, from the one without rows. -/
def run (s : Schema) (requests : List Request) : Database :=
  requests.foldl (fun db request => (request.perform db).1) (.ofSchema s)

end Request

/-! ## Reading raw cells -/

theorem Value.hasType_of_ofCell {now : DateTime} {datatype : DataType} {raw : String} {v : Value}
    (h : Value.ofCell now datatype raw = .ok v) : v.HasType datatype := by
  cases datatype with
  | integer =>
    simp only [ofCell] at h
    split at h
    · exact Except.ok.inj h ▸ .null _
    · split at h
      · exact Except.ok.inj h ▸ .integer _
      · cases h
  | date =>
    simp only [ofCell] at h
    split at h
    · exact Except.ok.inj h ▸ .null _
    · split at h
      · exact Except.ok.inj h ▸ .date _
      · cases h
  | string => exact Except.ok.inj h ▸ .string raw
  | other tag => exact Except.ok.inj h ▸ .other tag raw

namespace Database

variable {db : Database} {now : DateTime} {fields : List Field} {cells : List String} {row : Row}

theorem fault?_castCells (now : DateTime) (fields : List Field) (cells : List String) :
    fault? (castCells now fields cells) = (fields.zip cells).findSome? fun (field, cell) =>
      (fault? (Value.ofCell now field.datatype cell)).map fun fault => .typeError (.cell fault) := by
  rw [castCells, Outcome.fault?_mapM]
  congr 1
  funext (field, cell)
  dsimp only
  cases Value.ofCell now field.datatype cell <;> rfl

/-- The values of raw cells are one for each field, of the datatype of the field. -/
theorem hasType_of_castCells (hlen : cells.length = fields.length)
    (h : castCells now fields cells = .ok row) :
    List.Forall₂ (fun field (v : Value) => v.HasType field.datatype) fields row := by
  rw [castCells, Outcome.mapM_eq_ok] at h
  have hfields : (fields.zip cells).map Prod.fst = fields := List.map_fst_zip (Nat.le_of_eq hlen.symm)
  rw [← hfields, List.forall₂_map_left_iff]
  refine h.imp fun pair v hv => ?_
  dsimp only at hv
  split at hv
  · next heq =>
    obtain rfl := Except.ok.inj hv
    exact Value.hasType_of_ofCell heq
  · cases hv

/-! ## Tables that grow -/

/-- Whether each table of a database has been given rows behind those of another; `rows` says which
for a relation. -/
def Gains (db db' : Database) (rows : Relation → List Row) : Prop :=
  List.Forall₂ (fun t t' => t'.relation = t.relation ∧
    t'.rows.toList = t.rows.toList ++ rows t.relation) db.tables db'.tables

variable {db' db'' : Database} {rows rows' : Relation → List Row} {name : String} {t : Table}

theorem Gains.schema_eq (h : db.Gains db' rows) : db'.schema = db.schema :=
  schema_eq_of_forall₂ h fun _ _ ht => ht.1

theorem Gains.exists_table? (h : db.Gains db' rows) (ht : db.table? name = some t) :
    ∃ t', db'.table? name = some t' ∧ t'.relation = t.relation ∧
      t'.rows.toList = t.rows.toList ++ rows t.relation :=
  exists_table?_of_forall₂ h (fun _ _ hu => hu.1) ht

theorem Gains.congr (h : db.Gains db' rows) (heq : ∀ t ∈ db.tables, rows t.relation = rows' t.relation) :
    db.Gains db' rows' :=
  List.forall₂_iff_get.mpr (by
    obtain ⟨hlen, hget⟩ := List.forall₂_iff_get.mp h
    refine ⟨hlen, fun i hi hi' => ?_⟩
    rw [← heq _ (List.get_mem _ _)]
    exact hget i hi hi')

/-- A database that stays as it is gains nothing. -/
theorem gains_self (h : ∀ t ∈ db.tables, rows t.relation = []) : db.Gains db rows := by
  refine List.forall₂_same.mpr fun t ht => ⟨rfl, ?_⟩
  rw [h t ht, List.append_nil]

theorem Gains.trans (h : db.Gains db' rows) (h' : db'.Gains db'' rows') :
    db.Gains db'' fun r => rows r ++ rows' r := by
  unfold Gains at h h' ⊢
  generalize db.tables = tables at h
  generalize db'.tables = tables' at h h'
  generalize db''.tables = tables'' at h'
  induction h generalizing tables'' with
  | nil => cases h'; exact .nil
  | cons hu _ ih =>
    cases h' with
    | cons hu' hrest =>
      refine .cons ⟨hu'.1.trans hu.1, ?_⟩ (ih _ hrest)
      rw [hu'.2, hu.2, hu.1, List.append_assoc]

/-- Pushing a row to a table adds it to the rows of that relation. -/
theorem gains_push (ht : db.table? name = some t) (h : row.length = t.relation.arity) :
    db.Gains (db.replace (t.push row h)) fun r => if name = r.name then [row] else [] := by
  refine List.forall₂_map_right_iff.mpr (List.forall₂_same.mpr fun u hu => ?_)
  have hname : t.relation.name = name := name_of_table? ht
  split
  · next hu' =>
    obtain rfl := eq_of_table? ht hu (hu'.trans hname)
    exact ⟨rfl, by simp [Table.push, hname]⟩
  · next hu' =>
    have hne : name ≠ u.relation.name := fun heq => hu' (heq.symm.trans hname.symm)
    exact ⟨rfl, by simp [hne]⟩

end Database

/-! ## Requests -/

namespace Request

/-- What a request comes to: it fails with its fault, and each table gains what is accepted. -/
structure Settled (db : Database) (request : Request) (outcome : Database × Option QueryError) :
    Prop where
  fault_eq : outcome.2 = request.fault? db.schema
  gains : db.Gains outcome.1 (accepted · request)

variable {db : Database} {name : String} {t : Table} {row : Row}

theorem refusal?_unknown (ht : db.table? name = none) (fault? : Relation → Option QueryError) :
    db.schema.refusal? name fault? = some (.unknownRelation name) := by
  rw [Schema.refusal?, Database.relation?_schema, ht]
  rfl

theorem refusal?_known (ht : db.table? name = some t) (fault? : Relation → Option QueryError) :
    db.schema.refusal? name fault? = fault? t.relation := by
  rw [Schema.refusal?, Database.relation?_schema, ht]
  rfl

/-- An unknown relation has no table that could gain rows. -/
theorem ne_name_of_unknown (ht : db.table? name = none) {u : Table} (hu : u ∈ db.tables) :
    name ≠ u.relation.name := by
  rintro rfl
  have hnone := List.find?_eq_none.mp ht u hu
  simp at hnone

/-- An insertion is refused, and no table could take the row, or the row is pushed to the table of
the relation. -/
theorem insert_cases (db : Database) (name : String) (row : Row) :
    (∃ e, db.insert name row = .error e ∧
      db.schema.refusal? name (·.arityFault? row.length) = some e ∧
      ∀ t ∈ db.tables, ¬ (name = t.relation.name ∧ row.length = t.relation.arity)) ∨
    ∃ db', db.insert name row = .ok db' ∧
      db.schema.refusal? name (·.arityFault? row.length) = none ∧
      (db.Gains db' fun r => if name = r.name then [row] else []) ∧
      ∀ t ∈ db.tables, name = t.relation.name → row.length = t.relation.arity := by
  unfold Database.insert Database.table
  cases ht : db.table? name with
  | none =>
    exact .inl ⟨_, rfl, refusal?_unknown ht _, fun t ht' h => ne_name_of_unknown ht ht' h.1⟩
  | some t =>
    rw [refusal?_known ht, Relation.arityFault?, Database.name_of_table? ht]
    have only : ∀ u ∈ db.tables, name = u.relation.name → u = t :=
      fun u hu hname => Database.eq_of_table? ht hu hname.symm
    by_cases h : row.length = t.relation.arity
    · simp only [h, dif_pos, if_true]
      refine .inr ⟨_, rfl, trivial, Database.gains_push ht h, fun u hu hname => ?_⟩
      rw [only u hu hname]
    · simp only [h, dif_neg, not_false_eq_true, if_false]
      refine .inl ⟨_, rfl, rfl, fun u hu hname => h ?_⟩
      rw [← only u hu hname.1, hname.2]

theorem settled_insert (db : Database) (name : String) (row : Row) :
    Settled db (insert name row) (settle db (db.insert name row)) := by
  rcases insert_cases db name row with ⟨e, heq, hfault, hno⟩ | ⟨db', heq, hfault, hgains, harity⟩
  · rw [heq]
    exact ⟨hfault.symm, Database.gains_self fun t ht => if_neg (hno t ht)⟩
  · rw [heq]
    refine ⟨hfault.symm, hgains.congr fun t ht => ?_⟩
    by_cases hname : name = t.relation.name
    · simp [accepted, hname, harity t ht hname]
    · simp [accepted, hname]

/-- Raw cells are refused, and no row is read, or the row that is read is inserted. -/
theorem insertRaw_cases (ht : db.table? name = some t) (now : DateTime) (cells : List String) :
    (∃ e, db.insertRaw now name cells = .error e ∧
      t.relation.cellsFault? now cells = some e ∧ t.relation.readRow? now cells = none) ∨
    ∃ row, db.insertRaw now name cells = db.insert name row ∧
      t.relation.cellsFault? now cells = none ∧ t.relation.readRow? now cells = some row ∧
      row.length = t.relation.arity := by
  unfold Database.insertRaw Relation.cellsFault? Relation.arityFault? Relation.readRow?
  rw [Database.table_eq_ok.mpr ht, ← Database.fault?_castCells]
  by_cases hlen : cells.length = t.relation.arity
  · simp only [hlen, if_true, Option.none_or]
    cases hcast : castCells now t.relation.fields cells with
    | error e => exact .inl ⟨e, rfl, rfl, rfl⟩
    | ok row =>
      exact .inr ⟨row, rfl, rfl, rfl, (Database.hasType_of_castCells hlen hcast).length_eq.symm⟩
  · simp only [hlen, if_false, Option.some_or, Database.name_of_table? ht]
    exact .inl ⟨_, rfl, rfl, trivial⟩

theorem settled_insertRaw (db : Database) (now : DateTime) (name : String) (cells : List String) :
    Settled db (insertRaw now name cells) (settle db (db.insertRaw now name cells)) := by
  cases ht : db.table? name with
  | none =>
    unfold Database.insertRaw Database.table
    rw [ht]
    refine ⟨(refusal?_unknown ht _).symm, Database.gains_self fun u hu => ?_⟩
    simp [accepted, ne_name_of_unknown ht hu]
  | some t =>
    -- only the table of the relation is concerned
    have only : ∀ u ∈ db.tables, accepted u.relation (insertRaw now name cells) =
        if name = u.relation.name then (t.relation.readRow? now cells).toList else [] := by
      intro u hu
      by_cases hname : name = u.relation.name
      · obtain rfl := Database.eq_of_table? ht hu hname.symm
        simp [accepted, hname]
      · simp [accepted, hname]
    rcases insertRaw_cases ht now cells with
      ⟨e, heq, hfault, hread⟩ | ⟨row, heq, hfault, hread, hrow⟩
    · rw [heq]
      refine ⟨((refusal?_known ht _).trans hfault).symm, Database.gains_self fun u hu => ?_⟩
      simp [only u hu, hread]
    · rw [heq]
      obtain ⟨hsettled, hgains⟩ := settled_insert db name row
      refine ⟨?_, hgains.congr fun u hu => ?_⟩
      · rw [hsettled, fault?, fault?, refusal?_known ht, refusal?_known ht, hfault,
          Relation.arityFault?, if_pos hrow]
      · rw [only u hu, hread]
        by_cases hname : name = u.relation.name
        · obtain rfl := Database.eq_of_table? ht hu hname.symm
          simp [accepted, hname, hrow]
        · simp [accepted, hname]

theorem settled_extend (db : Database) (name : String) (rows : List Row) :
    Settled db (extend name rows) (db.extend name rows) := by
  induction rows generalizing db with
  | nil => exact ⟨rfl, Database.gains_self fun t _ => by simp [accepted]⟩
  | cons row rows ih =>
    rw [Database.extend]
    rcases insert_cases db name row with ⟨e, heq, hfault, hno⟩ | ⟨db', heq, hfault, hgains, harity⟩
    · rw [heq]
      refine ⟨by simp [fault?, hfault], Database.gains_self fun t ht => ?_⟩
      by_cases hname : name = t.relation.name
      · have hlen : ¬ row.length = t.relation.arity := fun hlen => hno t ht ⟨hname, hlen⟩
        simp [accepted, hlen]
      · simp [accepted, hname]
    · rw [heq]
      obtain ⟨hlater, hgains'⟩ := ih db'
      rw [hgains.schema_eq] at hlater
      refine ⟨by simp [fault?, hfault, hlater], (hgains.trans hgains').congr fun t ht => ?_⟩
      by_cases hname : name = t.relation.name
      · simp [accepted, hname, harity t ht hname]
      · simp [accepted, hname]

theorem settled_perform (db : Database) (request : Request) :
    Settled db request (request.perform db) := by
  cases request with
  | insert name row => exact settled_insert db name row
  | insertRaw now name cells => exact settled_insertRaw db now name cells
  | extend name rows => exact settled_extend db name rows

/-! ## Runs -/

theorem run_concat (s : Schema) (requests : List Request) (request : Request) :
    run s (requests ++ [request]) = (request.perform (run s requests)).1 := by
  rw [run, List.foldl_concat]
  rfl

theorem schema_ofSchema (s : Schema) : (Database.ofSchema s).schema = s := by
  simp [Database.ofSchema, Database.schema, Table.empty, Function.comp_def]

/-- After any requests each table holds what was accepted for its relation. -/
theorem gains_run (s : Schema) (requests : List Request) :
    (Database.ofSchema s).Gains (run s requests) fun r => requests.flatMap (accepted r) := by
  induction requests using List.reverseRecOn with
  | nil => exact Database.gains_self fun _ _ => rfl
  | append_singleton requests request ih =>
    rw [run_concat]
    refine (ih.trans (settled_perform _ request).gains).congr fun t _ => ?_
    simp

end Request

/-! ## Selecting -/

namespace Schema

variable {s : Schema} {name : String} {columns : List String}

theorem selectFault?_eq_none :
    s.selectFault? name columns = none ↔ ∃ r, s.relation? name = some r ∧ columns ⊆ r.columns := by
  cases hr : s.relation? name with
  | none => simp [selectFault?, hasRelation, hr]
  | some r =>
    simp [selectFault?, hasRelation, fieldIndex?, hr, List.subset_def, ← r.isSome_fieldIndex?,
      Option.isSome_iff_ne_none]

end Schema

namespace Database

variable {db : Database} {name : String} {t : Table} {columns : List String} {positions : List Nat}

/-- Columns are selected unless one of them or the relation is unknown. -/
theorem fault?_selectFrom (db : Database) (name : String) (columns : List String) :
    fault? (db.selectFrom name columns) = db.schema.selectFault? name columns := by
  have hcolumns : fault? (db.columnPositions name columns) = columns.findSome? fun c =>
      if (db.schema.fieldIndex? name c).isSome then none
      else some (.undefinedColumn (name ++ "." ++ c)) := by
    rw [columnPositions, Outcome.fault?_mapM]
    congr 1
    funext c
    cases db.schema.fieldIndex? name c <;> rfl
  rw [Schema.selectFault?, ← hcolumns, selectFrom, Schema.hasRelation, relation?_schema, table]
  cases db.columnPositions name columns with
  | error e => rfl
  | ok positions =>
    rw [Outcome.bind_ok]
    cases db.table? name <;> rfl

/-- The positions of columns are those of cells. -/
theorem columnPositions_lt (ht : db.table? name = some t)
    (h : db.columnPositions name columns = .ok positions) : ∀ p ∈ positions, p < t.relation.arity := by
  intro p hp
  obtain ⟨c, -, hc⟩ := Outcome.mem_of_mapM h hp
  rw [Schema.fieldIndex?, relation?_schema, ht] at hc
  cases hindex : t.relation.fieldIndex? c with
  | none => simp [hindex] at hc
  | some i =>
    obtain rfl : i = p := by simpa [hindex] using hc
    exact (List.findIdx?_eq_some_iff_findIdx_eq.mp hindex).1

/-- Selecting known columns gives a record for each row, with the cells of the row in them. -/
theorem exists_records (ht : db.table? name = some t) (hc : columns ⊆ t.relation.columns) :
    ∃ records, db.selectFrom name columns = .ok records ∧
      List.Forall₂ (fun row record =>
        List.Forall₂ (fun c v => t.relation.cell? c row = some v) columns record)
        t.rows.toList records := by
  refine ⟨_, selectFrom_eq_ok ht hc, ?_⟩
  rw [List.forall₂_map_right_iff, List.forall₂_same]
  intro row hrow
  rw [List.forall₂_map_right_iff, List.forall₂_same]
  intro c hmem
  have hcell := Relation.isSome_cell? (t.rows_arity row (by simpa using hrow)) (hc hmem)
  obtain ⟨v, hv⟩ := Option.isSome_iff_exists.mp hcell
  rw [hv]
  rfl

end Database

/-! ## What is kept -/

namespace Request

/-- What a request that fails with some error makes of a database: a row leaves it as it was, and of
several rows those in front of the refused one are kept. -/
def Spares (db db' : Database) (e : QueryError) : Request → Prop
  | insert _ _ | insertRaw _ _ _ => db' = db
  | extend name rows => ∃ before row after, rows = before ++ row :: after ∧
      db.extend name before = (db', none) ∧ db'.insert name row = .error e

variable {db : Database} {e : QueryError}

theorem settle_eq_error {outcome : Except QueryError Database} (h : (settle db outcome).2 = some e) :
    (settle db outcome).1 = db := by
  cases outcome with
  | ok db' => cases h
  | error e => rfl

theorem spares_perform {request : Request} (h : (request.perform db).2 = some e) :
    request.Spares db (request.perform db).1 e := by
  cases request with
  | insert name row => exact settle_eq_error h
  | insertRaw now name cells => exact settle_eq_error h
  | extend name rows =>
    change (db.extend name rows).2 = some e at h
    change Spares db (db.extend name rows).1 e (extend name rows)
    induction rows generalizing db with
    | nil => cases h
    | cons row rows ih =>
      rw [Database.extend] at h ⊢
      cases hrow : db.insert name row with
      | error e' =>
        rw [hrow] at h
        obtain rfl := Option.some.inj h
        exact ⟨[], row, rows, rfl, rfl, hrow⟩
      | ok db' =>
        rw [hrow] at h
        obtain ⟨before, refused, after, rfl, hbefore, hrefused⟩ := ih h
        refine ⟨row :: before, refused, after, rfl, ?_, hrefused⟩
        rw [Database.extend, hrow]
        exact hbefore

/-- An accepted row has a cell for each field, and if it was raw, cells of the datatypes. -/
theorem of_mem_accepted {r : Relation} {request : Request} {row : Row}
    (h : row ∈ request.accepted r) : row.length = r.arity ∧
      ∀ now name cells, request = insertRaw now name cells →
        List.Forall₂ (fun field (v : Value) => v.HasType field.datatype) r.fields row := by
  cases request with
  | insert name inserted =>
    refine ⟨?_, by simp⟩
    simp only [accepted] at h
    split at h
    · next hcond => rw [List.mem_singleton.mp h, hcond.2]
    · cases h
  | insertRaw now name cells =>
    simp only [accepted, Relation.readRow?] at h
    split at h
    · split at h
      · next hlen =>
        have hcast : castCells now r.fields cells = .ok row := by
          cases hcells : castCells now r.fields cells with
          | error e => simp [hcells, Except.toOption] at h
          | ok found => simpa [hcells, Except.toOption, eq_comm] using h
        have htyped := Database.hasType_of_castCells hlen hcast
        exact ⟨htyped.length_eq.symm, fun _ _ _ _ => htyped⟩
      · cases h
    · cases h
  | extend name rows =>
    refine ⟨?_, by simp⟩
    simp only [accepted] at h
    split at h
    · simpa using List.mem_takeWhile_imp h
    · cases h

/-- After any requests, of which some may fail, each table holds the rows that were accepted for its
relation, in the order of the requests; every row has a cell for each field, of the datatype of the
field if it was raw. Each further request fails with its fault, and then it leaves the database as
it was, up to the rows in front of a refused one. Known columns can be selected, and give the cells
of all rows, none from behind the end of a row; no others can. -/
theorem run_keeps (s : Schema) (requests : List Request) :
    (run s requests).schema = s ∧
    (∀ r ∈ s.relations,
      (∃ t, (run s requests).table? r.name = some t ∧ t.relation = r ∧
        t.rows.toList = requests.flatMap (accepted r)) ∧
      ∀ request ∈ requests, ∀ row ∈ request.accepted r, row.length = r.arity ∧
        ∀ now name cells, request = insertRaw now name cells →
          List.Forall₂ (fun field (v : Value) => v.HasType field.datatype) r.fields row) ∧
    (∀ request : Request, (request.perform (run s requests)).2 = request.fault? s ∧
      ∀ e, request.fault? s = some e →
        request.Spares (run s requests) (request.perform (run s requests)).1 e) ∧
    (∀ r ∈ s.relations, ∀ columns ⊆ r.columns, ∃ positions records,
      (run s requests).columnPositions r.name columns = .ok positions ∧
      (∀ row ∈ requests.flatMap (accepted r), ∀ p ∈ positions, p < row.length) ∧
      (run s requests).selectFrom r.name columns = .ok records ∧
      List.Forall₂ (fun row record =>
        List.Forall₂ (fun c v => r.cell? c row = some v) columns record)
        (requests.flatMap (accepted r)) records) ∧
    ∀ name columns, (¬ ∃ r ∈ s.relations, r.name = name ∧ columns ⊆ r.columns) →
      ∃ e, (run s requests).selectFrom name columns = .error e := by
  have hgains := gains_run s requests
  have hschema : (run s requests).schema = s := hgains.schema_eq.trans (schema_ofSchema s)
  have htable : ∀ r ∈ s.relations, ∃ t, (run s requests).table? r.name = some t ∧ t.relation = r ∧
      t.rows.toList = requests.flatMap (accepted r) := by
    intro r hr
    have hempty : Table.empty r ∈ (Database.ofSchema s).tables := List.mem_map_of_mem hr
    obtain ⟨t, ht, hrelation, hrows⟩ := hgains.exists_table? (Database.table?_of_mem hempty)
    exact ⟨t, ht, hrelation, by simpa [Table.empty] using hrows⟩
  refine ⟨hschema, fun r hr => ⟨htable r hr, fun request _ row hrow => of_mem_accepted hrow⟩,
    fun request => ?_, fun r hr columns hc => ?_, fun name columns hno => ?_⟩
  · have hfault := (settled_perform (run s requests) request).fault_eq
    rw [hschema] at hfault
    exact ⟨hfault, fun e he => spares_perform (hfault.trans he)⟩
  · obtain ⟨t, ht, rfl, hrows⟩ := htable r hr
    obtain ⟨records, hrecords, hcells⟩ := Database.exists_records ht hc
    refine ⟨_, records, Database.columnPositions_eq_ok ht hc, fun row hrow p hp => ?_, hrecords,
      hrows ▸ hcells⟩
    rw [t.rows_arity row (by simpa [← hrows] using hrow)]
    exact Database.columnPositions_lt ht (Database.columnPositions_eq_ok ht hc) p hp
  · have hfault := Database.fault?_selectFrom (run s requests) name columns
    rw [hschema] at hfault
    cases hselect : (run s requests).selectFrom name columns with
    | error e => exact ⟨e, rfl⟩
    | ok records =>
      rw [hselect] at hfault
      obtain ⟨r, hr, hc⟩ := Schema.selectFault?_eq_none.mp hfault.symm
      exact absurd ⟨r, List.mem_of_find?_eq_some hr, by simpa using List.find?_some hr, hc⟩ hno

/-- A number and a name for each person. -/
def person : Relation :=
  ⟨"person", [⟨"id", .integer, true, false, none⟩, ⟨"name", .string, false, false, none⟩], by decide⟩

/-- A morning. -/
def morning : DateTime :=
  ⟨⟨2024, 2, 29, by decide, by decide⟩, ⟨9, 15, 20, 0, by decide, by decide⟩⟩

/-- Five requests, of which only the first is accepted as a whole. -/
def arrivals : List Request :=
  [.insertRaw morning "person" ["1", "Ann"], .insertRaw morning "person" ["x", "Ben"],
    .insert "person" [.integer 2], .insert "dog" [],
    .extend "person" [[.integer 3, .text "Cy"], [], [.integer 4, .null]]]

/-- Of the arrivals two rows are kept, and their columns can be selected in any order. A further row
without cells is refused. -/
theorem run_keeps_arrivals :
    (person ∈ [person] ∧ ∃ t, (run ⟨[person], by decide⟩ arrivals).table? "person" = some t ∧
      t.rows.toList = [[.integer 1, .text "Ann"], [.integer 3, .text "Cy"]]) ∧
    (.insertRaw morning "person" ["1", "Ann"] ∈ arrivals ∧
      [.integer 1, .text "Ann"] ∈ accepted person (.insertRaw morning "person" ["1", "Ann"]) ∧
      List.Forall₂ (fun field (v : Value) => v.HasType field.datatype) person.fields
        [.integer 1, .text "Ann"]) ∧
    ((insert "person" []).fault? ⟨[person], by decide⟩ =
        some (.schema (.wrongArity "person" 2 0)) ∧
      ((insert "person" []).perform (run ⟨[person], by decide⟩ arrivals)).1 =
        run ⟨[person], by decide⟩ arrivals) ∧
    (["name", "id", "name"] ⊆ person.columns ∧
      ∃ records, (run ⟨[person], by decide⟩ arrivals).selectFrom "person" ["name", "id", "name"] =
        .ok records) ∧
    (¬ ∃ r ∈ [person], r.name = "dog" ∧ [] ⊆ r.columns) ∧
      ∃ e, (run ⟨[person], by decide⟩ arrivals).selectFrom "dog" [] = .error e := by
  have hperson : person ∈ [person] := List.mem_singleton.mpr rfl
  have hrequest : .insertRaw morning "person" ["1", "Ann"] ∈ arrivals := List.mem_cons_self
  have hread : accepted person (.insertRaw morning "person" ["1", "Ann"]) =
      [[.integer 1, .text "Ann"]] := by cbv
  have hrow : [.integer 1, .text "Ann"] ∈
      accepted person (.insertRaw morning "person" ["1", "Ann"]) := by simp [hread]
  have hfault : (insert "person" []).fault? ⟨[person], by decide⟩ =
      some (.schema (.wrongArity "person" 2 0)) := by cbv
  have hcolumns : ["name", "id", "name"] ⊆ person.columns := by decide
  have hdog : ¬ ∃ r ∈ [person], r.name = "dog" ∧ [] ⊆ r.columns := by simp [person]
  have hflat : arrivals.flatMap (accepted person) =
      [[.integer 1, .text "Ann"], [.integer 3, .text "Cy"]] := by cbv
  obtain ⟨-, hkept, hfails, hselect, hunknown⟩ := run_keeps ⟨[person], by decide⟩ arrivals
  obtain ⟨⟨t, ht, -, hrows⟩, haccepted⟩ := hkept person hperson
  obtain ⟨-, records, -, -, hrecords, -⟩ := hselect person hperson _ hcolumns
  exact ⟨⟨hperson, t, ht, hrows.trans hflat⟩,
    ⟨hrequest, hrow, (haccepted _ hrequest _ hrow).2 _ _ _ rfl⟩,
    ⟨hfault, (hfails (insert "person" [])).2 _ hfault⟩, ⟨hcolumns, records, hrecords⟩,
    hdog, hunknown "dog" [] hdog⟩

end Request

end ProfileQuery
