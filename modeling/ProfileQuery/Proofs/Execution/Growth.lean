import Mathlib
import ProfileQuery.Proofs.Execution.Inner
import ProfileQuery.Proofs.Selection.Outcome
import ProfileQuery.Proofs.Store.Requests

/-!
# Answers grow

Rows that are added to a database, and rows that left joins keep, add rows to the answer and change
none: the rows of the smaller run are a subsequence of those of the larger one. Each step of a run
preserves this. A join replaces every row by its extensions, and those of a row that is in both runs
are among each other; a filter tests a row without regard to the others.
-/

namespace ProfileQuery

open Outcome (Both)
open Plan (JoinStep SelectPlan)
open Query (Condition)

/-- Whether one table has the rows of another and maybe more, in the same order. -/
structure Table.Within (t t' : Table) : Prop where
  relation_eq : t.relation = t'.relation
  rows_sublist : t.rows.toList.Sublist t'.rows.toList

/-- Whether each table of one database is within that of another. -/
def Database.Within (db db' : Database) : Prop :=
  List.Forall₂ Table.Within db.tables db'.tables

/-- Whether two selections differ by rows that only the second one has. -/
def Selection.Within (s s' : Selection) : Prop :=
  ∃ rows, s.data.Sublist rows ∧ s' = s.withData rows

variable {db db' : Database} {s s' : Selection} {t t' : Table} {relation : String}
  {columns : List String}

/-! ## Databases -/

namespace Table

theorem Within.refl (t : Table) : t.Within t := ⟨rfl, .refl _⟩

theorem Within.cells_eq (h : t.Within t') (row : Row) :
    t'.cells columns row = t.cells columns row := by
  rw [cells, cells, h.relation_eq]

end Table

namespace Database

theorem Within.refl (db : Database) : db.Within db :=
  List.forall₂_same.mpr fun t _ => .refl t

theorem Within.schema_eq (h : db.Within db') : db'.schema = db.schema :=
  schema_eq_of_forall₂ h fun _ _ ht => ht.relation_eq.symm

theorem Within.exists_table? (h : db.Within db') (ht : db.table? relation = some t) :
    ∃ t', db'.table? relation = some t' ∧ t.Within t' :=
  exists_table?_of_forall₂ h (fun _ _ hu => hu.relation_eq.symm) ht

/-- An insertion adds a row to one table and leaves the others as they are. -/
theorem within_of_insert {row : Row} (h : db.insert relation row = .ok db') : db.Within db' := by
  rcases Request.insert_cases db relation row with ⟨e, heq, -⟩ | ⟨inserted, heq, -, hgains, -⟩
  · cases heq.symm.trans h
  · obtain rfl := Except.ok.inj (heq.symm.trans h)
    exact hgains.imp fun t t' ht => ⟨ht.1.symm, ht.2 ▸ List.sublist_append_left _ _⟩

end Database

/-! ## Joins -/

namespace Selection

theorem Within.rows_sublist (h : s.Within s') :
    s'.shown = s.shown ∧ s.rows.Sublist s'.rows := by
  obtain ⟨rows, hrows, rfl⟩ := h
  exact ⟨rfl, hrows.map _⟩

/-- More stored rows, and the other mode, make more extensions of a row. -/
theorem extensions_sublist (ht : t.Within t') (mode : JoinMode) (row : Row) :
    (s.extensions t columns .inner row).Sublist (s.extensions t' columns mode row) := by
  have hmatches : (s.matchingRows t columns row).Sublist (s.matchingRows t' columns row) := by
    simp only [matchingRows, ht.cells_eq, ← ht.relation_eq]
    exact ht.rows_sublist.filter _
  rw [extensions_inner]
  -- without a match in the larger table there is none in the smaller one, which drops the row
  by_cases h : s.matchingRows t' columns row = []
  · rw [h, List.sublist_nil] at hmatches
    rw [hmatches]
    exact List.nil_sublist _
  · simp only [extensions_of_matchingRows_ne_nil h, ht.cells_eq, ← ht.relation_eq]
    exact hmatches.map _

theorem joinTable_within {rows : List Row} (ht : t.Within t') (hrows : s.data.Sublist rows)
    (mode : JoinMode) :
    (s.joinTable t columns .inner).Within ((s.withData rows).joinTable t' columns mode) := by
  cases hjoins : s.hasJoins with
  | true =>
    have hjoins' : (s.withData rows).hasJoins = true := hjoins
    rw [joinTable, joinTable, if_pos hjoins, if_pos hjoins', ← ht.relation_eq]
    exact ⟨_, (hrows.flatMap _).trans
      (List.Sublist.flatMap_right _ fun row _ => extensions_sublist ht mode row), rfl⟩
  | false =>
    have hfirst : ¬ s.hasJoins = true := by simp [hjoins]
    have hfirst' : ¬ (s.withData rows).hasJoins = true := hfirst
    rw [joinTable, joinTable, if_neg hfirst, if_neg hfirst', ← ht.relation_eq]
    refine ⟨t'.rows.toList.map (t'.cells columns), ?_, rfl⟩
    rw [List.map_congr_left fun row _ => ht.cells_eq row]
    exact ht.rows_sublist.map _

theorem Within.join (hdb : db.Within db') (h : s.Within s') (mode : JoinMode) :
    Both Within (s.join db relation columns .inner) (s'.join db' relation columns mode) := by
  obtain ⟨rows, hrows, rfl⟩ := h
  -- whether a join has a fault is a matter of names
  have same : (s.withData rows).joinFault? db'.schema relation columns =
      s.joinFault? db.schema relation columns := by
    rw [hdb.schema_eq]
    rfl
  cases hfault : s.joinFault? db.schema relation columns with
  | some e =>
    rw [join_of_fault hfault, join_of_fault (same.trans hfault)]
    exact .error e
  | none =>
    obtain ⟨t, ht, -, hjoin⟩ := join_of_no_fault hfault .inner
    obtain ⟨t', ht', -, hjoin'⟩ := join_of_no_fault (same.trans hfault) mode
    obtain ⟨u, hu, hwithin⟩ := hdb.exists_table? ht
    obtain rfl := Option.some.inj (hu.symm.trans ht')
    rw [hjoin, hjoin']
    exact .ok (joinTable_within hwithin hrows mode)

/-- A projection picks the same columns of all rows. -/
theorem Within.project (h : s.Within s') (names : List String) :
    Both Within (s.project names) (s'.project names) := by
  obtain ⟨rows, hrows, rfl⟩ := h
  refine (Both.refl (s.positions names)).bind fun positions _ heq => ?_
  subst heq
  exact .ok ⟨rows, hrows, rfl⟩

end Selection

/-! ## Runs -/

namespace Database

theorem Within.joinSteps (hdb : db.Within db') (mode : JoinMode) (steps : List JoinStep)
    (h : s.Within s') :
    Both Selection.Within (db.joinSteps .inner s steps) (db'.joinSteps mode s' steps) := by
  induction steps generalizing s s' with
  | nil => exact .ok h
  | cons step steps ih =>
    rw [joinSteps_cons, joinSteps_cons]
    exact (Selection.Within.join hdb h mode).bind fun _ _ hnext => ih hnext

/-- A condition that is true of a row stays true of it, whatever other rows there are. -/
theorem filterRows_within (h : s.Within s') (condition : Option Condition) :
    Both Selection.Within (filterRows s condition) (filterRows s' condition) := by
  obtain ⟨rows, hrows, rfl⟩ := h
  cases condition with
  | none => exact .ok ⟨rows, hrows, rfl⟩
  | some c =>
    refine (Both.refl (Filter.compile s.index c)).bind fun test _ heq => ?_
    subst heq
    exact .ok ⟨rows.filter test, hrows.filter test, rfl⟩

theorem Within.runPlan (hdb : db.Within db') (plan : SelectPlan) (mode : JoinMode) :
    Both Selection.Within (db.runPlan plan .inner) (db'.runPlan plan mode) := by
  have start : Selection.Within .empty .empty := ⟨[], .refl _, rfl⟩
  refine (hdb.joinSteps mode plan.joins start).bind fun _ _ hjoined => ?_
  refine (filterRows_within hjoined plan.condition).bind fun _ _ hfiltered => ?_
  exact hfiltered.project plan.projection

/-- The answer by inner joins is within the answer from a larger database, by inner or left joins;
if one of them fails the other fails with the same error. -/
theorem Within.execute (hdb : db.Within db') (q : Query.Select) (mode : JoinMode) :
    Both Selection.Within (db.execute q .inner) (db'.execute q mode) := by
  have same : Plan.ofSelect q db'.schema = Plan.ofSelect q db.schema := by rw [hdb.schema_eq]
  rw [Database.execute, Database.execute, same]
  refine (Both.refl (Plan.ofSelect q db.schema)).bind fun plan _ heq => ?_
  subst heq
  exact hdb.runPlan plan mode

/-- What a query answers by inner joins it still answers after a row was inserted anywhere: the rows
of the answer stay, in their order and as often as they were, whatever the condition negates. -/
theorem execute_insert {q : Query.Select} {row : Row} (hinsert : db.insert relation row = .ok db')
    (h : db.execute q .inner = .ok s) :
    ∃ s', db'.execute q .inner = .ok s' ∧ s'.shown = s.shown ∧ s.rows.Sublist s'.rows := by
  obtain ⟨s', hs', hwithin⟩ := ((within_of_insert hinsert).execute q .inner).exists_ok h
  exact ⟨s', hs', hwithin.rows_sublist⟩

/-- Another visit of the first person adds a row before those of the second one, under a negated
condition. -/
theorem execute_insert_visits :
    ∃ db s s', visits.insert "visit" [.integer 1, .integer 8] = .ok db ∧
      visits.execute ⟨.columns ["age", "day"], [],
        some (.negation (.comparison .greater "age" (.integer 60)))⟩ .inner = .ok s ∧
      db.execute ⟨.columns ["age", "day"], [],
        some (.negation (.comparison .greater "age" (.integer 60)))⟩ .inner = .ok s' ∧
      s.rows.Sublist s'.rows := by
  obtain ⟨db, hdb⟩ := Outcome.exists_of_isOk
    (show (visits.insert "visit" [.integer 1, .integer 8]).isOk = true by cbv)
  obtain ⟨s, hs⟩ := Outcome.exists_of_isOk (show (visits.execute ⟨.columns ["age", "day"], [],
    some (.negation (.comparison .greater "age" (.integer 60)))⟩ .inner).isOk = true by cbv)
  obtain ⟨s', hs', -, hrows⟩ := execute_insert hdb hs
  exact ⟨db, s, s', hdb, hs, hs', hrows⟩

end Database

end ProfileQuery
