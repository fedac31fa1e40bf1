import Mathlib
import ProfileQuery.Proofs.Execution.LeftJoin

/-!
# Padded rows

What becomes of a row that a left join has padded when a later relation is matched on the padded
cells. The cells of a key are compared as values, and a missing value equals a missing value: such a
row is matched by the stored rows without a value in any of the cells, and by no other ones.
-/

namespace ProfileQuery

open Plan (JoinStep)

/-- The stored rows that have no value in any of some columns, in stored order. -/
def Table.blankRows (t : Table) (columns : List String) : List Row :=
  t.rows.toList.filter fun stored => (t.cells columns stored).all Value.isNull

/-- A row without a match in one relation, which the left join of the relation has padded, and a row
that the joins behind it have made of it. -/
structure PaddedRow (db : Database) (before : List JoinStep) (missed : JoinStep)
    (between : List JoinStep) (s padded u : Selection) (row grown : Row) : Prop where
  joined : db.joinSteps .left .empty before = .ok s
  mem : row ∈ s.data
  /-- No stored row matches. -/
  unmatched : ∀ t, db.table? missed.relation = some t →
    s.matchingRows t missed.columns row = []
  padding : s.join db missed.relation missed.columns .left = .ok padded
  continued : db.joinSteps .left padded between = .ok u
  /-- What has become of the row when the later relation is joined. -/
  grown : grown ∈ db.offspring .left s (missed :: between) row

variable {db : Database} {mode : JoinMode} {before between steps : List JoinStep}
  {missed : JoinStep} {s s' padded u u' : Selection} {t : Table} {columns : List String}
  {row grown : Row}

theorem Value.isNull_iff {v : Value} : v.isNull = true ↔ v = .null := by
  cases v <;> simp [isNull]

/-- Joins keep rows full, and only where there are none the selection is empty. -/
theorem Database.full_joinSteps (hfull : s.Full) (hstart : s.hasJoins = false → s = .empty)
    (h : db.joinSteps mode s steps = .ok s') :
    s'.Full ∧ (s'.hasJoins = false → s' = .empty) := by
  induction steps generalizing s with
  | nil =>
    obtain rfl : s = s' := Except.ok.inj h
    exact ⟨hfull, hstart⟩
  | cons step steps ih =>
    obtain ⟨t, -, hc, -, hrest⟩ := of_joinSteps_cons h
    have hfields : s.hasJoins = false → s.fields = [] := by
      intro hjoins
      rw [hstart hjoins]
      rfl
    refine ih (hfull.joinTable hfields hc) (fun hjoins => ?_) hrest
    rw [Selection.hasJoins_joinTable] at hjoins
    cases hjoins

/-- Where there are rows there are joins. -/
theorem Selection.hasJoins_of_mem (hstart : s.hasJoins = false → s = .empty) (hmem : row ∈ s.data) :
    s.hasJoins = true := by
  by_contra hjoins
  rw [hstart (by simpa using hjoins)] at hmem
  cases hmem

/-- A row whose cells to be matched are all missing is matched by the blank rows. -/
theorem Selection.matchingRows_of_null (h : ∀ c ∈ u.onColumns t.relation columns, ∃ p,
      u.indexOf? c = some p ∧ row[p]? = some .null) :
    u.matchingRows t columns row = t.blankRows (u.onColumns t.relation columns) := by
  have hcells : u.cellsAt (u.onColumns t.relation columns) row =
      List.replicate (u.onColumns t.relation columns).length .null := by
    rw [cellsAt, Row.select, List.map_map, List.map_eq_replicate_iff]
    intro c hc
    obtain ⟨p, hp, hcell⟩ := h c hc
    simp [hp, hcell]
  rw [matchingRows, Table.blankRows, hcells]
  refine List.filter_congr fun stored _ => ?_
  rw [← t.length_cells (u.onColumns t.relation columns) stored, Bool.eq_iff_iff]
  simp only [decide_eq_true_eq, List.eq_replicate_iff, List.all_eq_true, Value.isNull_iff, true_and]

namespace PaddedRow

variable (h : PaddedRow db before missed between s padded u row grown)

include h

/-- What is known of the selection before the padding join. -/
theorem full : s.Full ∧ (s.hasJoins = false → s = .empty) :=
  Database.full_joinSteps (by rintro _ ⟨⟩) (fun _ => rfl) h.joined

theorem hasJoins : s.hasJoins = true :=
  Selection.hasJoins_of_mem h.full.2 h.mem

theorem run : db.joinSteps .left s (missed :: between) = .ok u := by
  rw [Database.joinSteps_cons, h.padding, Outcome.bind_ok, h.continued]

/-- The row is there before the later join. -/
theorem mem_data : grown ∈ u.data := by
  rw [Database.data_joinSteps h.hasJoins h.run]
  exact List.mem_flatMap.mpr ⟨row, h.mem, h.grown⟩

theorem hasJoins_grown : u.hasJoins = true :=
  Selection.hasJoins_of_mem (Database.full_joinSteps h.full.1 h.full.2 h.run).2 h.mem_data

/-- The cells that the padding join has added are missing. -/
theorem getElem?_eq_null {p : Nat} (hlow : s.fields.length ≤ p)
    (hhigh : p < padded.fields.length) : grown[p]? = some .null := by
  obtain ⟨-, t, ht, hc, hpadded⟩ := Selection.of_join_eq_ok h.padding
  subst hpadded
  rw [Selection.length_fields_joinTable h.hasJoins hc] at hhigh
  have hgrown := h.grown
  rw [Database.offspring_cons ht, Selection.extensions_of_matchingRows_eq_nil (h.unmatched t ht),
    List.flatMap_singleton] at hgrown
  -- the row comes first, then its padding, then what later joins have added
  obtain ⟨cells, rfl⟩ := Database.prefix_of_mem_offspring hgrown
  have hlength : row.length = s.fields.length := h.full.1 row h.mem
  rw [List.append_assoc, List.getElem?_append_right (by omega), List.getElem?_append_left,
    List.getElem?_replicate]
  · rw [if_pos (by omega)]
  · rw [List.length_replicate]
    omega

end PaddedRow

/-- A later relation that is matched on padded cells only: it matches the padded row with its blank
rows. Where it has none the row gets no match, whatever other rows are stored, and is padded again.
-/
theorem PaddedRow.join_later (h : PaddedRow db before missed between s padded u row grown)
    (later : JoinStep) (ht : db.table? later.relation = some t)
    (hjoin : u.join db later.relation later.columns .left = .ok u')
    (hon : ∀ c ∈ u.onColumns t.relation later.columns, ∃ p, u.indexOf? c = some p ∧
      s.fields.length ≤ p ∧ p < padded.fields.length) :
    grown ∈ u.data ∧ u'.data = u.data.flatMap (u.extensions t later.columns .left) ∧
      (t.blankRows (u.onColumns t.relation later.columns) = [] →
        u.extensions t later.columns .left grown = [grown ++
          List.replicate (u.addedColumns t.relation later.columns).length .null]) ∧
      (t.blankRows (u.onColumns t.relation later.columns) ≠ [] →
        u.extensions t later.columns .left grown =
          (t.blankRows (u.onColumns t.relation later.columns)).map fun stored =>
            grown ++ t.cells (u.addedColumns t.relation later.columns) stored) := by
  have hmatches : u.matchingRows t later.columns grown =
      t.blankRows (u.onColumns t.relation later.columns) := by
    refine Selection.matchingRows_of_null fun c hc => ?_
    obtain ⟨p, hp, hlow, hhigh⟩ := hon c hc
    exact ⟨p, hp, h.getElem?_eq_null hlow hhigh⟩
  refine ⟨h.mem_data, ?_, fun hblank => ?_, fun hblank => ?_⟩
  · rw [Selection.eq_joinTable_of_join ht hjoin]
    exact congrArg Selection.data (Selection.joinTable_withData h.hasJoins_grown u.data)
  · exact Selection.extensions_of_matchingRows_eq_nil (hmatches.trans hblank)
  · rw [← hmatches] at hblank ⊢
    exact Selection.extensions_of_matchingRows_ne_nil hblank

/-! ## Notes on links -/

/-- An item, no link, and a note under the given key. -/
def Database.notes (key : Value) : Database where
  tables := [
    ⟨⟨"item", [⟨"i", .integer, true, false, none⟩], by decide⟩, #[[.integer 1]], by decide⟩,
    ⟨⟨"link", [⟨"i", .integer, true, false, none⟩, ⟨"l", .integer, true, false, none⟩], by decide⟩,
      #[], by decide⟩,
    ⟨⟨"note", [⟨"l", .integer, true, false, none⟩, ⟨"t", .string, false, false, none⟩], by decide⟩,
      #[[key, .text "x"]], by simp [Relation.arity]⟩]
  tables_nodup := by simp

/-- The item. -/
def Selection.items : Selection :=
  Selection.empty.merge "item" [] [⟨"i", .integer, true, false, none⟩] [[.integer 1]]

/-- The item with padding for its links. -/
def Selection.links : Selection :=
  Selection.items.merge "link" ["i"] [⟨"l", .integer, true, false, none⟩] [[.integer 1, .null]]

/-- The column that notes are matched on is padded. -/
theorem Selection.links_padded : ∀ c ∈ ["l"], ∃ p, links.indexOf? c = some p ∧
    items.fields.length ≤ p ∧ p < links.fields.length := by
  decide

theorem Database.notes_padded (key : Value) :
    PaddedRow (notes key) [⟨"item", ["i"]⟩] ⟨"link", ["i", "l"]⟩ [] .items .links .links
      [.integer 1] [.integer 1, .null] where
  joined := rfl
  mem := by decide
  unmatched t ht := by
    obtain rfl := Option.some.inj ht
    rfl
  padding := by cbv
  continued := rfl
  grown := List.mem_singleton.mpr rfl

/-- A note with a key is no match for the padded item. -/
theorem PaddedRow.join_later_notes :
    ∃ t u', (Database.notes (.integer 7)).table? "note" = some t ∧
      Selection.links.join (.notes (.integer 7)) "note" ["l", "t"] .left = .ok u' ∧
      [.integer 1, .null] ∈ Selection.links.data ∧
      u'.data = Selection.links.data.flatMap (Selection.links.extensions t ["l", "t"] .left) ∧
      Selection.links.extensions t ["l", "t"] .left [.integer 1, .null] =
        [[.integer 1, .null, .null]] := by
  refine ⟨_, _, rfl, rfl, ?_⟩
  obtain ⟨hmem, hdata, hpadded, -⟩ := (Database.notes_padded (.integer 7)).join_later
    ⟨"note", ["l", "t"]⟩ rfl rfl Selection.links_padded
  exact ⟨hmem, hdata, hpadded (by cbv)⟩

/-- The padded item has a note when the key of the note is missing. -/
theorem Database.notes_matched :
    ∃ t u', PaddedRow (notes .null) [⟨"item", ["i"]⟩] ⟨"link", ["i", "l"]⟩ [] .items .links .links
        [.integer 1] [.integer 1, .null] ∧
      (notes .null).table? "note" = some t ∧
      Selection.links.join (notes .null) "note" ["l", "t"] .left = .ok u' ∧
      (∀ c ∈ Selection.links.onColumns t.relation ["l", "t"], ∃ p,
        Selection.links.indexOf? c = some p ∧ Selection.items.fields.length ≤ p ∧
          p < Selection.links.fields.length) ∧
      u'.data = [[.integer 1, .null, .text "x"]] := by
  refine ⟨_, _, notes_padded .null, rfl, rfl, Selection.links_padded, ?_⟩
  cbv

end ProfileQuery
