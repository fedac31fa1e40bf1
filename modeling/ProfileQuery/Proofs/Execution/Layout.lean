import ProfileQuery.Proofs.Plan.Steps
import ProfileQuery.Proofs.Selection.Join
import ProfileQuery.Proofs.Selection.NameIndex

/-!
# The layout of joined rows

Where the cells of joined rows come from (`Indexed`): every position holds a column of some step, a
bare name stands for the column that was fetched first under it, and a qualified name for its own
column, unless that is a key that an earlier step fetched already; then it stands for the column of
that step. The join mode plays no part in this.
-/

namespace ProfileQuery

open Plan (Dotless Fetches JoinStep qualified)

theorem Schema.keys_of_table? {db : Database} {relation : String} {t : Table}
    (ht : db.table? relation = some t) : db.schema.keys relation = t.relation.keys := by
  rw [Schema.keys, Database.relation?_schema, ht]
  rfl

namespace Selection

variable {s : Selection} {t : Table} {columns : List String} {c other : String} {data : List Row}

/-! ## One more relation -/

theorem findIdx?_fieldsOf {r : Relation} (h : columns ⊆ r.columns) (c : String) :
    (r.fieldsOf columns).findIdx? (·.name == c) = columns.idxOf? c := by
  conv_rhs => rw [← map_name_fieldsOf h, List.idxOf?, List.findIdx?_map]
  rfl

theorem getElem?_of_idxOf? {names : List String} {i : Nat} (h : names.idxOf? c = some i) :
    names[i]? = some c := by
  obtain ⟨hlt, heq, -⟩ := List.findIdx?_eq_some_iff_getElem.mp h
  rw [List.getElem?_eq_getElem hlt, beq_iff_eq.mp heq]

/-- The selection after a join, whatever its rows are. -/
def mergeTable (s : Selection) (t : Table) (columns : List String) (data : List Row) : Selection :=
  s.merge t.relation.name (s.onColumns t.relation columns)
    (t.relation.fieldsOf (s.addedColumns t.relation columns)) data

section

variable (hc : columns ⊆ t.relation.columns) (hdot : ∀ c ∈ t.relation.columns, Dotless c)

include hc

theorem added_subset : s.addedColumns t.relation columns ⊆ t.relation.columns :=
  fun _ hmem => hc (addedColumns_subset hmem)

theorem length_fields_mergeTable :
    (s.mergeTable t columns data).fields.length =
      s.fields.length + (s.addedColumns t.relation columns).length := by
  have hnames := congrArg List.length (map_name_fieldsOf (added_subset (s := s) hc))
  rw [List.length_map] at hnames
  rw [mergeTable, merge, List.length_append, hnames]

theorem indexOf?_mergeTable_bare (h : Dotless c) :
    (s.mergeTable t columns data).indexOf? c =
      (s.indexOf? c).or
        (((s.addedColumns t.relation columns).idxOf? c).map (s.fields.length + ·)) := by
  rw [indexOf?, mergeTable, merge, find?_indexShared_bare h, find?_indexFields_bare h,
    findIdx?_fieldsOf (added_subset hc)]
  rfl

include hdot

theorem dotless_fields :
    ∀ f ∈ t.relation.fieldsOf (s.addedColumns t.relation columns), Dotless f.name := by
  intro f hf
  have hname : f.name ∈ s.addedColumns t.relation columns := by
    rw [← map_name_fieldsOf (added_subset (s := s) hc)]
    exact List.mem_map_of_mem hf
  exact hdot _ (added_subset hc hname)

theorem indexOf?_mergeTable_other (hother : other ≠ t.relation.name) (h : Dotless c) :
    (s.mergeTable t columns data).indexOf? (qualified other c) = s.indexOf? (qualified other c) := by
  rw [indexOf?, mergeTable, merge,
    find?_indexShared_other hother h fun n hn => hdot n (hc (onColumns_subset hn)),
    find?_indexFields_other hother h (dotless_fields hc hdot)]
  rfl

/-- A column that the relation is matched on has the position that the selection had for it. -/
theorem indexOf?_mergeTable_on (h : c ∈ s.onColumns t.relation columns) :
    (s.mergeTable t columns data).indexOf? (qualified t.relation.name c) = s.indexOf? c := by
  have hcdot := hdot c (hc (onColumns_subset h))
  obtain ⟨p, hp⟩ := Option.isSome_iff_exists.mp (mem_onColumns.mp h).2.2
  have hp' : s.index.find? c = some p := hp
  rw [indexOf?, mergeTable, merge, find?_indexShared_own hcdot
    fun n hn => hdot n (hc (onColumns_subset hn)), if_pos h, find?_indexFields_bare hcdot, hp', hp]
  rfl

/-- A column that the relation adds has a position behind those of the selection. -/
theorem indexOf?_mergeTable_added (hnodup : columns.Nodup) (data : List Row)
    (h : c ∈ s.addedColumns t.relation columns) :
    ∃ i, (s.addedColumns t.relation columns).idxOf? c = some i ∧
      (s.mergeTable t columns data).indexOf? (qualified t.relation.name c) =
        some (s.fields.length + i) := by
  have hcdot := hdot c (added_subset hc h)
  obtain ⟨i, hi⟩ := Option.isSome_iff_exists.mp
    (by simpa [List.idxOf?] using h :
      ((s.addedColumns t.relation columns).idxOf? c).isSome = true)
  refine ⟨i, hi, ?_⟩
  have hnames := map_name_fieldsOf (added_subset (s := s) hc)
  rw [indexOf?, mergeTable, merge, find?_indexShared_own hcdot
    fun n hn => hdot n (hc (onColumns_subset hn)), if_neg (mem_addedColumns.mp h).2,
    find?_indexFields_own hcdot (dotless_fields hc hdot)
      (by rw [hnames]; exact hnodup.filter _),
    findIdx?_fieldsOf (added_subset hc), hi]
  rfl

end

end Selection

/-! ## The invariant -/

/-- What the positions of a selection hold after the steps `done`; `layout` lists their relations
and columns. -/
structure Indexed (db : Database) (done : List JoinStep) (layout : List (String × String))
    (s : Selection) : Prop where
  joined : s.joined = (done.map (·.relation)).reverse
  width : s.fields.length = layout.length
  dotless : ∀ step ∈ done, ∀ c ∈ step.columns, Dotless c
  fetched : ∀ source ∈ layout, Fetches done source.1 source.2
  bare_none : ∀ c, Dotless c → done.find? (c ∈ ·.columns) = none → s.indexOf? c = none
  bare_some : ∀ c first, Dotless c → done.find? (c ∈ ·.columns) = some first →
    ∃ p, s.indexOf? c = some p ∧ layout[p]? = some (first.relation, c)
  own : ∀ before step after, done = before ++ step :: after → ∀ c ∈ step.columns,
    ∃ p, s.indexOf? (qualified step.relation c) = some p ∧
      (layout[p]? = some (step.relation, c) ∨ c ∈ db.schema.keys step.relation ∧
        ∃ first, before.find? (c ∈ ·.columns) = some first ∧ layout[p]? = some (first.relation, c))

namespace Indexed

variable {db : Database} {done : List JoinStep} {layout : List (String × String)} {s : Selection}

theorem empty (db : Database) : Indexed db [] [] .empty where
  joined := rfl
  width := rfl
  dotless := by simp
  fetched := by simp
  bare_none _ _ _ := rfl
  bare_some _ _ _ h := by simp at h
  own before step after h := by simp at h

/-- A bare name is known exactly when some step fetches a column of that name. -/
theorem isSome_indexOf? (h : Indexed db done layout s) {c : String} (hc : Dotless c) :
    (s.indexOf? c).isSome = true ↔ ∃ step ∈ done, c ∈ step.columns := by
  cases hfind : done.find? (c ∈ ·.columns) with
  | none =>
    rw [h.bare_none c hc hfind]
    simpa using hfind
  | some first =>
    obtain ⟨p, hp, -⟩ := h.bare_some c first hc hfind
    simp only [hp, Option.isSome_some, true_iff]
    exact ⟨first, List.mem_of_find?_eq_some hfind, by simpa using List.find?_some hfind⟩

variable {step : JoinStep} {t : Table}

/-- The columns on which a relation is matched: its keys that an earlier step fetched. -/
theorem mem_onColumns (h : Indexed db done layout s) {c : String}
    (hdot : ∀ c ∈ step.columns, Dotless c) :
    c ∈ s.onColumns t.relation step.columns ↔
      c ∈ step.columns ∧ c ∈ t.relation.keys ∧ ∃ earlier ∈ done, c ∈ earlier.columns := by
  rw [Selection.mem_onColumns]
  constructor
  · rintro ⟨hc, hkey, hsome⟩
    exact ⟨hc, hkey, (h.isSome_indexOf? (hdot c hc)).mp hsome⟩
  · rintro ⟨hc, hkey, hsome⟩
    exact ⟨hc, hkey, (h.isSome_indexOf? (hdot c hc)).mpr hsome⟩

theorem idxOf?_isSome {names : List String} {c : String} (h : c ∈ names) :
    ∃ i, names.idxOf? c = some i :=
  Option.isSome_iff_exists.mp (by simpa [List.idxOf?] using h)

/-- A position of a layout holds the same column when columns are added. -/
theorem layout_old {layout : List (String × String)} {p : Nat} {source : String × String}
    (added : List (String × String)) (h : layout[p]? = some source) :
    (layout ++ added)[p]? = some source := by
  rwa [List.getElem?_append_left (List.getElem?_eq_some_iff.mp h).1]

/-- The columns that are added stand behind those of the selection. -/
theorem layout_new (h : Indexed db done layout s) (relation : String) {added : List String}
    {i : Nat} {c : String} (hi : added[i]? = some c) :
    (layout ++ added.map (relation, ·))[s.fields.length + i]? = some (relation, c) := by
  rw [h.width, List.getElem?_append_right (Nat.le_add_right _ _), Nat.add_sub_cancel_left,
    List.getElem?_map, hi]
  rfl

theorem fetched_added (h : Indexed db done layout s) {source : String × String}
    (hsource : source ∈ layout ++
      (s.addedColumns t.relation step.columns).map (step.relation, ·)) :
    Fetches (done ++ [step]) source.1 source.2 := by
  rcases List.mem_append.mp hsource with hold | hadded
  · obtain ⟨step', hstep', hrest⟩ := h.fetched source hold
    exact ⟨step', List.mem_append_left _ hstep', hrest⟩
  · obtain ⟨c, hmem, rfl⟩ := List.mem_map.mp hadded
    exact ⟨step, by simp, rfl, Selection.addedColumns_subset hmem⟩

section

variable (h : Indexed db done layout s) (hc : step.columns ⊆ t.relation.columns)
variable (hdot : ∀ c ∈ t.relation.columns, Dotless c) (data : List Row)

include h hc

theorem bare_none_mergeTable {c : String} (hcdot : Dotless c)
    (hfind : (done ++ [step]).find? (c ∈ ·.columns) = none) :
    (s.mergeTable t step.columns data).indexOf? c = none := by
  rw [List.find?_append, Option.or_eq_none_iff] at hfind
  have hout : c ∉ step.columns := by simpa using hfind.2
  have hnone : (s.addedColumns t.relation step.columns).idxOf? c = none := by
    simp only [List.idxOf?, List.findIdx?_eq_none_iff, beq_eq_false_iff_ne]
    rintro other hmem rfl
    exact hout (Selection.addedColumns_subset hmem)
  rw [Selection.indexOf?_mergeTable_bare hc hcdot, h.bare_none c hcdot hfind.1, hnone]
  rfl

theorem bare_some_mergeTable {c : String} {first : JoinStep} (hcdot : Dotless c)
    (hfind : (done ++ [step]).find? (c ∈ ·.columns) = some first) :
    ∃ p, (s.mergeTable t step.columns data).indexOf? c = some p ∧
      (layout ++ (s.addedColumns t.relation step.columns).map (step.relation, ·))[p]? =
        some (first.relation, c) := by
  rw [List.find?_append] at hfind
  -- the column is an earlier one, or else the step adds it
  cases hdone : done.find? (c ∈ ·.columns) with
  | some first' =>
    rw [hdone] at hfind
    obtain rfl := Option.some.inj hfind
    obtain ⟨p, hp, hlayout⟩ := h.bare_some c first' hcdot hdone
    refine ⟨p, ?_, layout_old _ hlayout⟩
    rw [Selection.indexOf?_mergeTable_bare hc hcdot, hp]
    rfl
  | none =>
    rw [hdone, Option.none_or] at hfind
    obtain rfl := List.mem_singleton.mp (List.mem_of_find?_eq_some hfind)
    have hmem : c ∈ first.columns := by simpa using List.find?_some hfind
    have hbare := h.bare_none c hcdot hdone
    have hadded : c ∈ s.addedColumns t.relation first.columns := by
      refine Selection.mem_addedColumns.mpr ⟨hmem, fun hon => ?_⟩
      have hsome := (Selection.mem_onColumns.mp hon).2.2
      rw [hbare] at hsome
      cases hsome
    obtain ⟨i, hi⟩ := idxOf?_isSome hadded
    refine ⟨s.fields.length + i, ?_, h.layout_new _ (Selection.getElem?_of_idxOf? hi)⟩
    rw [Selection.indexOf?_mergeTable_bare hc hcdot, hbare, hi]
    rfl

include hdot

/-- A qualified name of the relation that is joined stands for the column that it is matched on,
or for the one that it adds. -/
theorem own_mergeTable (ht : db.table? step.relation = some t) (hnodup : step.columns.Nodup)
    {c : String} (hmem : c ∈ step.columns) :
    ∃ p, (s.mergeTable t step.columns data).indexOf? (qualified step.relation c) = some p ∧
      ((layout ++ (s.addedColumns t.relation step.columns).map (step.relation, ·))[p]? =
          some (step.relation, c) ∨
        c ∈ db.schema.keys step.relation ∧ ∃ first, done.find? (c ∈ ·.columns) = some first ∧
          (layout ++ (s.addedColumns t.relation step.columns).map (step.relation, ·))[p]? =
            some (first.relation, c)) := by
  have hname := Database.name_of_table? ht
  by_cases hon : c ∈ s.onColumns t.relation step.columns
  · obtain ⟨-, hkey, earlier, hearlier, hcolumn⟩ :=
      (h.mem_onColumns fun c hcolumn => hdot c (hc hcolumn)).mp hon
    obtain ⟨first, hfirst⟩ := Option.isSome_iff_exists.mp
      (by simpa using ⟨earlier, hearlier, hcolumn⟩ :
        (done.find? (c ∈ ·.columns)).isSome = true)
    obtain ⟨p, hp, hlayout⟩ := h.bare_some c first (hdot c (hc hmem)) hfirst
    refine ⟨p, ?_, .inr ⟨?_, first, hfirst, layout_old _ hlayout⟩⟩
    · rw [← hname, Selection.indexOf?_mergeTable_on hc hdot hon, hp]
    · rwa [Schema.keys_of_table? ht]
  · obtain ⟨i, hi, hindex⟩ := Selection.indexOf?_mergeTable_added hc hdot hnodup data
      (Selection.mem_addedColumns.mpr ⟨hmem, hon⟩)
    exact ⟨s.fields.length + i, by rw [← hname, hindex], .inl (h.layout_new _ (Selection.getElem?_of_idxOf? hi))⟩

/-- Joining one more relation keeps the positions and adds those of its new columns. -/
theorem mergeTable (ht : db.table? step.relation = some t) (hnodup : step.columns.Nodup)
    (hnew : step.relation ∉ done.map (·.relation)) :
    Indexed db (done ++ [step])
      (layout ++ (s.addedColumns t.relation step.columns).map (step.relation, ·))
      (s.mergeTable t step.columns data) where
  joined := by
    rw [Selection.mergeTable, Selection.merge, Database.name_of_table? ht, List.map_append,
      List.reverse_append, h.joined]
    rfl
  width := by
    rw [Selection.length_fields_mergeTable hc, h.width, List.length_append, List.length_map]
  dotless step' hstep' c hmem := by
    rcases List.mem_append.mp hstep' with hold | hnew
    · exact h.dotless step' hold c hmem
    · obtain rfl := List.mem_singleton.mp hnew
      exact hdot c (hc hmem)
  fetched _ hsource := h.fetched_added hsource
  bare_none _ hcdot hfind := h.bare_none_mergeTable hc data hcdot hfind
  bare_some _ _ hcdot hfind := h.bare_some_mergeTable hc data hcdot hfind
  own before step' after heq c hmem := by
    rcases List.eq_nil_or_concat after with rfl | ⟨after', last, rfl⟩
    · obtain ⟨rfl, hstep⟩ := List.append_inj' heq rfl
      obtain rfl := List.singleton_inj.mp hstep
      exact h.own_mergeTable hc hdot data ht hnodup hmem
    · -- the qualified names of an earlier step stand for what they stood for
      rw [List.concat_eq_append, ← List.cons_append, ← List.append_assoc] at heq
      have hdone : done = before ++ step' :: after' := (List.append_inj' heq rfl).1
      obtain ⟨p, hp, hlayout⟩ := h.own before step' after' hdone c hmem
      have hother : step'.relation ≠ t.relation.name := by
        rw [Database.name_of_table? ht]
        intro hsame
        exact hnew (hsame ▸ List.mem_map_of_mem (by simp [hdone]))
      have hcdot := h.dotless step' (by simp [hdone]) c hmem
      refine ⟨p, ?_, ?_⟩
      · rw [Selection.indexOf?_mergeTable_other hc hdot hother hcdot, hp]
      · exact hlayout.imp (layout_old _) fun ⟨hkey, first, hfirst, hl⟩ =>
          ⟨hkey, first, hfirst, layout_old _ hl⟩

end

end Indexed

end ProfileQuery
