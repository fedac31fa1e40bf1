import ProfileQuery.Proofs.Execution.Inner
import ProfileQuery.Proofs.Selection.Sound

/-!
# Runs

What holds of a selection after any sequence of joins, filters and projections, of which some may
fail. The selection is sound (`sound_run`). And where no column has a dot in its name, the names of
the columns that were asked for are known: a bare name is that of the first field with this name, and
a qualified name is that of a field of its column, for a key the same field (`Named`).
-/

namespace ProfileQuery

open Plan (Dotless qualified)

/-- What is done to a selection. -/
inductive Operation where
  | join (relation : String) (columns : List String) (mode : JoinMode)
  | filter (keep : Row → Bool)
  | project (names : List String)

namespace Operation

/-- The outcome of an operation. -/
def outcome (db : Database) (s : Selection) : Operation → Except QueryError Selection
  | join relation columns mode => s.join db relation columns mode
  | filter keep => .ok (s.filter keep)
  | project names => s.project names

/-- The selection after an operation; one that fails leaves it as it was. -/
def apply (db : Database) (s : Selection) (op : Operation) : Selection :=
  match op.outcome db s with
  | .ok s' => s'
  | .error _ => s

/-- The selection after some operations, from the one without joins. -/
def run (db : Database) (ops : List Operation) : Selection :=
  ops.foldl (apply db) .empty

/-- Whether an operation names no column twice. -/
def Distinct : Operation → Prop
  | join _ columns _ => columns.Nodup
  | filter _ | project _ => True

/-- Whether one of some operations is a join of the given columns of a relation that got through. -/
def Joins (db : Database) (ops : List Operation) (relation : String) (columns : List String) : Prop :=
  ∃ before mode after s', ops = before ++ join relation columns mode :: after ∧
    (run db before).join db relation columns mode = .ok s'

variable {db : Database} {ops : List Operation} {op : Operation} {s s' : Selection}
  {relation : String} {columns : List String}

theorem run_concat (db : Database) (ops : List Operation) (op : Operation) :
    run db (ops ++ [op]) = op.apply db (run db ops) := by
  rw [run, List.foldl_append]
  rfl

theorem joins_concat_iff : Joins db (ops ++ [op]) relation columns ↔
    Joins db ops relation columns ∨
      ∃ mode s', op = join relation columns mode ∧
        (run db ops).join db relation columns mode = .ok s' := by
  constructor
  · rintro ⟨before, mode, after, s', heq, hjoin⟩
    rcases List.eq_nil_or_concat after with rfl | ⟨after, last, rfl⟩
    · obtain ⟨rfl, hop⟩ := List.append_inj' heq rfl
      exact .inr ⟨mode, s', List.singleton_inj.mp hop, hjoin⟩
    · rw [List.concat_eq_append, ← List.cons_append, ← List.append_assoc] at heq
      exact .inl ⟨before, mode, after, s', (List.append_inj' heq rfl).1, hjoin⟩
  · rintro (⟨before, mode, after, s', rfl, hjoin⟩ | ⟨mode, s', rfl, hjoin⟩)
    · exact ⟨before, mode, after ++ [op], s', by simp, hjoin⟩
    · exact ⟨ops, mode, [], s', rfl, hjoin⟩

/-- Only a join that gets through adds to the joins. -/
theorem joins_concat_of_ne (h : ∀ relation columns mode s', op = join relation columns mode →
    (run db ops).join db relation columns mode ≠ .ok s') :
    Joins db (ops ++ [op]) relation columns ↔ Joins db ops relation columns := by
  rw [joins_concat_iff, or_iff_left]
  rintro ⟨mode, s', hop, hjoin⟩
  exact h relation columns mode s' hop hjoin

/-! ## Soundness -/

theorem sound_apply (h : s.Sound) (db : Database) (op : Operation) : (op.apply db s).Sound := by
  unfold apply
  split
  · next s' hs' =>
    cases op with
    | join relation columns mode => exact h.join hs'
    | filter keep => exact Except.ok.inj hs' ▸ h.filter keep
    | project names => exact h.project hs'
  · exact h

/-- Whatever is done to a selection, it is sound. -/
theorem sound_run (db : Database) (ops : List Operation) : (run db ops).Sound := by
  induction ops using List.reverseRecOn with
  | nil => exact .empty
  | append_singleton ops op ih =>
    rw [run_concat]
    exact sound_apply ih db op

end Operation

/-! ## Names -/

/-- The names of a selection after some joins, for columns without dots. -/
structure Labelled (db : Database) (joins : String → List String → Prop) (s : Selection) :
    Prop where
  isJoined_iff : ∀ relation, s.isJoined relation = true ↔ ∃ columns, joins relation columns
  dotless : ∀ f ∈ s.fields, Dotless f.name
  bare : ∀ c, Dotless c → s.indexOf? c = s.fields.findIdx? (·.name == c)
  own : ∀ relation columns, joins relation columns → ∀ c ∈ columns, ∃ p f,
    s.indexOf? (qualified relation c) = some p ∧ s.fields[p]? = some f ∧ f.name = c ∧
      (c ∈ db.schema.keys relation → s.indexOf? c = some p)

namespace Labelled

variable {db : Database} {joins joins' : String → List String → Prop} {s s' : Selection}

theorem empty (db : Database) (h : ∀ relation columns, ¬ joins relation columns) :
    Labelled db joins .empty where
  isJoined_iff relation := by
    simp [Selection.isJoined, Selection.empty, h]
  dotless f hf := by cases hf
  bare c _ := rfl
  own relation columns hjoins := absurd hjoins (h relation columns)

/-- The rows and the columns that are shown play no part. -/
theorem congr (h : Labelled db joins s)
    (hjoins : ∀ relation columns, joins' relation columns ↔ joins relation columns)
    (hfields : s'.fields = s.fields) (hindex : s'.index = s.index) (hjoined : s'.joined = s.joined) :
    Labelled db joins' s' := by
  obtain rfl : joins' = joins := by
    funext relation columns
    exact propext (hjoins relation columns)
  refine ⟨?_, ?_, ?_, ?_⟩
  · simpa only [Selection.isJoined, hjoined] using h.isJoined_iff
  · simpa only [hfields] using h.dotless
  · simpa only [Selection.indexOf?, hindex, hfields] using h.bare
  · simpa only [Selection.indexOf?, hindex, hfields] using h.own

section

variable {t : Table} {columns : List String} {data : List Row}

/-- A column that is asked for in a join has its qualified name at a field of its name, and a key
has its bare name there, too. -/
theorem own_merge (h : Labelled db joins s) (hc : columns ⊆ t.relation.columns)
    (hdot : ∀ c ∈ t.relation.columns, Dotless c) (hnodup : columns.Nodup) {c : String}
    (hmem : c ∈ columns) :
    ∃ p f, (s.mergeTable t columns data).indexOf? (qualified t.relation.name c) = some p ∧
      (s.mergeTable t columns data).fields[p]? = some f ∧ f.name = c ∧
      (c ∈ t.relation.keys → (s.mergeTable t columns data).indexOf? c = some p) := by
  have hcdot := hdot c (hc hmem)
  by_cases hon : c ∈ s.onColumns t.relation columns
  · -- the column is there, so both names stand for its field
    obtain ⟨p, hp⟩ := Option.isSome_iff_exists.mp (Selection.mem_onColumns.mp hon).2.2
    have hfind := h.bare c hcdot
    rw [hp] at hfind
    obtain ⟨hlt, hname, -⟩ := List.findIdx?_eq_some_iff_getElem.mp hfind.symm
    refine ⟨p, s.fields[p], ?_, ?_, by simpa using hname, fun _ => ?_⟩
    · rw [Selection.indexOf?_mergeTable_on hc hdot hon, hp]
    · exact (List.getElem?_append_left hlt).trans (List.getElem?_eq_getElem hlt)
    · rw [Selection.indexOf?_mergeTable_bare hc hcdot, hp]
      rfl
  · have hadded : c ∈ s.addedColumns t.relation columns :=
      Selection.mem_addedColumns.mpr ⟨hmem, hon⟩
    obtain ⟨i, hi, hindex⟩ := Selection.indexOf?_mergeTable_added hc hdot hnodup data hadded
    have hnew := Selection.getElem?_of_idxOf? hi
    rw [← Selection.map_name_fieldsOf (Selection.added_subset hc), List.getElem?_map] at hnew
    obtain ⟨f, hf, hname⟩ := Option.map_eq_some_iff.mp hnew
    refine ⟨_, f, hindex, ?_, hname, fun hkey => ?_⟩
    · rw [Selection.mergeTable, Selection.merge,
        List.getElem?_append_right (Nat.le_add_right _ _), Nat.add_sub_cancel_left, hf]
    · -- a key that is not matched on was not there under its bare name
      have hnone : s.indexOf? c = none := by
        by_contra hne
        exact hon (Selection.mem_onColumns.mpr ⟨hmem, hkey, Option.isSome_iff_ne_none.mpr hne⟩)
      rw [Selection.indexOf?_mergeTable_bare hc hcdot, hnone, hi]
      rfl

/-- Joining one more relation keeps the names and adds its own. -/
theorem merge (h : Labelled db joins s) (hc : columns ⊆ t.relation.columns)
    (hdot : ∀ c ∈ t.relation.columns, Dotless c) (hnodup : columns.Nodup)
    (hkeys : db.schema.keys t.relation.name = t.relation.keys)
    (hnew : s.isJoined t.relation.name = false) (data : List Row) :
    Labelled db
      (fun relation asked => joins relation asked ∨ relation = t.relation.name ∧ asked = columns)
      (s.mergeTable t columns data) where
  isJoined_iff relation := by
    have hjoined : (s.mergeTable t columns data).isJoined relation = true ↔
        relation = t.relation.name ∨ s.isJoined relation = true := by
      simp [Selection.isJoined, Selection.mergeTable, Selection.merge]
    rw [hjoined, h.isJoined_iff]
    constructor
    · rintro (rfl | ⟨asked, hasked⟩)
      · exact ⟨columns, .inr ⟨rfl, rfl⟩⟩
      · exact ⟨asked, .inl hasked⟩
    · rintro ⟨asked, hasked | ⟨rfl, -⟩⟩
      · exact .inr ⟨asked, hasked⟩
      · exact .inl rfl
  dotless f hf := by
    rcases List.mem_append.mp hf with hf | hf
    · exact h.dotless f hf
    · exact Selection.dotless_fields hc hdot f hf
  bare c hcdot := by
    rw [Selection.indexOf?_mergeTable_bare hc hcdot, h.bare c hcdot, Selection.mergeTable,
      Selection.merge, List.findIdx?_append, Selection.findIdx?_fieldsOf (Selection.added_subset hc)]
    simp only [Nat.add_comm]
  own relation asked hasked c hmem := by
    rcases hasked with hasked | ⟨rfl, rfl⟩
    · obtain ⟨p, f, hp, hf, hname, hkey⟩ := h.own relation asked hasked c hmem
      have hcdot : Dotless c := hname ▸ h.dotless f (List.mem_of_getElem? hf)
      have hother : relation ≠ t.relation.name := by
        rintro rfl
        rw [(h.isJoined_iff _).mpr ⟨asked, hasked⟩] at hnew
        cases hnew
      refine ⟨p, f, ?_, ?_, hname, fun hc' => ?_⟩
      · rw [Selection.indexOf?_mergeTable_other hc hdot hother hcdot, hp]
      · exact (List.getElem?_append_left (List.getElem?_eq_some_iff.mp hf).1).trans hf
      · rw [Selection.indexOf?_mergeTable_bare hc hcdot, hkey hc']
        rfl
    · rw [hkeys]
      exact h.own_merge hc hdot hnodup hmem

end

theorem join (h : Labelled db joins s) (hsound : s.Sound) (dotless : db.schema.Dotless)
    {relation : String} {columns : List String} (hnodup : columns.Nodup) {mode : JoinMode}
    (hjoin : s.join db relation columns mode = .ok s') :
    Labelled db (fun r asked => joins r asked ∨ r = relation ∧ asked = columns) s' := by
  obtain ⟨hfault, t, ht, hc, rfl⟩ := Selection.of_join_eq_ok hjoin
  obtain rfl := Database.name_of_table? ht
  obtain ⟨data, hmerge⟩ := hsound.joinTable_eq t columns mode
  have hnew : s.isJoined t.relation.name = false := by
    by_contra hjoined
    rw [Selection.joinFault?, if_pos (by simpa using hjoined)] at hfault
    cases hfault
  rw [hmerge]
  exact h.merge hc (dotless.table ht) hnodup (Schema.keys_of_table? ht) hnew data

end Labelled

namespace Operation

variable {db : Database}

theorem labelled_apply {ops : List Operation} {op : Operation} (dotless : db.schema.Dotless)
    (hop : op.Distinct) (h : Labelled db (Joins db ops) (run db ops)) :
    Labelled db (Joins db (ops ++ [op])) (op.apply db (run db ops)) := by
  unfold apply
  cases houtcome : op.outcome db (run db ops) with
  | error e =>
    refine h.congr (fun relation columns => joins_concat_of_ne ?_) rfl rfl rfl
    rintro relation columns mode s' rfl hjoin
    cases houtcome.symm.trans hjoin
  | ok s' =>
    cases op with
    | join relation columns mode =>
      refine (h.join (sound_run db ops) dotless hop houtcome).congr (fun r asked => ?_) rfl rfl rfl
      rw [joins_concat_iff]
      refine or_congr_right ⟨?_, ?_⟩
      · rintro ⟨mode', s'', heq, -⟩
        cases heq
        exact ⟨rfl, rfl⟩
      · rintro ⟨rfl, rfl⟩
        exact ⟨mode, s', rfl, houtcome⟩
    | filter keep =>
      obtain rfl := Except.ok.inj houtcome
      exact h.congr (fun relation columns => joins_concat_of_ne (by simp)) rfl rfl rfl
    | project names =>
      obtain ⟨positions, -, rfl⟩ := Selection.project_eq_ok.mp houtcome
      exact h.congr (fun relation columns => joins_concat_of_ne (by simp)) rfl rfl rfl

/-- Where no column has a dot in its name, the names of a selection are those of the joins. -/
theorem labelled_run (dotless : db.schema.Dotless) {ops : List Operation}
    (distinct : ∀ op ∈ ops, op.Distinct) : Labelled db (Joins db ops) (run db ops) := by
  induction ops using List.reverseRecOn with
  | nil =>
    refine .empty db ?_
    rintro relation columns ⟨before, mode, after, s', heq, -⟩
    simp at heq
  | append_singleton ops op ih =>
    rw [run_concat]
    refine labelled_apply dotless (distinct op (by simp)) (ih fun other hother => ?_)
    exact distinct other (List.mem_append_left _ hother)

/-- Whatever is done to a selection, its rows have as many cells as it has fields, all known and
shown positions are those of fields, and no cell is read from behind the end of a row. Without dots
in the names of columns, the columns that were asked for are known by their names. -/
theorem run_spec (db : Database) (ops : List Operation) :
    ((run db ops).Sound ∧ (run db ops).Reads (run db ops).shownPositions ∧
      (run db ops).Reads (run db ops).allPositions ∧
      ∀ names positions, (run db ops).positions names = .ok positions →
        (run db ops).Reads positions) ∧
    (db.schema.Dotless → (∀ op ∈ ops, op.Distinct) →
      (∀ relation, (run db ops).isJoined relation = true ↔ ∃ columns, Joins db ops relation columns) ∧
      ∀ relation columns, Joins db ops relation columns → ∀ c ∈ columns, ∃ p q f,
        (run db ops).indexOf? (qualified relation c) = some p ∧
        (run db ops).fields[p]? = some f ∧ f.name = c ∧
        (run db ops).indexOf? c = some q ∧
        (run db ops).fields.findIdx? (·.name == c) = some q ∧
        (c ∈ db.schema.keys relation → p = q)) := by
  have hsound := sound_run db ops
  refine ⟨⟨hsound, hsound.shownPositions, hsound.allPositions, fun _ _ => hsound.positions⟩, ?_⟩
  intro dotless distinct
  have hlabelled := labelled_run dotless distinct
  refine ⟨hlabelled.isJoined_iff, fun relation columns hjoins c hmem => ?_⟩
  obtain ⟨p, f, hp, hf, hname, hkey⟩ := hlabelled.own relation columns hjoins c hmem
  have hfield := List.mem_of_getElem? hf
  -- the field has the bare name, so that name is known
  obtain ⟨q, hq⟩ := Option.isSome_iff_exists.mp (List.findIdx?_isSome ▸
    List.any_eq_true.mpr ⟨f, hfield, by simpa using hname⟩ :
      ((run db ops).fields.findIdx? (·.name == c)).isSome = true)
  have hbare := (hlabelled.bare c (hname ▸ hlabelled.dotless f hfield)).trans hq
  exact ⟨p, q, f, hp, hf, hname, hbare, hq, fun hc =>
    Option.some.inj ((hkey hc).symm.trans hbare)⟩

/-- Two joins, with a projection and a join that fails between them. -/
def visits : List Operation :=
  [.join "person" ["age", "id"] .inner, .project ["age"], .join "person" ["id"] .inner,
    .filter fun row => row.length = 2, .join "visit" ["day", "id"] .left]

theorem joins_visits : Joins .visits visits "visit" ["day", "id"] := by
  obtain ⟨s', hs'⟩ := Outcome.exists_of_isOk (show ((run .visits (visits.take 4)).join .visits
    "visit" ["day", "id"] .left).isOk = true by cbv)
  exact ⟨visits.take 4, .left, [], s', rfl, hs'⟩

/-- The key of the visits is that of the people. -/
theorem run_spec_visits : Database.visits.schema.Dotless ∧ (∀ op ∈ visits, op.Distinct) ∧
    ∃ p, (run .visits visits).indexOf? (qualified "visit" "id") = some p ∧
      (run .visits visits).indexOf? "id" = some p := by
  have dotless : Database.visits.schema.Dotless := by decide
  have distinct : ∀ op ∈ visits, op.Distinct := by simp [visits, Distinct]
  obtain ⟨-, hown⟩ := (run_spec .visits visits).2 dotless distinct
  obtain ⟨p, q, -, hp, -, -, hq, -, hkey⟩ := hown "visit" ["day", "id"] joins_visits "id" (by simp)
  obtain rfl := hkey (by decide)
  exact ⟨dotless, distinct, p, hp, hq⟩

end Operation

end ProfileQuery
