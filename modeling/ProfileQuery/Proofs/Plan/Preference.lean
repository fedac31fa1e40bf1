import Mathlib.Data.List.Sort
import ProfileQuery.Plan.ColumnIndex
import ProfileQuery.Plan.Resolution
import ProfileQuery.Proofs.Plan.Name
import ProfileQuery.Proofs.Store.Database

/-!
# Preferred relations

A bare name is looked for in the relations that a query names first. An index of all columns of a
schema holds under each column the relations that define it (`ColumnIndex.relations_ofSchema`), and a
stable sort puts the named ones in front without loss (`ColumnIndex.relations_prefer`); these are the
candidates by which names are resolved. Main statement: a bare name is resolved to its column in the
first named relation that defines it, or if there is none in the first of all that do, and fails when
there is none either (`resolve_preferred`).
-/

namespace ProfileQuery.Plan

variable {s : Schema} {named : List String} {column relation : String}

/-! ## The relations that define a column -/

/-- Whether a relation of a schema defines a column. -/
def Defines (s : Schema) (column relation : String) : Prop :=
  ∃ r ∈ s.relations, r.name = relation ∧ column ∈ r.columns

instance : DecidablePred (Defines s column) := fun relation =>
  inferInstanceAs (Decidable (∃ r ∈ s.relations, r.name = relation ∧ column ∈ r.columns))

theorem defines_name {r : Relation} (hr : r ∈ s.relations) :
    Defines s column r.name ↔ column ∈ r.columns := by
  constructor
  · rintro ⟨other, hother, hname, hcolumn⟩
    rwa [← List.inj_on_of_nodup_map s.relations_nodup hother hr hname]
  · exact fun hcolumn => ⟨r, hr, rfl, hcolumn⟩

theorem Defines.mem_names (h : Defines s column relation) : relation ∈ s.names :=
  let ⟨_, hr, hname, _⟩ := h
  hname ▸ List.mem_map_of_mem hr

/-- The relations that define a column are found by going along the schema. -/
theorem defining_eq (s : Schema) (column : String) :
    (s.relations.filter fun r => (r.field? column).isSome).map (·.name) =
      s.names.filter (Defines s column ·) := by
  rw [Schema.names, List.filter_map]
  congr 1
  refine List.filter_congr fun r hr => Bool.eq_iff_iff.mpr ?_
  rw [Relation.isSome_field?, Function.comp_apply, decide_eq_true_eq, defines_name hr]

theorem candidates_eq (s : Schema) (named : List String) (column : String) :
    candidates s named column =
      s.names.filter (fun relation => relation ∈ named ∧ Defines s column relation) ++
        s.names.filter (fun relation => relation ∉ named ∧ Defines s column relation) := by
  simp only [candidates, defining_eq, List.filter_filter, Bool.decide_and]

/-! ## The index of columns -/

/-- A stable sort leaves alone the order of elements that may all precede each other. -/
theorem filter_mergeSort {α : Type} {le : α → α → Bool}
    (htrans : ∀ a b c, le a b = true → le b c = true → le a c = true)
    (htotal : ∀ a b, (le a b || le b a) = true) (xs : List α) {p : α → Bool}
    (hp : ∀ a b, p a = true → p b = true → le a b = true) :
    (xs.mergeSort le).filter p = xs.filter p := by
  have hpairwise : (xs.filter p).Pairwise fun a b => le a b = true :=
    List.pairwise_of_forall_mem_list fun a ha b hb =>
      hp a b (List.of_mem_filter ha) (List.of_mem_filter hb)
  have hsublist : (xs.filter p).Sublist ((xs.mergeSort le).filter p) := by
    have := (List.sublist_mergeSort htrans htotal hpairwise List.filter_sublist).filter p
    simpa [List.filter_filter] using this
  exact (hsublist.eq_of_length ((List.mergeSort_perm xs le).filter p).length_eq.symm).symm

/-- Where the elements with a property come before the others, the list falls in two. -/
theorem filter_append_filter {α : Type} {p : α → Bool} {xs : List α}
    (h : xs.Pairwise fun a b => (p a || !p b) = true) :
    xs.filter p ++ xs.filter (!p ·) = xs := by
  induction xs with
  | nil => rfl
  | cons x xs ih =>
    obtain ⟨hx, hxs⟩ := List.pairwise_cons.mp h
    cases hpx : p x with
    | true => simp [hpx, ih hxs]
    | false =>
      have hnone : ∀ y ∈ xs, p y = false := fun y hy => by simpa [hpx] using hx y hy
      have hfront : xs.filter p = [] := by simpa [List.filter_eq_nil_iff] using hnone
      have hback : xs.filter (!p ·) = xs := by simpa [List.filter_eq_self] using hnone
      simp [hpx, hfront, hback]

namespace ColumnIndex

theorem relations_add (ix : ColumnIndex) (column relation other : String) :
    (ix.add column relation).relations other =
      ix.relations other ++ if other = column then [relation] else [] := by
  by_cases h : other = column <;> simp [relations, add, Entries.under_change, h]

/-- A relation is added once under each of its columns. -/
theorem relations_addRelation (ix : ColumnIndex) (r : Relation) (column : String) :
    (ix.addRelation r).relations column =
      ix.relations column ++ if (r.field? column).isSome then [r.name] else [] := by
  have hfields : ∀ (fields : List Field) (ix : ColumnIndex), (fields.map (·.name)).Nodup →
      (fields.foldl (fun ix field => ix.add field.name r.name) ix).relations column =
        ix.relations column ++ if column ∈ fields.map (·.name) then [r.name] else [] := by
    intro fields
    induction fields with
    | nil => simp
    | cons field fields ih =>
      intro ix hnodup
      obtain ⟨hout, hnodup⟩ := List.nodup_cons.mp hnodup
      rw [List.foldl_cons, ih _ hnodup, relations_add, List.append_assoc]
      by_cases h : column = field.name
      · simp [h, hout]
      · simp [h]
  rw [addRelation, hfields _ _ r.fields_nodup]
  simp only [Relation.isSome_field?, Relation.columns]

theorem relations_ofSchema (s : Schema) (column : String) :
    (ofSchema s).relations column =
      (s.relations.filter fun r => (r.field? column).isSome).map (·.name) := by
  have hrelations : ∀ (rs : List Relation) (ix : ColumnIndex),
      (rs.foldl addRelation ix).relations column =
        ix.relations column ++ (rs.filter fun r => (r.field? column).isSome).map (·.name) := by
    intro rs
    induction rs with
    | nil => simp
    | cons r rs ih =>
      intro ix
      rw [List.foldl_cons, ih, relations_addRelation, List.append_assoc, List.filter_cons]
      split <;> simp
  exact hrelations s.relations ⟨[]⟩

theorem relations_prefer (ix : ColumnIndex) (named : List String) (column : String) :
    (ix.prefer named).relations column =
      (ix.relations column).filter (· ∈ named) ++ (ix.relations column).filter (· ∉ named) := by
  have hsorted : (ix.prefer named).relations column =
      (ix.relations column).mergeSort (mayPrecede named) :=
    Entries.under_map (f := (·.mergeSort (mayPrecede named))) List.mergeSort_nil ix.entries column
  rw [hsorted]
  have htrans : ∀ a b c, mayPrecede named a b = true → mayPrecede named b c = true →
      mayPrecede named a c = true := by
    intro a b c
    simp only [mayPrecede, Bool.or_eq_true, decide_eq_true_eq]
    tauto
  have htotal : ∀ a b, (mayPrecede named a b || mayPrecede named b a) = true := by
    intro a b
    simp only [mayPrecede, Bool.or_eq_true, decide_eq_true_eq]
    tauto
  have hpairwise : ((ix.relations column).mergeSort (mayPrecede named)).Pairwise fun a b =>
      (decide (a ∈ named) || !decide (b ∈ named)) = true := by
    simpa [mayPrecede] using List.pairwise_mergeSort htrans htotal (ix.relations column)
  rw [← filter_append_filter hpairwise, filter_mergeSort htrans htotal,
    filter_mergeSort htrans htotal]
  · simp
  · simp +contextual [mayPrecede]
  · simp +contextual [mayPrecede]

/-- The relations under a column are the candidates by which its name is resolved. -/
theorem relations_eq_candidates (s : Schema) (named : List String) (column : String) :
    ((ofSchema s).prefer named).relations column = candidates s named column := by
  rw [relations_prefer, relations_ofSchema, candidates]

end ColumnIndex

/-! ## Resolving bare names -/

/-- Whether a name is the first in a list that has a property. -/
def IsFirst (p : String → Prop) (names : List String) (name : String) : Prop :=
  p name ∧ ∃ before after, names = before ++ name :: after ∧ ∀ other ∈ before, ¬ p other

theorem find?_eq_some_iff_isFirst {p : String → Prop} [DecidablePred p] {names : List String}
    {name : String} : names.find? (p ·) = some name ↔ IsFirst p names name := by
  simp [List.find?_eq_some_iff_append, IsFirst]

/-- The preferred relation for a column: the first named one that defines it, or if none does, the
first one that does. -/
def Prefers (s : Schema) (named : List String) (column relation : String) : Prop :=
  IsFirst (fun relation => relation ∈ named ∧ Defines s column relation) s.names relation ∨
    (∀ other ∈ named, ¬ Defines s column other) ∧ IsFirst (Defines s column) s.names relation

theorem mem_candidates : relation ∈ candidates s named column ↔ Defines s column relation := by
  have hnames : Defines s column relation → relation ∈ s.names := Defines.mem_names
  rw [candidates_eq, List.mem_append, List.mem_filter, List.mem_filter, decide_eq_true_eq,
    decide_eq_true_eq]
  tauto

theorem head?_candidates :
    (candidates s named column).head? = some relation ↔ Prefers s named column relation := by
  have hnone : (∀ other ∈ s.names, ¬ decide (other ∈ named ∧ Defines s column other) = true) ↔
      ∀ other ∈ named, ¬ Defines s column other := by
    simp only [decide_eq_true_eq, not_and]
    exact ⟨fun h other hnamed hdefines => h other hdefines.mem_names hnamed hdefines,
      fun h other _ => h other⟩
  rw [candidates_eq, List.head?_append, List.head?_filter, List.head?_filter,
    Option.or_eq_some_iff, find?_eq_some_iff_isFirst, List.find?_eq_none, hnone,
    find?_eq_some_iff_isFirst]
  refine or_congr_right (and_congr_right fun hno => ?_)
  -- where no named relation defines the column, the others are all that do
  have hothers : (fun other => other ∉ named ∧ Defines s column other) = Defines s column := by
    funext other
    exact propext ⟨And.right, fun hdefines => ⟨fun hnamed => hno other hnamed hdefines, hdefines⟩⟩
  rw [hothers]

/-- A bare name is resolved to the column of its first candidate. -/
theorem resolve_of_dotless (h : Dotless column) : resolve s named column =
    match (candidates s named column).head? with
    | some relation => .ok (qualified relation column)
    | none => .error (.undefinedColumn column) := by
  have hsplit : splitQualified column = (none, column) := by
    simp [splitQualified, splitLastDot_eq_none.mpr h]
  simp only [resolve, hsplit]
  cases candidates s named column <;> rfl

theorem resolve_of_not_dotless (h : ¬ Dotless column) : resolve s named column = .ok column := by
  have hparts : splitLastDot column.toList ≠ none := fun hnone => h (splitLastDot_eq_none.mp hnone)
  obtain ⟨parts, hparts⟩ := Option.ne_none_iff_exists'.mp hparts
  simp only [resolve, splitQualified, hparts]

theorem nodup_candidates (s : Schema) (named : List String) (column : String) :
    (candidates s named column).Nodup := by
  have hnames : s.names.Nodup := s.relations_nodup
  rw [candidates_eq]
  refine (hnames.filter _).append (hnames.filter _) fun relation hfront hback => ?_
  have hnamed := (of_decide_eq_true (List.mem_filter.mp hfront).2).1
  exact (of_decide_eq_true (List.mem_filter.mp hback).2).1 hnamed

/-- How a bare name is resolved: to its column in the preferred relation, the first named one in the
order of the schema that defines it or else the first one that does. It is refused exactly when no
relation defines it. The candidates are the relations that do, each once and the named ones before
the others, both in the order of the schema; the index of all columns holds the same. -/
theorem resolve_preferred (s : Schema) (named : List String) (column : String)
    (h : Dotless column) :
    (∀ name, resolve s named column = .ok name ↔
      ∃ relation, Prefers s named column relation ∧ name = qualified relation column) ∧
    (∀ e, resolve s named column = .error e ↔
      e = .undefinedColumn column ∧ ∀ relation, ¬ Defines s column relation) ∧
    (candidates s named column).Nodup ∧
    (∀ relation, relation ∈ candidates s named column ↔ Defines s column relation) ∧
    (∃ front back, candidates s named column = front ++ back ∧
      (∀ relation ∈ front, relation ∈ named) ∧ (∀ relation ∈ back, relation ∉ named) ∧
      front.Sublist s.names ∧ back.Sublist s.names) ∧
    ((ColumnIndex.ofSchema s).prefer named).relations column = candidates s named column := by
  refine ⟨fun name => ?_, fun e => ?_, nodup_candidates s named column, fun _ => mem_candidates,
    ?_, ColumnIndex.relations_eq_candidates s named column⟩
  · simp only [← head?_candidates, resolve_of_dotless h]
    cases (candidates s named column).head? <;> simp [eq_comm]
  · have hnone : (∀ relation, ¬ Defines s column relation) ↔
        (candidates s named column).head? = none := by
      rw [List.head?_eq_none_iff, List.eq_nil_iff_forall_not_mem]
      exact forall_congr' fun _ => not_congr mem_candidates.symm
    rw [hnone, resolve_of_dotless h]
    cases (candidates s named column).head? <;> simp [eq_comm]
  · refine ⟨_, _, candidates_eq s named column, fun relation hmem => ?_, fun relation hmem => ?_,
      List.filter_sublist, List.filter_sublist⟩
    · exact (of_decide_eq_true (List.mem_filter.mp hmem).2).1
    · exact (of_decide_eq_true (List.mem_filter.mp hmem).2).1

/-- A profile in which three relations have the number of an item. -/
def parsedItems : Schema where
  relations :=
    [⟨"item", [⟨"i-id", .integer, true, false, none⟩, ⟨"i-input", .string, false, false, none⟩],
      by decide⟩,
    ⟨"parse", [⟨"parse-id", .integer, true, false, none⟩, ⟨"i-id", .integer, true, false, none⟩],
      by decide⟩,
    ⟨"score", [⟨"i-id", .integer, true, false, none⟩], by decide⟩]
  relations_nodup := by decide

/-- Of the named relations the schema decides which is first, and unknown or repeated ones do not
count; where none of them defines the column another one does. -/
theorem resolve_preferred_parsedItems :
    resolve parsedItems ["score", "tree", "parse", "score"] "i-id" = .ok "parse.i-id" ∧
    resolve parsedItems ["score"] "i-input" = .ok "item.i-input" ∧
    resolve parsedItems ["score"] "i-length" = .error (.undefinedColumn "i-length") := by
  refine ⟨?_, ?_, ?_⟩
  · refine ((resolve_preferred parsedItems _ "i-id" (by decide)).1 _).mpr
      ⟨"parse", .inl ?_, by decide⟩
    exact ⟨by decide, ["item"], ["score"], by decide, by decide⟩
  · refine ((resolve_preferred parsedItems _ "i-input" (by decide)).1 _).mpr
      ⟨"item", .inr ⟨by decide, ?_⟩, by decide⟩
    exact ⟨by decide, [], ["parse", "score"], by decide, by decide⟩
  · refine ((resolve_preferred parsedItems _ "i-length" (by decide)).2.1 _).mpr ⟨rfl, ?_⟩
    rintro relation ⟨r, hr, -, hcolumn⟩
    have hnone : ∀ r ∈ parsedItems.relations, "i-length" ∉ r.columns := by decide
    exact hnone r hr hcolumn

end ProfileQuery.Plan
