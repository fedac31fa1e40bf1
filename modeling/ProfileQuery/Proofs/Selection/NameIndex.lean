import ProfileQuery.Proofs.Outcome
import ProfileQuery.Proofs.Plan.Name
import ProfileQuery.Selection.Basic

/-!
# The names of columns

What a name index says after the columns of a relation were added to it, and which positions a
selection gives to names. As long as no column has a
dot in its name, the bare and the qualified names do not get in each other's way: a bare name keeps
its first position, and the qualified names of other relations keep theirs.
-/

namespace ProfileQuery.Selection

open Plan (Dotless qualified qualified_inj ne_qualified)

variable {relation other c : String} {ix : NameIndex} {start : Nat} {fields : List Field}

/-! ## New columns -/

/-- A bare name keeps its position; a new one gets that of the first field with the name. -/
theorem find?_indexFields_bare (hc : Dotless c) :
    (indexFields relation ix start fields).find? c =
      (ix.find? c).or ((fields.findIdx? (·.name == c)).map (start + ·)) := by
  induction fields generalizing ix start with
  | nil => simp [indexFields]
  | cons f fields ih =>
    rw [indexFields, ih, NameIndex.find?_put, if_neg (ne_qualified hc), NameIndex.find?_putNew,
      List.findIdx?_cons]
    by_cases h : c = f.name
    · subst h
      cases ix.find? f.name <;> simp
    · have hbeq : (f.name == c) = false := by simpa using fun heq => h heq.symm
      rw [if_neg h, hbeq]
      simp only [Bool.false_eq_true, if_false, Option.map_map]
      congr 2
      funext i
      simp only [Function.comp_apply]
      omega

theorem find?_indexFields_of_ne {name : String}
    (h : ∀ f ∈ fields, name ≠ f.name ∧ name ≠ qualified relation f.name) :
    (indexFields relation ix start fields).find? name = ix.find? name := by
  induction fields generalizing ix start with
  | nil => rfl
  | cons f fields ih =>
    obtain ⟨hbare, hown⟩ := h f List.mem_cons_self
    rw [indexFields, ih fun g hg => h g (List.mem_cons_of_mem _ hg), NameIndex.find?_put,
      if_neg hown, NameIndex.find?_putNew, if_neg hbare]

/-- A name that has a position keeps it, unless it is the qualified name of a new column. -/
theorem find?_indexFields_of_some {name : String} {position : Nat}
    (h : ∀ f ∈ fields, name ≠ qualified relation f.name) (hname : ix.find? name = some position) :
    (indexFields relation ix start fields).find? name = some position := by
  induction fields generalizing ix start with
  | nil => exact hname
  | cons f fields ih =>
    refine ih (fun g hg => h g (List.mem_cons_of_mem _ hg)) ?_
    rw [NameIndex.find?_put, if_neg (h f List.mem_cons_self), NameIndex.find?_putNew]
    by_cases hbare : name = f.name
    · rw [if_pos hbare, ← hbare, hname]
      rfl
    · rw [if_neg hbare, hname]

/-- The qualified names of other relations keep their positions. -/
theorem find?_indexFields_other (hother : other ≠ relation) (hc : Dotless c)
    (hfields : ∀ f ∈ fields, Dotless f.name) :
    (indexFields relation ix start fields).find? (qualified other c) =
      ix.find? (qualified other c) :=
  find?_indexFields_of_ne fun f hf => ⟨(ne_qualified (hfields f hf)).symm, fun heq =>
    hother ((qualified_inj hc (hfields f hf)).mp heq).1⟩

/-- The qualified name of a new column has the position of its field. -/
theorem find?_indexFields_own (hc : Dotless c) (hfields : ∀ f ∈ fields, Dotless f.name)
    (hnodup : (fields.map (·.name)).Nodup) :
    (indexFields relation ix start fields).find? (qualified relation c) =
      ((fields.findIdx? (·.name == c)).map (start + ·)).or (ix.find? (qualified relation c)) := by
  induction fields generalizing ix start with
  | nil => simp [indexFields]
  | cons f fields ih =>
    have hf := hfields f List.mem_cons_self
    have hrest : ∀ g ∈ fields, Dotless g.name := fun g hg => hfields g (List.mem_cons_of_mem _ hg)
    rw [List.map_cons, List.nodup_cons] at hnodup
    obtain ⟨hfresh, hnodup⟩ := hnodup
    rw [indexFields, ih hrest hnodup, NameIndex.find?_put, NameIndex.find?_putNew,
      List.findIdx?_cons]
    by_cases h : c = f.name
    · subst h
      -- the name does not come again, so the later fields leave its entry as it is
      have hnone : fields.findIdx? (·.name == f.name) = none := by
        simp only [List.findIdx?_eq_none_iff, beq_eq_false_iff_ne, ne_eq]
        exact fun g hg heq => hfresh (heq ▸ List.mem_map_of_mem hg)
      simp [hnone]
    · have hne : qualified relation c ≠ qualified relation f.name := fun heq =>
        h ((qualified_inj hc hf).mp heq).2
      have hbeq : (f.name == c) = false := by simpa using fun heq => h heq.symm
      rw [if_neg hne, if_neg (ne_qualified hf).symm, hbeq]
      simp only [Bool.false_eq_true, if_false, Option.map_map]
      congr 2
      funext i
      simp only [Function.comp_apply]
      omega

/-! ## Shared columns -/

section Shared

variable {names : List String}

theorem indexShared_cons (name : String) :
    indexShared relation ix (name :: names) =
      indexShared relation (match ix.find? name with
        | some position => ix.put (qualified relation name) position
        | none => ix) names := rfl

/-- Names that no shared column gets keep their positions. -/
theorem find?_indexShared_of_ne {name : String}
    (h : ∀ shared ∈ names, name ≠ qualified relation shared) :
    (indexShared relation ix names).find? name = ix.find? name := by
  induction names generalizing ix with
  | nil => rfl
  | cons shared names ih =>
    rw [indexShared_cons, ih fun n hn => h n (List.mem_cons_of_mem _ hn)]
    cases ix.find? shared with
    | none => rfl
    | some position => simp [NameIndex.find?_put, h shared List.mem_cons_self]

theorem find?_indexShared_bare (hc : Dotless c) :
    (indexShared relation ix names).find? c = ix.find? c :=
  find?_indexShared_of_ne fun _ _ => ne_qualified hc

theorem find?_indexShared_other (hother : other ≠ relation) (hc : Dotless c)
    (hnames : ∀ n ∈ names, Dotless n) :
    (indexShared relation ix names).find? (qualified other c) = ix.find? (qualified other c) :=
  find?_indexShared_of_ne fun n hn heq => hother ((qualified_inj hc (hnames n hn)).mp heq).1

/-- A shared column gets its qualified name at the position of its bare name. -/
theorem find?_indexShared_own (hc : Dotless c) (hnames : ∀ n ∈ names, Dotless n) :
    (indexShared relation ix names).find? (qualified relation c) =
      if c ∈ names then (ix.find? c).or (ix.find? (qualified relation c))
      else ix.find? (qualified relation c) := by
  induction names generalizing ix with
  | nil => rfl
  | cons name names ih =>
    have hname := hnames name List.mem_cons_self
    rw [indexShared_cons, ih fun n hn => hnames n (List.mem_cons_of_mem _ hn)]
    cases hpos : ix.find? name with
    | none =>
      by_cases h : c = name
      · subst h
        simp [hpos]
      · simp [h]
    | some position =>
      simp only [NameIndex.find?_put, if_neg (ne_qualified hc)]
      by_cases h : c = name
      · subst h
        simp [hpos]
      · have hne : qualified relation c ≠ qualified relation name := fun heq =>
          h ((qualified_inj hc hname).mp heq).2
        simp [h, hne]

end Shared

/-! ## Names of a selection -/

section Positions

variable {s s' : Selection} {names : List String} {positions : List Nat}

theorem positions_eq_ok : s.positions names = .ok positions ↔
    List.Forall₂ (fun name p => s.indexOf? name = some p) names positions := by
  rw [Selection.positions, Outcome.mapM_eq_ok]
  refine ⟨fun h => h.imp fun name p hp => ?_, fun h => h.imp fun name p hp => ?_⟩
  · split at hp
    · next hi => exact hi.trans (congrArg some (Except.ok.inj hp))
    · cases hp
  · rw [hp]

/-- A name stands at the same place among the names as its position among the positions. -/
theorem exists_position (h : s.positions names = .ok positions) {name : String}
    (hmem : name ∈ names) :
    ∃ k p : Nat, names[k]? = some name ∧ positions[k]? = some p ∧ s.indexOf? name = some p := by
  have hindex := positions_eq_ok.mp h
  obtain ⟨k, hlt, rfl⟩ := List.getElem_of_mem hmem
  have hlt' : k < positions.length := hindex.length_eq ▸ hlt
  exact ⟨k, positions[k], List.getElem?_eq_getElem hlt, List.getElem?_eq_getElem hlt',
    hindex.get hlt hlt'⟩

theorem positions_congr (h : s'.index = s.index) (names : List String) :
    s'.positions names = s.positions names := by
  simp only [Selection.positions, indexOf?, h]

theorem select_eq_ok (hne : names ≠ []) (h : s.positions names = .ok positions) :
    s.select names = .ok (s.data.map (Row.select positions)) := by
  rw [select, if_neg (by simpa using hne), h]
  rfl

theorem project_eq_ok : s.project names = .ok s' ↔
    ∃ positions, s.positions names = .ok positions ∧
      s' = { s with shown := some ⟨names, positions⟩ } := by
  unfold project
  rw [Outcome.bind_eq_ok]
  constructor
  · rintro ⟨positions, hpositions, h⟩
    exact ⟨positions, hpositions, (Except.ok.inj h).symm⟩
  · rintro ⟨positions, hpositions, rfl⟩
    exact ⟨positions, hpositions, rfl⟩

end Positions

end ProfileQuery.Selection
