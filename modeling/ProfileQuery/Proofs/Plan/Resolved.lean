import ProfileQuery.Proofs.Plan.Preference
import ProfileQuery.Proofs.Plan.Reordering
import ProfileQuery.Proofs.Query.Renaming

/-!
# Resolved conditions

A condition whose columns are renamed is compiled with one index as the condition itself is with
another one, where the indexes have the same positions for the old and the new columns
(`Filter.compile_renamed`). So resolving the columns of a condition keeps what it means
(`resolveCondition_means`): the index that goes with it gives each column the position of the name
that the column is resolved to (`NameIndex.find?_resolving`).
-/

namespace ProfileQuery

open Query (Comparison Condition NameCall)
open Query.Condition (Renamed RenamedLeaf Visited)

/-! ## Compiling renamed conditions -/

namespace Filter

/-- A condition fails to compile at the comparison with `k` others on its left, all of which can be
carried out. -/
def FailsAt (ix : NameIndex) (c : Condition) (k : Nat) (e : QueryError) : Prop :=
  compile ix c = .error e ∧ ∃ before leaf after, c.leaves = before ++ leaf :: after ∧
    before.length = k ∧ (∀ earlier ∈ before, Performable ix earlier) ∧ Faulty ix leaf e

/-- Errors that are the same, but for the column that has no position. -/
inductive SameFault (R : String → String → Prop) : QueryError → QueryError → Prop
  | column {column column' : String} : R column column' →
      SameFault R (.undefinedColumn column) (.undefinedColumn column')
  | literal {e : QueryError} : (∀ column, e ≠ .undefinedColumn column) → SameFault R e e

variable {ix ix' : NameIndex} {c c' : Condition} {R : String → String → Prop}

section Leaf

variable {leaf leaf' : Comparison}
  (hix : ∀ column column', R column column' → ix.find? column = ix'.find? column')

include hix

theorem performable_renamed (h : RenamedLeaf R leaf leaf') :
    Performable ix leaf ↔ Performable ix' leaf' := by
  rw [performable_iff, performable_iff, Readable, Readable, hix _ _ h.column, h.op, h.literal]

theorem performable_renamedEach {leaves leaves' : List Comparison}
    (h : List.Forall₂ (RenamedLeaf R) leaves leaves') :
    (∀ leaf ∈ leaves, Performable ix leaf) ↔ ∀ leaf' ∈ leaves', Performable ix' leaf' := by
  induction h with
  | nil => simp
  | cons hleaf _ ih =>
    rw [List.forall_mem_cons, List.forall_mem_cons, performable_renamed hix hleaf, ih]

theorem faulty_renamed (h : RenamedLeaf R leaf leaf') {e : QueryError} (hfault : Faulty ix leaf e) :
    ∃ e', Faulty ix' leaf' e' ∧ SameFault R e e' := by
  obtain ⟨op, column, literal⟩ := leaf
  obtain ⟨op', column', literal'⟩ := leaf'
  obtain ⟨rfl, hcolumn, rfl⟩ := h
  have hposition := hix _ _ hcolumn
  cases hfault with
  | column hnone => exact ⟨_, .column (hposition ▸ hnone), .column hcolumn⟩
  | noText hsome hop htext =>
    exact ⟨_, .noText (hposition ▸ hsome) hop htext, .literal nofun⟩
  | noPattern hsome hop htext hpattern =>
    exact ⟨_, .noPattern (hposition ▸ hsome) hop htext hpattern, .literal nofun⟩

end Leaf

/-- With indexes that have the same positions for related columns, renamed conditions are compiled to
the same test, or they fail at comparisons in the same place. -/
theorem compile_renamed (h : Renamed R c c')
    (hix : ∀ column column', R column column' → ix.find? column = ix'.find? column') :
    (∃ test, compile ix c = .ok test ∧ compile ix' c' = .ok test) ∨
      ∃ k e e', FailsAt ix c k e ∧ FailsAt ix' c' k e' ∧ SameFault R e e' := by
  cases hcompile : compile ix c with
  | ok test =>
    -- every comparison can be carried out with the other index too
    have hperform := exists_compile_iff.mp ⟨test, hcompile⟩
    obtain ⟨test', hcompile'⟩ :=
      exists_compile_iff.mpr ((performable_renamedEach hix h.leaves).mp hperform)
    have hread : ∀ row column column', R column column' →
        readRow ix row column = readRow ix' row column' := fun row column column' hcolumn => by
      rw [readRow, readRow, hix _ _ hcolumn]
    have htest : test = test' := by
      rw [eval_of_compile hcompile, eval_of_compile hcompile']
      exact funext fun row => h.eval_eq (hread row)
    exact .inl ⟨test, rfl, htest ▸ hcompile'⟩
  | error e =>
    obtain ⟨before, leaf, after, hleaves, hbefore, hfault⟩ := compile_eq_error.mp hcompile
    -- the other comparisons fall apart at the same place
    have hfront := List.forall₂_take before.length h.leaves
    have hback := List.forall₂_drop before.length h.leaves
    rw [hleaves, List.take_left] at hfront
    rw [hleaves, List.drop_left] at hback
    obtain ⟨leaf', after', hleaf, -, hdrop⟩ := List.forall₂_cons_left_iff.mp hback
    have hleaves' : c'.leaves = c'.leaves.take before.length ++ leaf' :: after' := by
      rw [← hdrop, List.take_append_drop]
    obtain ⟨e', hfault', hsame⟩ := faulty_renamed hix hleaf hfault
    have hbefore' := (performable_renamedEach hix hfront).mp hbefore
    refine .inr ⟨before.length, e, e', ?_, ?_, hsame⟩
    · exact ⟨hcompile, before, leaf, after, hleaves, rfl, hbefore, hfault⟩
    · exact ⟨compile_eq_error.mpr ⟨_, leaf', after', hleaves', hbefore', hfault'⟩, _, leaf', after',
        hleaves', hfront.length_eq.symm, hbefore', hfault'⟩

end Filter

/-! ## The index behind resolution -/

namespace NameIndex

/-- The index of some names, with the positions that a function gives them. -/
def ofPositions (position : String → Option Nat) (names : List String) : NameIndex :=
  ⟨names.filterMap fun name => (position name).map (name, ·)⟩

theorem find?_ofPositions {position : String → Option Nat} {names : List String} {name : String}
    (h : ∀ p, position name = some p → name ∈ names) :
    (ofPositions position names).find? name = position name := by
  unfold ofPositions find?
  induction names with
  | nil =>
    cases hposition : position name with
    | none => rfl
    | some p => exact absurd (h p hposition) List.not_mem_nil
  | cons first names ih =>
    by_cases hfirst : name = first
    · subst hfirst
      cases hposition : position name with
      | none => simpa [hposition] using ih (by simp [hposition])
      | some p => simp [hposition]
    · have hrest := ih fun p hp => List.mem_of_ne_of_mem hfirst (h p hp)
      cases hposition : position first with
      | none => simpa [hposition] using hrest
      | some p => simpa [hposition, List.lookup_cons, beq_false_of_ne hfirst] using hrest

/-- The position of the name that a column is resolved to. -/
def findResolved? (s : Schema) (named : List String) (ix : NameIndex) (column : String) :
    Option Nat :=
  match Plan.resolve s named column with
  | .ok name => ix.find? name
  | .error _ => none

/-- The index that gives each column the position of the name that it is resolved to. Such a column
is a name that has a position itself, or it is a column of the schema. -/
def resolving (s : Schema) (named : List String) (ix : NameIndex) : NameIndex :=
  ofPositions (ix.findResolved? s named)
    (ix.entries.map (·.1) ++ s.relations.flatMap Relation.columns)

theorem mem_of_find? {ix : NameIndex} {name : String} {p : Nat} (h : ix.find? name = some p) :
    name ∈ ix.entries.map (·.1) := by
  obtain ⟨before, after, hentries, -⟩ := List.lookup_eq_some_iff.mp h
  simp [hentries]

theorem find?_resolving (s : Schema) (named : List String) (ix : NameIndex) (column : String) :
    (ix.resolving s named).find? column = ix.findResolved? s named column := by
  refine find?_ofPositions fun p hp => List.mem_append.mpr ?_
  unfold findResolved? at hp
  by_cases hdot : Plan.Dotless column
  · rw [Plan.resolve_of_dotless hdot] at hp
    cases hhead : (Plan.candidates s named column).head? with
    | none =>
      rw [hhead] at hp
      cases hp
    | some relation =>
      obtain ⟨r, hr, -, hcolumn⟩ := Plan.mem_candidates.mp (List.mem_of_head? hhead)
      exact .inr (List.mem_flatMap.mpr ⟨r, hr, hcolumn⟩)
  · rw [Plan.resolve_of_not_dotless hdot] at hp
    exact .inl (mem_of_find? hp)

end NameIndex

/-! ## Resolving -/

namespace Plan

theorem resolveCondition_eq_ok {s : Schema} {named : List String} {c resolved : Condition}
    {columns : List String} : resolveCondition s named c = .ok (resolved, columns) ↔
      c.mapColumns (resolve s named) = .ok resolved ∧ resolved.columns = columns := by
  unfold resolveCondition
  rw [Outcome.bind_eq_ok]
  constructor
  · rintro ⟨resolved', hresolved, heq⟩
    obtain ⟨rfl, rfl⟩ := Prod.mk.inj (Except.ok.inj heq)
    exact ⟨hresolved, rfl⟩
  · rintro ⟨hresolved, rfl⟩
    exact ⟨resolved, hresolved, rfl⟩

/-- Resolving a condition keeps what it means. Whatever is done with its columns, they are visited
once for each comparison, from left to right and up to the first failure, and what comes out has the
same shape, operators and literals. A condition that is resolved comes with the sorted set of the names
that its columns are resolved to. With an index of names it is compiled to the same test as the
condition itself with an index that gives each column the position of its name, and there is one;
or both fail at the comparisons in the same place. -/
theorem resolveCondition_means (s : Schema) (named : List String) (c : Condition) :
    (∀ (ε σ : Type) (f : NameCall ε σ) (start : σ),
      c.Visited f start ((c.mapColumns f).run.run start)) ∧
    ∀ resolved columns, resolveCondition s named c = .ok (resolved, columns) →
      (Names.Ascending columns ∧
        ∀ name, name ∈ columns ↔ ∃ column ∈ c.leafColumns, resolve s named column = .ok name) ∧
      ∀ ix : NameIndex,
        (∃ ix' : NameIndex, ∀ column, ix'.find? column = ix.findResolved? s named column) ∧
        ∀ ix' : NameIndex, (∀ column, ix'.find? column = ix.findResolved? s named column) →
          (∃ test, Filter.compile ix' c = .ok test ∧ Filter.compile ix resolved = .ok test) ∨
          ∃ k e e', Filter.FailsAt ix' c k e ∧ Filter.FailsAt ix resolved k e' ∧
            Filter.SameFault (fun column name => resolve s named column = .ok name) e e' := by
  refine ⟨fun ε σ f start => Condition.mapColumns_visited f c start, ?_⟩
  intro resolved columns h
  obtain ⟨hresolved, rfl⟩ := resolveCondition_eq_ok.mp h
  have hrenamed := Condition.renamed_of_mapColumns hresolved
  refine ⟨⟨Names.ascending_ofList _, fun name => ?_⟩, fun ix =>
    ⟨⟨ix.resolving s named, ix.find?_resolving s named⟩, fun ix' hix' => ?_⟩⟩
  · rw [Condition.columns, Names.mem_ofList]
    exact mem_of_mapM_resolve (Outcome.mapM_eq_ok.mpr hrenamed.leafColumns) name
  · refine Filter.compile_renamed hrenamed fun column name hname => ?_
    rw [hix', NameIndex.findResolved?, hname]

/-- A condition on the input of an item and on its number, with the given names for these columns. -/
def excluded (input number : String) : Condition :=
  .junction .and [.comparison .notEqual input (.text "dog"),
    .negation (.junction .or [.comparison .less number (.integer 10),
      .comparison .equal "item.i-id" (.integer 30)])]

/-- Where the number of a score has no position, both conditions fail at their second comparison, each
one with its own name for the column. -/
theorem resolveCondition_means_excluded :
    resolveCondition parsedItems ["score"] (excluded "i-input" "i-id") =
      .ok (excluded "item.i-input" "score.i-id", ["item.i-id", "item.i-input", "score.i-id"]) ∧
    ∃ k, Filter.FailsAt (NameIndex.resolving parsedItems ["score"] ⟨[("item.i-input", 0)]⟩)
        (excluded "i-input" "i-id") k (.undefinedColumn "i-id") ∧
      Filter.FailsAt ⟨[("item.i-input", 0)]⟩ (excluded "item.i-input" "score.i-id") k
        (.undefinedColumn "score.i-id") := by
  have hresolved : resolveCondition parsedItems ["score"] (excluded "i-input" "i-id") =
      .ok (excluded "item.i-input" "score.i-id", ["item.i-id", "item.i-input", "score.i-id"]) := rfl
  obtain ⟨-, hmeans⟩ := resolveCondition_means parsedItems ["score"] (excluded "i-input" "i-id")
  obtain ⟨-, hindex⟩ := hmeans _ _ hresolved
  obtain ⟨-, hcompile⟩ := hindex ⟨[("item.i-input", 0)]⟩
  refine ⟨hresolved, ?_⟩
  rcases hcompile _ (NameIndex.find?_resolving _ _ _) with
    ⟨test, -, htest⟩ | ⟨k, e, e', hfails, hfails', -⟩
  · cases htest
  · obtain rfl : QueryError.undefinedColumn "i-id" = e := Except.error.inj hfails.1
    obtain rfl : QueryError.undefinedColumn "score.i-id" = e' := Except.error.inj hfails'.1
    exact ⟨k, hfails, hfails'⟩

end Plan

end ProfileQuery
