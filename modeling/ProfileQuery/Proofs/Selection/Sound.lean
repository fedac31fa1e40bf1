import ProfileQuery.Proofs.Selection.NameIndex
import ProfileQuery.Proofs.Selection.Outcome

/-!
# Sound selections

In a sound selection every row has a cell for each field, and every position that is known by a name
or shown is that of a field (`Sound`); so no cell is read from behind the end of a row
(`Sound.positions`). Joins, filters and projections keep selections sound.
-/

namespace ProfileQuery

namespace NameIndex

variable {ix : NameIndex} {n : Nat}

/-- All positions of an index are below a bound. -/
def InRange (ix : NameIndex) (n : Nat) : Prop :=
  ∀ name p, ix.find? name = some p → p < n

theorem InRange.mono (h : ix.InRange n) {m : Nat} (hle : n ≤ m) : ix.InRange m :=
  fun name p hp => Nat.lt_of_lt_of_le (h name p hp) hle

theorem InRange.put (h : ix.InRange n) (name : String) {position : Nat} (hlt : position < n) :
    (ix.put name position).InRange n := by
  intro other p hp
  rw [find?_put] at hp
  split at hp
  · exact Option.some.inj hp ▸ hlt
  · exact h other p hp

theorem InRange.putNew (h : ix.InRange n) (name : String) {position : Nat} (hlt : position < n) :
    (ix.putNew name position).InRange n := by
  unfold NameIndex.putNew
  split
  · exact h
  · exact h.put name hlt

end NameIndex

namespace Selection

open NameIndex (InRange)

theorem inRange_indexFields {relation : String} {ix : NameIndex} {start n : Nat}
    {fields : List Field} (h : ix.InRange n) (hle : start + fields.length ≤ n) :
    (indexFields relation ix start fields).InRange n := by
  induction fields generalizing ix start with
  | nil => exact h
  | cons f fields ih =>
    rw [List.length_cons] at hle
    have hlt : start < n := by omega
    exact ih ((h.putNew _ hlt).put _ hlt) (by omega)

theorem inRange_indexShared {relation : String} {ix : NameIndex} {n : Nat} {names : List String}
    (h : ix.InRange n) : (indexShared relation ix names).InRange n := by
  induction names generalizing ix with
  | nil => exact h
  | cons name names ih =>
    rw [indexShared_cons]
    refine ih ?_
    split
    · next hp => exact h.put _ (h name _ hp)
    · exact h

/-- Every row has a cell for each field, and what is known by a name or shown is a field. -/
structure Sound (s : Selection) : Prop where
  full : s.Full
  index_lt : s.index.InRange s.fields.length
  shown_lt : ∀ shown, s.shown = some shown → ∀ p ∈ shown.positions, p < s.fields.length
  unjoined : s.hasJoins = false → s.fields = []

variable {s s' : Selection} {db : Database} {t : Table} {relation : String}
  {columns names : List String} {mode : JoinMode}

theorem Sound.empty : Sound empty where
  full _ hrow := by cases hrow
  index_lt _ _ hp := by cases hp
  shown_lt _ hshown := by cases hshown
  unjoined _ := rfl

/-! ## Reading cells -/

/-- Every row has cells at some positions. -/
def Reads (s : Selection) (positions : List Nat) : Prop :=
  ∀ row ∈ s.data, ∀ p ∈ positions, p < row.length

theorem Full.reads (h : s.Full) {positions : List Nat} (hlt : ∀ p ∈ positions, p < s.fields.length) :
    s.Reads positions :=
  fun row hrow p hp => h row hrow ▸ hlt p hp

theorem Sound.allPositions (h : s.Sound) : s.Reads s.allPositions :=
  h.full.reads fun _ hp => List.mem_range.mp hp

theorem positions_lt (h : s.index.InRange s.fields.length) {positions : List Nat}
    (hpositions : s.positions names = .ok positions) : ∀ p ∈ positions, p < s.fields.length := by
  intro p hp
  obtain ⟨name, -, hname⟩ := Outcome.mem_of_mapM hpositions hp
  cases hfind : s.indexOf? name with
  | none => simp [hfind] at hname
  | some q =>
    obtain rfl : q = p := by simpa [hfind] using hname
    exact h name q hfind

theorem Sound.positions (h : s.Sound) {positions : List Nat}
    (hpositions : s.positions names = .ok positions) : s.Reads positions :=
  h.full.reads (positions_lt h.index_lt hpositions)

theorem Sound.shownPositions (h : s.Sound) : s.Reads s.shownPositions := by
  unfold Selection.shownPositions
  split
  · next hshown => exact h.full.reads (h.shown_lt _ hshown)
  · exact h.allPositions

/-! ## Changes -/

theorem Sound.filter (h : s.Sound) (keep : Row → Bool) : (s.filter keep).Sound where
  full row hrow := h.full row (List.mem_of_mem_filter hrow)
  index_lt := h.index_lt
  shown_lt := h.shown_lt
  unjoined := h.unjoined

theorem Sound.project (h : s.Sound) (hproject : s.project names = .ok s') : s'.Sound := by
  obtain ⟨positions, hpositions, rfl⟩ := project_eq_ok.mp hproject
  refine ⟨h.full, h.index_lt, ?_, h.unjoined⟩
  rintro shown hshown
  obtain rfl := Option.some.inj hshown
  exact positions_lt h.index_lt hpositions

/-- In front of the first join there is nothing to match a relation on. -/
theorem Sound.onColumns_eq_nil (h : s.Sound) (hjoins : s.hasJoins = false) (r : Relation)
    (columns : List String) :
    s.onColumns r columns = [] := by
  refine List.eq_nil_iff_forall_not_mem.mpr fun c hc => ?_
  obtain ⟨p, hp⟩ := Option.isSome_iff_exists.mp (mem_onColumns.mp hc).2.2
  have := h.index_lt c p hp
  rw [h.unjoined hjoins] at this
  cases this

/-- The first join adds its columns as every other does. -/
theorem Sound.joinTable_eq (h : s.Sound) (t : Table) (columns : List String) (mode : JoinMode) :
    ∃ data, s.joinTable t columns mode = s.merge t.relation.name (s.onColumns t.relation columns)
      (t.relation.fieldsOf (s.addedColumns t.relation columns)) data := by
  unfold Selection.joinTable
  split
  · exact ⟨_, rfl⟩
  · next hjoins =>
    have hon := h.onColumns_eq_nil (by simpa using hjoins) t.relation columns
    have hadded : s.addedColumns t.relation columns = columns := by
      simp [addedColumns, hon]
    rw [hon, hadded]
    exact ⟨_, rfl⟩

theorem Sound.join (h : s.Sound) (hjoin : s.join db relation columns mode = .ok s') :
    s'.Sound := by
  obtain ⟨-, t, -, hc, rfl⟩ := of_join_eq_ok hjoin
  obtain ⟨data, hmerge⟩ := h.joinTable_eq t columns mode
  have hle : s.fields.length ≤ (s.joinTable t columns mode).fields.length := by
    simp [hmerge, merge]
  refine ⟨h.full.joinTable h.unjoined hc, ?_, ?_, ?_⟩
  · rw [hmerge] at hle ⊢
    refine inRange_indexShared (inRange_indexFields (h.index_lt.mono hle) ?_)
    simp [merge]
  · intro shown hshown p hp
    rw [hmerge] at hshown
    exact Nat.lt_of_lt_of_le (h.shown_lt shown hshown p hp) hle
  · rw [hasJoins_joinTable]
    exact Bool.noConfusion

end Selection

end ProfileQuery
