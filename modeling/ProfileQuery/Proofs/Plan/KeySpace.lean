import Mathlib.Data.Finset.Card
import Mathlib.Data.List.Induction
import Mathlib.Data.List.Lattice
import Mathlib.Data.List.Pairwise
import Mathlib.Logic.Relation
import ProfileQuery.Plan.KeySpace
import ProfileQuery.Proofs.Names

/-!
# Key spaces as connected components

The key spaces of some cliques are kept in a normal form (`Canonical`), in which they are determined
by which keys lie together. Two keys lie together exactly when a chain of cliques leads from one to
the other, so the order in which cliques are added does not count.
-/

namespace ProfileQuery.Plan.KeySpaces

/-- Whether two keys lie in one key space. -/
def Together (spaces : KeySpaces) (a b : String) : Prop :=
  ∃ space ∈ spaces, a ∈ space ∧ b ∈ space

/-- Disjoint sets of keys that are not empty, in the order of their smallest keys. -/
structure Canonical (spaces : KeySpaces) : Prop where
  ascending : ∀ space ∈ spaces, Names.Ascending space
  ne_nil : ∀ space ∈ spaces, space ≠ []
  disjoint : spaces.Pairwise List.Disjoint
  ordered : spaces.Pairwise fun space other => space.headD "" < other.headD ""

variable {spaces spaces' : KeySpaces} {keys space other : List String} {a b c x : String}

theorem touches_iff : touches keys space = true ↔ ∃ key ∈ keys, key ∈ space := by
  simp [touches]

/-! ## Placing a key space -/

theorem place_perm (space : List String) (spaces : KeySpaces) :
    (place space spaces).Perm (space :: spaces) := by
  induction spaces with
  | nil => exact .refl _
  | cons first spaces ih =>
    unfold place
    split
    · exact .refl _
    · exact (ih.cons first).trans (.swap space first spaces)

theorem ordered_place (h : spaces.Pairwise fun space other => space.headD "" < other.headD "")
    (hne : ∀ other ∈ spaces, other.headD "" ≠ space.headD "") :
    (place space spaces).Pairwise fun space other => space.headD "" < other.headD "" := by
  induction spaces with
  | nil => exact List.pairwise_singleton _ _
  | cons first spaces ih =>
    obtain ⟨hfirst, hrest⟩ := List.pairwise_cons.mp h
    unfold place
    split
    · next hlt =>
      refine List.pairwise_cons.mpr ⟨fun other hother => ?_, h⟩
      rcases List.mem_cons.mp hother with rfl | hmem
      · exact hlt
      · exact hlt.trans (hfirst other hmem)
    · next hnot =>
      refine List.pairwise_cons.mpr ⟨fun other hother => ?_,
        ih hrest fun other hmem => hne other (List.mem_cons_of_mem _ hmem)⟩
      rcases List.mem_cons.mp ((place_perm _ _).mem_iff.mp hother) with rfl | hmem
      · exact lt_of_le_of_ne (not_lt.mp hnot) (hne first List.mem_cons_self)
      · exact hfirst other hmem

/-! ## Connecting keys -/

/-- The key space that the given keys get into. -/
def merged (spaces : KeySpaces) (keys : List String) : List String :=
  (spaces.filter (touches keys)).foldr Names.union (Names.ofList keys)

/-- A key is merged when it is among the given ones or lies together with one of them. -/
theorem mem_merged : x ∈ merged spaces keys ↔ x ∈ keys ∨ ∃ key ∈ keys, Together spaces key x := by
  have unions : ∀ (touched : KeySpaces) (base : List String),
      x ∈ touched.foldr Names.union base ↔ x ∈ base ∨ ∃ space ∈ touched, x ∈ space := by
    intro touched base
    induction touched with
    | nil => simp
    | cons first touched ih =>
      rw [List.foldr_cons, Names.mem_union, ih]
      simp only [List.mem_cons, exists_eq_or_imp]
      exact or_left_comm
  rw [merged, unions, Names.mem_ofList]
  simp only [List.mem_filter, touches_iff, Together]
  constructor
  · rintro (hkey | ⟨space, ⟨hspace, key, hkey, hin⟩, hx⟩)
    · exact .inl hkey
    · exact .inr ⟨key, hkey, space, hspace, hin, hx⟩
  · rintro (hkey | ⟨key, hkey, space, hspace, hin, hx⟩)
    · exact .inl hkey
    · exact .inr ⟨space, ⟨hspace, key, hkey, hin⟩, hx⟩

theorem connect_eq (hne : keys ≠ []) :
    spaces.connect keys =
      place (merged spaces keys) (spaces.filter fun space => !touches keys space) := by
  have hempty : keys.isEmpty = false := by simpa using hne
  simp [connect, hempty, merged]

/-- In disjoint key spaces each key lies in one at most. -/
theorem Canonical.space_unique (h : Canonical spaces) (hspace : space ∈ spaces)
    (hother : other ∈ spaces) (hx : x ∈ space) (hx' : x ∈ other) : space = other := by
  by_contra hne
  have : Std.Symm (List.Disjoint (α := String)) := ⟨fun _ _ => List.Disjoint.symm⟩
  exact h.disjoint.forall hspace hother hne hx hx'

theorem Canonical.nil : Canonical [] :=
  ⟨by simp, by simp, List.Pairwise.nil, List.Pairwise.nil⟩

theorem merged_ne_nil (hne : keys ≠ []) : merged spaces keys ≠ [] := by
  obtain ⟨key, hkey⟩ := List.exists_mem_of_ne_nil keys hne
  exact List.ne_nil_of_mem (mem_merged.mpr (.inl hkey))

theorem ascending_merged (spaces : KeySpaces) (keys : List String) :
    Names.Ascending (merged spaces keys) := by
  unfold merged
  generalize spaces.filter (touches keys) = touched
  induction touched with
  | nil => exact Names.ascending_ofList keys
  | cons first touched ih => exact Names.ascending_union first ih

/-- A key space that is not touched has no key in common with the merged one. -/
theorem Canonical.disjoint_merged (h : Canonical spaces)
    (hspace : space ∈ spaces.filter fun space => !touches keys space) :
    List.Disjoint (merged spaces keys) space := by
  intro x hx hx'
  obtain ⟨hspace, huntouched⟩ := List.mem_filter.mp hspace
  have hno : ¬ ∃ key ∈ keys, key ∈ space := by
    rw [← touches_iff]
    simpa using huntouched
  rcases mem_merged.mp hx with hkey | ⟨key, hkey, touched, htouched, hin, hx''⟩
  · exact hno ⟨x, hkey, hx'⟩
  · obtain rfl := h.space_unique hspace htouched hx' hx''
    exact hno ⟨key, hkey, hin⟩

theorem mem_connect (hne : keys ≠ []) (h : space ∈ spaces.connect keys) :
    space = merged spaces keys ∨ space ∈ spaces := by
  rw [connect_eq hne] at h
  rcases List.mem_cons.mp ((place_perm _ _).mem_iff.mp h) with heq | hrest
  · exact .inl heq
  · exact .inr (List.mem_of_mem_filter hrest)

theorem headD_mem (hne : space ≠ []) : space.headD "" ∈ space := by
  cases space with
  | nil => exact absurd rfl hne
  | cons first rest => exact List.mem_cons_self

/-- Connecting keys keeps the normal form. -/
theorem Canonical.connect (h : Canonical spaces) (keys : List String) :
    Canonical (spaces.connect keys) := by
  by_cases hne : keys = []
  · subst hne
    exact h
  refine ⟨fun space hspace => ?_, fun space hspace => ?_, ?_, ?_⟩
  · rcases mem_connect hne hspace with rfl | hold
    · exact ascending_merged spaces keys
    · exact h.ascending space hold
  · rcases mem_connect hne hspace with rfl | hold
    · exact merged_ne_nil hne
    · exact h.ne_nil space hold
  · rw [connect_eq hne]
    have hsymm : ∀ {s t : List String}, List.Disjoint s t → List.Disjoint t s :=
      fun h => List.Disjoint.symm h
    refine ((place_perm _ _).pairwise_iff hsymm).mpr (List.pairwise_cons.mpr ⟨?_, ?_⟩)
    · exact fun space hspace => h.disjoint_merged hspace
    · exact h.disjoint.filter _
  · -- two key spaces with the same smallest key would not be disjoint
    rw [connect_eq hne]
    refine ordered_place (h.ordered.filter _) fun space hspace heq => ?_
    have hne' := h.ne_nil space (List.mem_of_mem_filter hspace)
    have hhead := headD_mem (@merged_ne_nil spaces keys hne)
    exact h.disjoint_merged hspace hhead (heq ▸ headD_mem hne')

/-- After connecting keys, those lie together that did before or that lie with the keys. -/
theorem together_connect : Together (spaces.connect keys) a b ↔
    Together spaces a b ∨ a ∈ merged spaces keys ∧ b ∈ merged spaces keys := by
  by_cases hne : keys = []
  · subst hne
    simp only [mem_merged, List.not_mem_nil, false_and, exists_false, or_false]
    rfl
  rw [connect_eq hne]
  simp only [Together, (place_perm _ _).mem_iff, List.mem_cons, List.mem_filter]
  constructor
  · rintro ⟨space, rfl | ⟨hspace, -⟩, ha, hb⟩
    · exact .inr ⟨ha, hb⟩
    · exact .inl ⟨space, hspace, ha, hb⟩
  · rintro (⟨space, hspace, ha, hb⟩ | ⟨ha, hb⟩)
    · cases htouched : touches keys space with
      | false => exact ⟨space, .inr ⟨hspace, by simp [htouched]⟩, ha, hb⟩
      | true =>
        obtain ⟨key, hkey, hin⟩ := touches_iff.mp htouched
        have hmerged : ∀ {x}, x ∈ space → x ∈ merged spaces keys := fun hx =>
          mem_merged.mpr (.inr ⟨key, hkey, space, hspace, hin, hx⟩)
        exact ⟨merged spaces keys, .inl rfl, hmerged ha, hmerged hb⟩
    · exact ⟨merged spaces keys, .inl rfl, ha, hb⟩

/-- The key spaces that some keys touch become one. -/
theorem length_connect (hne : keys ≠ []) :
    (spaces.connect keys).length + spaces.countP (touches keys) = spaces.length + 1 := by
  rw [connect_eq hne, (place_perm _ _).length_eq, List.length_cons, ← List.countP_eq_length_filter]
  have hsplit : spaces.length = spaces.countP (touches keys) +
      spaces.countP fun space => !touches keys space := by
    rw [spaces.length_eq_countP_add_countP (touches keys)]
    simp
  omega

/-- Bridging key spaces lowers their number. -/
theorem length_connect_lt (h : spaces.bridgedBy keys = true) :
    (spaces.connect keys).length < spaces.length := by
  rw [bridgedBy, decide_eq_true_eq] at h
  have hne : keys ≠ [] := by
    rintro rfl
    have hnone : spaces.countP (touches []) = 0 := List.countP_eq_zero.mpr fun _ _ => nofun
    omega
  have hlength : (spaces.connect keys).length + spaces.countP (touches keys) = spaces.length + 1 :=
    length_connect hne
  omega

theorem Together.symm (h : Together spaces a b) : Together spaces b a :=
  let ⟨space, hspace, ha, hb⟩ := h
  ⟨space, hspace, hb, ha⟩

theorem Canonical.together_trans (h : Canonical spaces) (hab : Together spaces a b)
    (hbc : Together spaces b c) : Together spaces a c := by
  obtain ⟨space, hspace, ha, hb⟩ := hab
  obtain ⟨other, hother, hb', hc⟩ := hbc
  obtain rfl := h.space_unique hspace hother hb hb'
  exact ⟨space, hspace, ha, hc⟩

theorem Canonical.nodup (h : Canonical spaces) : spaces.Nodup := by
  refine List.Pairwise.imp (fun {space other} hlt => ?_) h.ordered
  rintro rfl
  exact lt_irrefl _ hlt

/-- There is one key space at most exactly when all keys lie together. -/
theorem Canonical.length_le_one_iff (h : Canonical spaces) : spaces.length ≤ 1 ↔
    ∀ {a b}, Together spaces a a → Together spaces b b → Together spaces a b := by
  rw [← List.toFinset_card_of_nodup h.nodup, Finset.card_le_one]
  simp only [List.mem_toFinset]
  constructor
  · rintro hone a b ⟨space, hspace, ha, -⟩ ⟨other, hother, hb, -⟩
    obtain rfl := hone space hspace other hother
    exact ⟨space, hspace, ha, hb⟩
  · intro htogether space hspace other hother
    have ha := headD_mem (h.ne_nil space hspace)
    have hb := headD_mem (h.ne_nil other hother)
    obtain ⟨third, hthird, ha', hb'⟩ :=
      htogether ⟨space, hspace, ha, ha⟩ ⟨other, hother, hb, hb⟩
    exact (h.space_unique hspace hthird ha ha').trans (h.space_unique hother hthird hb hb').symm

/-- Key spaces in normal form are determined by which keys lie together. -/
theorem Canonical.ext (h : Canonical spaces) (h' : Canonical spaces')
    (htogether : ∀ a b, Together spaces a b ↔ Together spaces' a b) : spaces = spaces' := by
  have subset : ∀ {one two : KeySpaces}, Canonical one → Canonical two →
      (∀ a b, Together one a b ↔ Together two a b) → one ⊆ two := by
    intro one two hone htwo heq space hspace
    obtain ⟨a, ha⟩ := List.exists_mem_of_ne_nil space (hone.ne_nil space hspace)
    obtain ⟨other, hother, ha', -⟩ := (heq a a).mp ⟨space, hspace, ha, ha⟩
    have same : space = other := by
      refine (hone.ascending space hspace).ext (htwo.ascending other hother) fun b => ?_
      constructor
      · intro hb
        obtain ⟨other', hother', ha'', hb'⟩ := (heq a b).mp ⟨space, hspace, ha, hb⟩
        rwa [htwo.space_unique hother hother' ha' ha'']
      · intro hb
        obtain ⟨space', hspace', ha'', hb'⟩ := (heq a b).mpr ⟨other, hother, ha', hb⟩
        rwa [hone.space_unique hspace hspace' ha ha'']
    rwa [same]
  refine ((List.perm_ext_iff_of_nodup h.nodup h'.nodup).mpr fun space => ?_).eq_of_pairwise
    (fun _ _ _ _ hab hba => absurd hba (not_lt.mpr hab.le)) h.ordered h'.ordered
  exact ⟨fun hmem => subset h h' htogether hmem,
    fun hmem => subset h' h (fun a b => (htogether a b).symm) hmem⟩

/-! ## Cliques -/

/-- Whether two keys are in one clique. -/
def Share (cliques : List (List String)) (a b : String) : Prop :=
  ∃ clique ∈ cliques, a ∈ clique ∧ b ∈ clique

theorem ofCliques_concat (cliques : List (List String)) (clique : List String) :
    ofCliques (cliques ++ [clique]) = (ofCliques cliques).connect clique := by
  rw [ofCliques, List.foldl_concat]
  rfl

theorem canonical_ofCliques (cliques : List (List String)) : Canonical (ofCliques cliques) := by
  induction cliques using List.reverseRecOn with
  | nil => exact .nil
  | append_singleton cliques clique ih => exact ofCliques_concat cliques clique ▸ ih.connect clique

theorem Share.left {cliques : List (List String)} (h : Share cliques a b)
    (more : List (List String)) : Share (cliques ++ more) a b :=
  let ⟨clique, hclique, hab⟩ := h
  ⟨clique, List.mem_append_left _ hclique, hab⟩

/-- Keys lie together exactly when a chain of cliques connects them. -/
theorem together_ofCliques (cliques : List (List String)) (a b : String) :
    Together (ofCliques cliques) a b ↔ Relation.TransGen (Share cliques) a b := by
  induction cliques using List.reverseRecOn generalizing a b with
  | nil =>
    refine ⟨fun ⟨space, hspace, _⟩ => (nomatch hspace), fun h => ?_⟩
    induction h with
    | single hshare => exact nomatch hshare.choose_spec.1
    | tail _ hshare => exact nomatch hshare.choose_spec.1
  | append_singleton cliques keys ih =>
    have lift : ∀ {a b}, Together (ofCliques cliques) a b →
        Relation.TransGen (Share (cliques ++ [keys])) a b := fun h =>
      ((ih _ _).mp h).lift id fun _ _ hshare => hshare.left [keys]
    have inKeys : ∀ {a b}, a ∈ keys → b ∈ keys → Share (cliques ++ [keys]) a b :=
      fun ha hb => ⟨keys, by simp, ha, hb⟩
    -- what is merged is connected to one of the keys, there and back
    have near : ∀ {x}, x ∈ merged (ofCliques cliques) keys →
        ∃ key ∈ keys, Relation.TransGen (Share (cliques ++ [keys])) key x ∧
          Relation.TransGen (Share (cliques ++ [keys])) x key := by
      intro x hx
      rcases mem_merged.mp hx with hkey | ⟨key, hkey, htogether⟩
      · exact ⟨x, hkey, .single (inKeys hkey hkey), .single (inKeys hkey hkey)⟩
      · exact ⟨key, hkey, lift htogether, lift htogether.symm⟩
    have hcanonical := canonical_ofCliques (cliques ++ [keys])
    rw [ofCliques_concat] at hcanonical ⊢
    constructor
    · intro h
      rcases together_connect.mp h with hold | ⟨ha, hb⟩
      · exact lift hold
      · obtain ⟨key, hkey, -, htoKey⟩ := near ha
        obtain ⟨key', hkey', hfromKey, -⟩ := near hb
        exact (htoKey.tail (inKeys hkey hkey')).trans hfromKey
    -- it is enough that each single clique lies together
    · have ofShare : ∀ {a b}, Share (cliques ++ [keys]) a b →
          Together ((ofCliques cliques).connect keys) a b := by
        rintro a b ⟨clique, hclique, ha, hb⟩
        rcases List.mem_append.mp hclique with hold | hnew
        · exact together_connect.mpr (.inl ((ih a b).mpr (.single ⟨clique, hold, ha, hb⟩)))
        · obtain rfl := List.mem_singleton.mp hnew
          exact together_connect.mpr (.inr ⟨mem_merged.mpr (.inl ha), mem_merged.mpr (.inl hb)⟩)
      intro h
      induction h with
      | single hshare => exact ofShare hshare
      | tail _ hshare ih => exact hcanonical.together_trans ih (ofShare hshare)

/-- The order of the cliques does not count. -/
theorem ofCliques_perm {cliques cliques' : List (List String)} (h : cliques.Perm cliques') :
    ofCliques cliques = ofCliques cliques' := by
  refine (canonical_ofCliques _).ext (canonical_ofCliques _) fun a b => ?_
  have same : Share cliques = Share cliques' := by
    funext a b
    simp only [Share, h.mem_iff]
  rw [together_ofCliques, together_ofCliques, same]

end ProfileQuery.Plan.KeySpaces
