import ProfileQuery.Proofs.Plan.PivotSearch

/-!
# Which relations can be connected

The relations that connect some others may be added in several orders (`Bridging`), of which a search
takes the one that the schema gives, and it never takes a relation back. Where a relation joins two
components, one that would have joined them too is no candidate any more, and the keys that it would
have brought in stay out. Main statement: a search connects the relations for some order of the
schema exactly when they can be connected at all, and for all orders exactly when no choice leads
astray (`pivotRelations_complete`). What does lead astray is keys that the given relations lack.
-/

namespace ProfileQuery.Plan

/-- Relations that may be added one after another: each is a candidate when its turn comes. -/
inductive Bridging (map : KeyMap) (relations : List String) : List String → Prop
  | start : Bridging map relations []
  | add {added : List String} {entry : String × List String} :
      Bridging map relations added → entry ∈ map → Candidate map (relations ++ added) entry →
      Bridging map relations (added ++ [entry.1])

namespace KeyMap

/-- All keys of some relations. -/
def allKeys (map : KeyMap) (relations : List String) : List String :=
  (relations.filterMap map.keys?).flatten

/-- The map in which each relation has only those of its keys that one of the given ones has. -/
def within (map : KeyMap) (relations : List String) : KeyMap :=
  map.map fun entry => (entry.1, entry.2.filter (· ∈ map.allKeys relations))

end KeyMap

variable {map map' : KeyMap} {relations added pivots keys : List String}
  {entry : String × List String}

/-! ## Another order of the schema -/

section

variable (hmap : (map.map (·.1)).Nodup) (hperm : map'.Perm map)
include hmap hperm

theorem nodup_perm : (map'.map (·.1)).Nodup :=
  (hperm.map _).nodup_iff.mpr hmap

theorem KeyMap.keys?_perm (name : String) : map'.keys? name = map.keys? name := by
  refine Option.ext fun keys => ⟨fun h => ?_, fun h => ?_⟩
  · exact KeyMap.keys?_of_mem hmap (hperm.mem_iff.mp (KeyMap.mem_of_keys? h))
  · exact KeyMap.keys?_of_mem (nodup_perm hmap hperm) (hperm.mem_iff.mpr (KeyMap.mem_of_keys? h))

theorem KeyMap.spaces_map_perm : map'.spaces = map.spaces := by
  funext relations
  rw [KeyMap.spaces, KeyMap.spaces, funext (KeyMap.keys?_perm hmap hperm)]

theorem KeyMap.components_perm : map'.components = map.components := by
  funext relations
  rw [KeyMap.components_eq_length, KeyMap.components_eq_length, KeyMap.spaces_map_perm hmap hperm]

theorem Candidate.perm (h : Candidate map' relations entry) : Candidate map relations entry := by
  rw [candidate_iff, KeyMap.spaces_map_perm hmap hperm] at h
  exact candidate_iff.mpr h

theorem Stuck.perm (h : Stuck map' relations) : Stuck map relations where
  apart := KeyMap.components_perm hmap hperm ▸ h.apart
  none_left entry hentry hcandidate := h.none_left entry (hperm.mem_iff.mpr hentry)
    (hcandidate.perm (nodup_perm hmap hperm) hperm.symm)

/-- What may be added does not depend on the order of the schema. -/
theorem Bridging.perm (h : Bridging map' relations added) : Bridging map relations added := by
  induction h with
  | start => exact .start
  | add _ hentry hcandidate ih =>
    exact ih.add (hperm.mem_iff.mp hentry) (hcandidate.perm hmap hperm)

end

/-! ## From the search to what may be added, and back -/

theorem Search.bridging (h : Search map relations added) : Bridging map relations added := by
  induction h with
  | start => exact .start
  | add _ _ heq hcandidate _ ih => exact ih.add (by simp [heq]) hcandidate

theorem Candidate.one_lt_components (h : Candidate map relations entry) :
    1 < map.components relations := by
  have hbridged := KeyMap.bridges_iff.mp h.bridges
  rw [KeySpaces.bridgedBy, decide_eq_true_eq] at hbridged
  rw [KeyMap.components_eq_length]
  exact hbridged.trans_le List.countP_le_length

/-- The entries of what is added, each once. -/
theorem Bridging.exists_entries (h : Bridging map relations added) :
    ∃ entries : KeyMap, entries.map (·.1) = added ∧ entries.Nodup ∧ entries ⊆ map := by
  induction h with
  | start => exact ⟨[], rfl, List.nodup_nil, by simp⟩
  | @add added entry _ hentry hcandidate ih =>
    obtain ⟨entries, rfl, hnodup, hsub⟩ := ih
    refine ⟨entries ++ [entry], by simp, ?_, by simp [hsub, hentry]⟩
    refine List.nodup_append.mpr ⟨hnodup, List.nodup_singleton _, ?_⟩
    rintro other hother entry' hentry' rfl
    obtain rfl := List.mem_singleton.mp hentry'
    exact hcandidate.notMem (List.mem_append_right _ (List.mem_map_of_mem hother))

/-- Where the relations that may be added come first in the schema, a search adds them. -/
theorem Bridging.search_of_front (hmap : (map.map (·.1)).Nodup) {front rest : KeyMap}
    (hfront : map = front ++ rest) (h : Bridging map relations (front.map (·.1))) :
    Search map relations (front.map (·.1)) := by
  induction front using List.reverseRecOn generalizing rest with
  | nil => exact .start
  | append_singleton front last ih =>
    rw [List.map_append, List.map_singleton] at h ⊢
    generalize hnames : front.map (·.1) ++ [last.1] = names at h
    cases h with
    | start => simp at hnames
    | @add added entry hbridging hentry hcandidate =>
      obtain ⟨rfl, hname⟩ := List.append_inj' hnames rfl
      have hlast : last ∈ map := by simp [hfront]
      obtain rfl := List.inj_on_of_nodup_map hmap hlast hentry (List.singleton_inj.mp hname)
      have heq : map = front ++ last :: rest := by simpa using hfront
      refine (ih heq hbridging).add hcandidate.one_lt_components heq hcandidate
        fun earlier hearlier hcontra => ?_
      exact hcontra.notMem (List.mem_append_right _ (List.mem_map_of_mem hearlier))

/-- What may be added is added by the search for some order of the schema. -/
theorem Bridging.exists_search (hmap : (map.map (·.1)).Nodup) (h : Bridging map relations added) :
    ∃ map' : KeyMap, map'.Perm map ∧ Search map' relations added := by
  obtain ⟨front, rfl, hnodup, hsub⟩ := h.exists_entries
  obtain ⟨front', hfront', hsublist⟩ := hnodup.subperm hsub
  obtain ⟨rest, hrest⟩ := hsublist.exists_perm_append
  have hperm : (front ++ rest).Perm map := ((hfront'.symm.append_right rest).trans hrest.symm)
  have hmap' := nodup_perm hmap hperm
  exact ⟨front ++ rest, hperm, (h.perm hmap' hperm.symm).search_of_front hmap' rfl⟩

/-- What has been added was a candidate in front of what came after it. -/
theorem Bridging.of_append_cons (hmap : (map.map (·.1)).Nodup) {name : String}
    {later : List String} (h : Bridging map relations (added ++ name :: later)) :
    ∃ entry ∈ map, Candidate map (relations ++ added) entry := by
  obtain ⟨map', hperm, hsearch⟩ := h.exists_search hmap
  obtain ⟨-, before, entry, after, heq, -, hcandidate, -⟩ := hsearch.of_append_cons
  exact ⟨entry, hperm.mem_iff.mp (by simp [heq]), hcandidate.perm hmap hperm⟩

/-- Pivots are returned exactly when a search adds them and one component at most is left. -/
theorem pivotRelations_eq_ok_iff (hmap : (map.map (·.1)).Nodup) :
    pivotRelations relations map = .ok pivots ↔
      Search map relations pivots ∧ map.components (relations ++ pivots) ≤ 1 := by
  obtain ⟨found, hsearch, hend⟩ := pivotRelations_outcome hmap relations
  constructor
  · intro h
    rcases hend with ⟨hok, hone⟩ | ⟨herror, -⟩
    · obtain rfl := Except.ok.inj (h.symm.trans hok)
      exact ⟨hsearch, hone⟩
    · cases h.symm.trans herror
  · rintro ⟨hsearch', hone⟩
    have hprefix : found <+: pivots := hsearch'.prefix_of_ended (.inl hone) hsearch
    have hprefix' : pivots <+: found := hsearch.prefix_of_ended (hend.imp And.right And.right) hsearch'
    obtain rfl := hprefix.eq_of_length_le hprefix'.length_le
    rcases hend with ⟨hok, -⟩ | ⟨-, hstuck⟩
    · exact hok
    · exact absurd hone (not_le.mpr hstuck.apart)

/-! ## Keys of the given relations -/

namespace KeyMap

theorem mem_allKeys {key : String} :
    key ∈ map.allKeys relations ↔ KeySpaces.Together (map.spaces relations) key key := by
  rw [allKeys, List.mem_flatten]
  constructor
  · rintro ⟨clique, hclique, hkey⟩
    exact (KeySpaces.together_ofCliques _ _ _).mpr (.single ⟨clique, hclique, hkey, hkey⟩)
  · rintro ⟨space, hspace, hkey, -⟩
    exact exists_clique_of_mem hspace hkey

theorem mem_allKeys_append {key : String} (hkey : key ∈ map.allKeys relations)
    (added : List String) : key ∈ map.allKeys (relations ++ added) := by
  rw [allKeys, List.filterMap_append, List.flatten_append]
  exact List.mem_append_left _ hkey

theorem keys?_within (name : String) : (map.within relations).keys? name =
    (map.keys? name).map fun keys => keys.filter (· ∈ map.allKeys relations) := by
  unfold keys? within
  generalize map.allKeys relations = all
  induction map with
  | nil => rfl
  | cons first map ih =>
    rw [List.map_cons, List.lookup_cons, List.lookup_cons]
    split
    · rfl
    · exact ih

/-- One component at most is left exactly when all keys lie together. -/
theorem components_le_one_iff : map.components relations ≤ 1 ↔
    ∀ a ∈ map.allKeys relations, ∀ b ∈ map.allKeys relations,
      KeySpaces.Together (map.spaces relations) a b := by
  rw [components_eq_length, (map.canonical_spaces relations).length_le_one_iff]
  simp only [mem_allKeys]
  exact ⟨fun h a ha b hb => h ha hb, fun h a b ha hb => h a ha b hb⟩

end KeyMap

/-- All that is connected is connected to a key of the given relations. -/
theorem Bridging.anchored (hmap : (map.map (·.1)).Nodup) (h : Bridging map relations added)
    {a : String} (ha : a ∈ map.allKeys (relations ++ added)) :
    ∃ key ∈ map.allKeys relations, KeySpaces.Together (map.spaces (relations ++ added)) a key := by
  rw [KeyMap.mem_allKeys] at ha
  induction h generalizing a with
  | start =>
    rw [List.append_nil] at ha ⊢
    exact ⟨a, KeyMap.mem_allKeys.mpr ha, ha⟩
  | @add added entry _ hentry hcandidate ih =>
    have hspaces : map.spaces (relations ++ (added ++ [entry.1])) =
        (map.spaces (relations ++ added)).connect entry.2 := by
      rw [← List.append_assoc, KeyMap.spaces_concat (KeyMap.keys?_of_mem hmap hentry)]
    have hcanonical := map.canonical_spaces (relations ++ (added ++ [entry.1]))
    rw [hspaces] at ha hcanonical ⊢
    rcases KeySpaces.together_connect.mp ha with hold | ⟨hmerged, -⟩
    · obtain ⟨key, hkey, htogether⟩ := ih hold
      exact ⟨key, hkey, KeySpaces.together_connect.mpr (.inl htogether)⟩
    · -- one of the keys of the relation was there before
      obtain ⟨b, -, hb, -, -⟩ := hcandidate.bridges
      obtain ⟨key, hkey, htogether⟩ := ih (together_self b)
      refine ⟨key, hkey, hcanonical.together_trans (b := b.1) ?_ ?_⟩
      · exact KeySpaces.together_connect.mpr (.inr ⟨hmerged, KeySpaces.mem_merged.mpr (.inl hb)⟩)
      · exact KeySpaces.together_connect.mpr (.inl htogether)

/-- Where a search is stuck, the keys of each relation that are connected at all lie together. -/
theorem Stuck.together (hmap : (map.map (·.1)).Nodup) (h : Stuck map relations)
    (hentry : entry ∈ map) {a b : String} (ha : a ∈ entry.2) (hb : b ∈ entry.2)
    (hina : a ∈ map.allKeys relations) (hinb : b ∈ map.allKeys relations) :
    KeySpaces.Together (map.spaces relations) a b := by
  by_contra hapart
  refine h.none_left entry hentry (candidate_of_bridges hmap hentry
    ⟨⟨a, List.mem_flatten.mp hina⟩, ⟨b, List.mem_flatten.mp hinb⟩, ha, hb, ?_⟩)
  exact fun hreachable => hapart (reachable_iff_together.mp hreachable)

/-- Where a search is stuck, a chain of relations from one key of the given relations to another that
leads through keys of theirs only does not leave the component. -/
theorem Stuck.together_of_within (hmap : (map.map (·.1)).Nodup)
    (h : Stuck map (relations ++ added)) {others : List String} {a b : String}
    (hab : KeySpaces.Together ((map.within relations).spaces others) a b) :
    KeySpaces.Together (map.spaces (relations ++ added)) a b := by
  have hshare : ∀ {a b}, KeySpaces.Share (others.filterMap (map.within relations).keys?) a b →
      KeySpaces.Together (map.spaces (relations ++ added)) a b := by
    rintro a b ⟨clique, hclique, ha, hb⟩
    obtain ⟨name, -, hkeys⟩ := List.mem_filterMap.mp hclique
    rw [KeyMap.keys?_within] at hkeys
    obtain ⟨keys, hfull, rfl⟩ := Option.map_eq_some_iff.mp hkeys
    simp only [List.mem_filter, decide_eq_true_eq] at ha hb
    exact h.together hmap (KeyMap.mem_of_keys? hfull) ha.1 hb.1
      (KeyMap.mem_allKeys_append ha.2 added) (KeyMap.mem_allKeys_append hb.2 added)
  have hcanonical := map.canonical_spaces (relations ++ added)
  induction (KeySpaces.together_ofCliques _ a b).mp hab with
  | single hlast => exact hshare hlast
  | tail hchain hlast ih =>
    exact hcanonical.together_trans (ih ((KeySpaces.together_ofCliques _ _ _).mpr hchain))
      (hshare hlast)

/-- A search is never stuck where keys of the given relations are enough to connect them. -/
theorem Bridging.not_stuck (hmap : (map.map (·.1)).Nodup) (h : Bridging map relations added)
    {others : List String} (hone : (map.within relations).components (relations ++ others) ≤ 1) :
    ¬ Stuck map (relations ++ added) := by
  intro hstuck
  have hcanonical := map.canonical_spaces (relations ++ added)
  -- the relations have the same keys in both maps
  have hnode : ∀ {key}, key ∈ map.allKeys relations →
      key ∈ (map.within relations).allKeys (relations ++ others) := by
    intro key hkey
    obtain ⟨clique, hclique, hin⟩ := List.mem_flatten.mp hkey
    obtain ⟨name, hname, hkeys⟩ := List.mem_filterMap.mp hclique
    refine KeyMap.mem_allKeys_append (List.mem_flatten.mpr ⟨_, List.mem_filterMap.mpr
      ⟨name, hname, (KeyMap.keys?_within name).trans (congrArg _ hkeys)⟩, ?_⟩) others
    exact List.mem_filter.mpr ⟨hin, decide_eq_true hkey⟩
  have hkeys : ∀ a ∈ map.allKeys relations, ∀ b ∈ map.allKeys relations,
      KeySpaces.Together (map.spaces (relations ++ added)) a b := fun a ha b hb =>
    hstuck.together_of_within hmap (KeyMap.components_le_one_iff.mp hone a (hnode ha) b (hnode hb))
  refine absurd hstuck.apart (not_lt.mpr (KeyMap.components_le_one_iff.mpr fun a ha b hb => ?_))
  obtain ⟨key, hkey, hakey⟩ := h.anchored hmap ha
  obtain ⟨key', hkey', hbkey⟩ := h.anchored hmap hb
  exact hcanonical.together_trans hakey
    (hcanonical.together_trans (hkeys key hkey key' hkey') hbkey.symm)

/-! ## Completeness -/

/-- Where a search finds no pivots, it is stuck behind some relations. -/
theorem exists_ok_or_stuck (hmap : (map.map (·.1)).Nodup) (hperm : map'.Perm map)
    (relations : List String) : (∃ pivots, pivotRelations relations map' = .ok pivots) ∨
      ∃ added, Bridging map relations added ∧ Stuck map (relations ++ added) := by
  obtain ⟨pivots, hsearch, ⟨hok, -⟩ | ⟨-, hstuck⟩⟩ :=
    pivotRelations_outcome (nodup_perm hmap hperm) relations
  · exact .inl ⟨pivots, hok⟩
  · exact .inr ⟨pivots, hsearch.bridging.perm hmap hperm, hstuck.perm hmap hperm⟩

/-- Pivots are found for some order of the schema exactly when some relations connect the given ones
one after another. -/
theorem exists_order_ok_iff (hmap : (map.map (·.1)).Nodup) (relations : List String) :
    (∃ map' : KeyMap, map'.Perm map ∧ ∃ pivots, pivotRelations relations map' = .ok pivots) ↔
      ∃ added, Bridging map relations added ∧ map.components (relations ++ added) ≤ 1 := by
  constructor
  · rintro ⟨map', hperm, pivots, hok⟩
    obtain ⟨hsearch, hone⟩ := (pivotRelations_eq_ok_iff (nodup_perm hmap hperm)).mp hok
    exact ⟨pivots, hsearch.bridging.perm hmap hperm, KeyMap.components_perm hmap hperm ▸ hone⟩
  · rintro ⟨added, hbridging, hone⟩
    obtain ⟨map', hperm, hsearch⟩ := hbridging.exists_search hmap
    rw [← KeyMap.components_perm hmap hperm] at hone
    exact ⟨map', hperm, added,
      (pivotRelations_eq_ok_iff (nodup_perm hmap hperm)).mpr ⟨hsearch, hone⟩⟩

/-- Pivots are found for each order of the schema exactly when no choice of candidates leads
astray. -/
theorem forall_order_ok_iff (hmap : (map.map (·.1)).Nodup) (relations : List String) :
    (∀ map' : KeyMap, map'.Perm map → ∃ pivots, pivotRelations relations map' = .ok pivots) ↔
      ∀ added, Bridging map relations added → ∃ more, Bridging map relations (added ++ more) ∧
        map.components (relations ++ (added ++ more)) ≤ 1 := by
  constructor
  · intro hall added hbridging
    -- for some order the search makes these choices, and goes on from there
    obtain ⟨map', hperm, hsearch⟩ := hbridging.exists_search hmap
    obtain ⟨pivots, hok⟩ := hall map' hperm
    obtain ⟨hsearch', hone⟩ := (pivotRelations_eq_ok_iff (nodup_perm hmap hperm)).mp hok
    obtain ⟨more, rfl⟩ := hsearch'.prefix_of_ended (.inl hone) hsearch
    exact ⟨more, hsearch'.bridging.perm hmap hperm, KeyMap.components_perm hmap hperm ▸ hone⟩
  · intro hcontinue map' hperm
    rcases exists_ok_or_stuck hmap hperm relations with hok | ⟨added, hbridging, hstuck⟩
    · exact hok
    · obtain ⟨more, hmore, hone⟩ := hcontinue added hbridging
      cases more with
      | nil =>
        rw [List.append_nil] at hone
        exact absurd hstuck.apart (not_lt.mpr hone)
      | cons name later =>
        obtain ⟨entry, hentry, hcandidate⟩ := hmore.of_append_cons hmap
        exact absurd hcandidate (hstuck.none_left entry hentry)

/-- Pivots are found for some order of the schema exactly when some relations connect the given ones
one after another. They are found for each order exactly when no choice of candidates leads astray,
and so they are where keys of the given relations are enough to connect these. -/
theorem pivotRelations_complete (hmap : (map.map (·.1)).Nodup) (relations : List String) :
    ((∃ map' : KeyMap, map'.Perm map ∧ ∃ pivots, pivotRelations relations map' = .ok pivots) ↔
      ∃ added, Bridging map relations added ∧ map.components (relations ++ added) ≤ 1) ∧
    ((∀ map' : KeyMap, map'.Perm map → ∃ pivots, pivotRelations relations map' = .ok pivots) ↔
      ∀ added, Bridging map relations added → ∃ more, Bridging map relations (added ++ more) ∧
        map.components (relations ++ (added ++ more)) ≤ 1) ∧
    ((∃ others, (map.within relations).components (relations ++ others) ≤ 1) →
      ∀ map' : KeyMap, map'.Perm map → ∃ pivots, pivotRelations relations map' = .ok pivots) := by
  refine ⟨exists_order_ok_iff hmap relations, forall_order_ok_iff hmap relations, ?_⟩
  rintro ⟨others, hone⟩ map' hperm
  rcases exists_ok_or_stuck hmap hperm relations with hok | ⟨added, hbridging, hstuck⟩
  · exact hok
  · exact absurd hstuck (hbridging.not_stuck hmap hone)

/-- Three relations with a key each, and three to connect them: the first of these brings in no key,
the second one the key that the third one needs. -/
def treebank : KeyMap :=
  [("item", ["i"]), ("parse", ["p"]), ("result", ["r"]), ("analysis", ["i", "p"]),
    ("edge", ["i", "p", "e"]), ("tree", ["e", "r"])]

theorem bridging_treebank : Bridging treebank ["item", "parse", "result"] ["edge", "tree"] := by
  have hedge : Candidate treebank ["item", "parse", "result"] ("edge", ["i", "p", "e"]) :=
    candidate_iff.mpr ⟨by simp, by simp, by cbv⟩
  have htree : Candidate treebank ["item", "parse", "result", "edge"] ("tree", ["e", "r"]) :=
    candidate_iff.mpr ⟨by simp, by simp, by cbv⟩
  have hedgeMem : ("edge", ["i", "p", "e"]) ∈ treebank := by simp [treebank]
  have htreeMem : ("tree", ["e", "r"]) ∈ treebank := by simp [treebank]
  exact (Bridging.start.add hedgeMem hedge).add htreeMem htree

theorem components_treebank :
    treebank.components ["item", "parse", "result", "edge", "tree"] ≤ 1 := by
  rw [KeyMap.components_eq_length]
  cbv

/-- In some order of the schema all three relations are connected. Two of them are in each order:
they need no other key. -/
theorem pivotRelations_complete_treebank : (treebank.map (·.1)).Nodup ∧
    (∃ map' : KeyMap, map'.Perm treebank ∧
      ∃ pivots, pivotRelations ["item", "parse", "result"] map' = .ok pivots) ∧
    (treebank.within ["item", "parse"]).components ["item", "parse", "analysis"] ≤ 1 ∧
    ∀ map' : KeyMap, map'.Perm treebank →
      ∃ pivots, pivotRelations ["item", "parse"] map' = .ok pivots := by
  have hmap : (treebank.map (·.1)).Nodup := by decide
  have hone : (treebank.within ["item", "parse"]).components ["item", "parse", "analysis"] ≤ 1 := by
    rw [KeyMap.components_eq_length]
    cbv
  exact ⟨hmap, (pivotRelations_complete hmap ["item", "parse", "result"]).1.mpr
      ⟨["edge", "tree"], bridging_treebank, components_treebank⟩,
    hone, (pivotRelations_complete hmap ["item", "parse"]).2.2 ⟨["analysis"], hone⟩⟩

/-- In the order given, the search takes the first of the connecting relations; the second one then
connects nothing more, and its key stays out. -/
theorem pivotRelations_passed_over :
    (treebank.map (·.1)).Nodup ∧
    Bridging treebank ["item", "parse", "result"] ["edge", "tree"] ∧
    treebank.components ["item", "parse", "result", "edge", "tree"] ≤ 1 ∧
    pivotRelations ["item", "parse", "result"] treebank =
      .error (.noPivotRelation ["item", "parse", "result"]) := by
  refine ⟨by decide, bridging_treebank, components_treebank, ?_⟩
  cbv

end ProfileQuery.Plan
