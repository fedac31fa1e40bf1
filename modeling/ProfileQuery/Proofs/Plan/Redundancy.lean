import ProfileQuery.Proofs.Plan.Bridging
import ProfileQuery.Proofs.Plan.Pivot

/-!
# Which pivots are needed

A search takes no pivot back. Each pivot is needed when it is added, as it joins components that lie
apart; but a later one may join the same components again (`Rejoins`), and then the earlier one could
be left out. Main statement: a pivot is superfluous exactly when the other relations connect all of
its keys that they have, and only where a later pivot rejoins what it joined
(`pivotRelations_needed`).
-/

namespace ProfileQuery.Plan

variable {map : KeyMap} {relations before after keys : List String} {name : String}

/-- Whether a relation joins again what another one joins: two of its keys lie apart in the key graph
of some relations, but in one component of that of these relations and the other one. -/
def Rejoins (map : KeyMap) (relations : List String) (name later : String) : Prop :=
  ∃ keys, map.keys? later = some keys ∧
    ∃ a b : CliqueKey (relations.filterMap map.keys?), a.1 ∈ keys ∧ b.1 ∈ keys ∧
      ¬ (map.graph relations).Reachable a b ∧
      KeySpaces.Together (map.spaces (relations ++ [name])) a.1 b.1

/-! ## Leaving out one relation -/

/-- Where one more relation leaves one component at most, that relation is needed exactly when it
bridges the components of the others. -/
theorem KeyMap.components_le_one_iff_not_bridges (hkeys : map.keys? name = some keys)
    (hne : keys ≠ []) (hone : map.components (relations ++ [name]) ≤ 1) :
    map.components relations ≤ 1 ↔ ¬ map.Bridges relations keys := by
  rw [KeyMap.components_eq_length, KeyMap.spaces_concat hkeys] at hone
  rw [KeyMap.components_eq_length, KeyMap.bridges_iff, KeySpaces.bridgedBy, decide_eq_true_eq]
  have hlength : ((map.spaces relations).connect keys).length +
      (map.spaces relations).countP (touches keys) = (map.spaces relations).length + 1 :=
    KeySpaces.length_connect hne
  have hcount := (map.spaces relations).countP_le_length (p := touches keys)
  omega

theorem KeyMap.components_eq_of_perm {relations' : List String} (h : relations.Perm relations') :
    map.components relations = map.components relations' := by
  rw [KeyMap.components_eq_length, KeyMap.components_eq_length, KeyMap.spaces_perm h]

/-! ## Joining again -/

/-- A key that gets into the merged key space was with one of the keys that are connected. -/
theorem KeySpaces.exists_of_mem_merged {spaces : KeySpaces} {x : String}
    (hx : Together spaces x x) (hmerged : x ∈ merged spaces keys) :
    ∃ key ∈ keys, Together spaces key x := by
  rcases mem_merged.mp hmerged with hkey | hnear
  · exact ⟨x, hkey, hx⟩
  · exact hnear

/-- A relation that joins two keys which lie apart and which another one joins too rejoins them: it has
keys of its own that lie with the two. -/
theorem rejoins_of_together {later a b : String} (hname : map.keys? name = some keys)
    (ha : a ∈ keys) (hb : b ∈ keys) (hselfA : KeySpaces.Together (map.spaces relations) a a)
    (hselfB : KeySpaces.Together (map.spaces relations) b b)
    (hapart : ¬ KeySpaces.Together (map.spaces relations) a b)
    (htogether : KeySpaces.Together (map.spaces (relations ++ [later])) a b) :
    Rejoins map relations name later := by
  cases hlater : map.keys? later with
  | none =>
    have hsame : map.spaces (relations ++ [later]) = map.spaces relations := by
      simp [KeyMap.spaces, hlater]
    exact absurd (hsame ▸ htogether) hapart
  | some laterKeys =>
    have hcanonical := map.canonical_spaces relations
    have hcanonical' := map.canonical_spaces (relations ++ [name])
    rw [KeyMap.spaces_concat hlater] at htogether
    obtain ⟨hmergedA, hmergedB⟩ := (KeySpaces.together_connect.mp htogether).resolve_left hapart
    obtain ⟨c, hc, hca⟩ := KeySpaces.exists_of_mem_merged hselfA hmergedA
    obtain ⟨d, hd, hdb⟩ := KeySpaces.exists_of_mem_merged hselfB hmergedB
    have hnode : ∀ {key other}, KeySpaces.Together (map.spaces relations) key other →
        ∃ clique ∈ relations.filterMap map.keys?, key ∈ clique := by
      rintro key other ⟨_, hspace, hkey, -⟩
      exact exists_clique_of_mem hspace hkey
    refine ⟨laterKeys, hlater, ⟨c, hnode hca⟩, ⟨d, hnode hdb⟩, hc, hd, fun hreachable => ?_, ?_⟩
    · have hcd := reachable_iff_together.mp hreachable
      exact hapart (hcanonical.together_trans hca.symm (hcanonical.together_trans hcd hdb))
    · rw [KeyMap.spaces_concat hname] at hcanonical' ⊢
      have hab : KeySpaces.Together ((map.spaces relations).connect keys) a b :=
        KeySpaces.together_connect.mpr
          (.inr ⟨KeySpaces.mem_merged.mpr (.inl ha), KeySpaces.mem_merged.mpr (.inl hb)⟩)
      have hgrown : ∀ {key other}, KeySpaces.Together (map.spaces relations) key other →
          KeySpaces.Together ((map.spaces relations).connect keys) key other :=
        fun h => KeySpaces.together_connect.mpr (.inl h)
      exact hcanonical'.together_trans (hgrown hca)
        (hcanonical'.together_trans hab (hgrown hdb).symm)

/-- Where keys that a relation joins are joined without it, one of the relations that do so rejoins
them. -/
theorem exists_rejoins (hname : map.keys? name = some keys)
    {a b : CliqueKey (relations.filterMap map.keys?)} (ha : a.1 ∈ keys) (hb : b.1 ∈ keys)
    (hapart : ¬ (map.graph relations).Reachable a b)
    (htogether : KeySpaces.Together (map.spaces (relations ++ after)) a.1 b.1) :
    ∃ middle later rest, after = middle ++ later :: rest ∧
      Rejoins map (relations ++ middle) name later := by
  induction after using List.reverseRecOn with
  | nil =>
    rw [List.append_nil] at htogether
    exact absurd (reachable_iff_together.mpr htogether) hapart
  | append_singleton after last ih =>
    by_cases hbefore : KeySpaces.Together (map.spaces (relations ++ after)) a.1 b.1
    · obtain ⟨middle, later, rest, rfl, hrejoins⟩ := ih hbefore
      exact ⟨middle, later, rest ++ [last], by simp, hrejoins⟩
    · have hself : ∀ key : CliqueKey (relations.filterMap map.keys?),
          KeySpaces.Together (map.spaces (relations ++ after)) key.1 key.1 := fun key =>
        KeyMap.mem_allKeys.mp (KeyMap.mem_allKeys_append (List.mem_flatten.mpr key.2) after)
      rw [← List.append_assoc] at htogether
      exact ⟨after, last, [], rfl,
        rejoins_of_together hname ha hb (hself a) (hself b) hbefore htogether⟩

/-! ## Superfluous pivots -/

/-- Each pivot is needed when it is added: two components at least are left without it, and it lowers
their number. In the end it is superfluous exactly when all of its keys that the other relations have
lie in one component of these. Then a later pivot rejoins what it joined; so the last pivot is never
superfluous. -/
theorem pivotRelations_needed (hmap : (map.map (·.1)).Nodup)
    (h : pivotRelations relations map = .ok (before ++ name :: after)) :
    ∃ keys, map.keys? name = some keys ∧
      1 < map.components (relations ++ before) ∧
      map.components (relations ++ before ++ [name]) < map.components (relations ++ before) ∧
      (map.components (relations ++ (before ++ after)) ≤ 1 ↔
        ∀ a b, a.1 ∈ keys → b.1 ∈ keys →
          (map.graph (relations ++ (before ++ after))).Reachable a b) ∧
      (map.components (relations ++ (before ++ after)) ≤ 1 →
        ∃ middle later rest, after = middle ++ later :: rest ∧
          Rejoins map (relations ++ before ++ middle) name later) := by
  obtain ⟨hsearch, hone⟩ := (pivotRelations_eq_ok_iff hmap).mp h
  obtain ⟨hapart, front, entry, back, heq, rfl, hcandidate, -⟩ := hsearch.of_append_cons
  have hentry : entry ∈ map := by simp [heq]
  have hkeys := KeyMap.keys?_of_mem hmap hentry
  have hne : entry.2 ≠ [] := by
    intro hempty
    have hlength := hcandidate.one_lt
    simp [hempty] at hlength
  have hperm : (relations ++ (before ++ entry.1 :: after)).Perm
      (relations ++ (before ++ after) ++ [entry.1]) := by
    rw [List.append_assoc]
    refine List.Perm.append_left _ (List.perm_middle.trans ?_)
    exact (List.perm_append_singleton _ _).symm
  rw [KeyMap.components_eq_of_perm hperm] at hone
  have hsuperfluous := KeyMap.components_le_one_iff_not_bridges hkeys hne hone
  refine ⟨entry.2, hkeys, hapart, KeyMap.components_concat_lt hkeys hcandidate.bridges, ?_, ?_⟩
  · rw [hsuperfluous, KeyMap.Bridges]
    push Not
    exact Iff.rfl
  · intro hleft
    obtain ⟨a, b, ha, hb, hreach⟩ := hcandidate.bridges
    refine exists_rejoins hkeys ha hb hreach ?_
    rw [List.append_assoc]
    have hmem : ∀ key : CliqueKey ((relations ++ before).filterMap map.keys?),
        key.1 ∈ map.allKeys (relations ++ (before ++ after)) := fun key => by
      rw [← List.append_assoc]
      exact KeyMap.mem_allKeys_append (List.mem_flatten.mpr key.2) after
    exact KeyMap.components_le_one_iff.mp hleft a.1 (hmem a) b.1 (hmem b)

/-- Between three relations the search takes `analysis` first, which connects two of them, and then
`edge`, which connects all three and rejoins the two. -/
theorem pivotRelations_needed_treebank : (treebank.map (·.1)).Nodup ∧
    pivotRelations ["item", "parse", "tree"] treebank = .ok ["analysis", "edge"] ∧
    1 < treebank.components ["item", "parse", "tree", "analysis"] ∧
    treebank.components ["item", "parse", "tree", "edge"] ≤ 1 ∧
    Rejoins treebank ["item", "parse", "tree"] "analysis" "edge" := by
  have hmap : (treebank.map (·.1)).Nodup := by decide
  have hpivots : pivotRelations ["item", "parse", "tree"] treebank = .ok ["analysis", "edge"] := by
    cbv
  have hsuperfluous : treebank.components ["item", "parse", "tree", "edge"] ≤ 1 := by
    rw [KeyMap.components_eq_length]
    cbv
  have hsplit : pivotRelations ["item", "parse", "tree"] treebank =
      .ok (["analysis"] ++ "edge" :: []) := hpivots
  obtain ⟨-, -, hlast, -⟩ := pivotRelations_needed hmap hsplit
  have hsplit' : pivotRelations ["item", "parse", "tree"] treebank =
      .ok ([] ++ "analysis" :: ["edge"]) := hpivots
  obtain ⟨-, -, -, -, -, hrejoins⟩ := pivotRelations_needed hmap hsplit'
  obtain ⟨middle, later, rest, heq, hlater⟩ := hrejoins hsuperfluous
  obtain ⟨rfl, hcons⟩ | ⟨_, rfl, hnil⟩ := List.cons_eq_append_iff.mp heq
  · obtain ⟨rfl, -⟩ := List.cons.inj hcons
    exact ⟨hmap, hpivots, hlast, hsuperfluous, hlater⟩
  · simp at hnil

/-- The pivot that is added first may be left out afterwards. -/
theorem pivotRelations_superfluous :
    (treebank.map (·.1)).Nodup ∧
    pivotRelations ["item", "parse", "tree"] treebank = .ok ["analysis", "edge"] ∧
    treebank.components (["item", "parse", "tree"] ++ ["edge"]) ≤ 1 := by
  refine ⟨by decide, by cbv, ?_⟩
  rw [KeyMap.components_eq_length]
  cbv

end ProfileQuery.Plan
