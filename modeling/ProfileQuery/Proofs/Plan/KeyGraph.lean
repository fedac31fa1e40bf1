import Mathlib.Combinatorics.SimpleGraph.Connectivity.Finite
import ProfileQuery.Plan.Pivot
import ProfileQuery.Proofs.Plan.KeySpace

/-!
# The graph of keys

The keys of some relations as the vertices of a graph, in which any two keys of one relation are
joined. The key spaces are its connected components (`reachable_iff_together`,
`components_eq_length`), so what a search does with key spaces can be stated of the graph. Connecting
keys that touch some components replaces these by one (`KeySpaces.length_connect`).
-/

namespace ProfileQuery.Plan

/-- The keys of some cliques. -/
abbrev CliqueKey (cliques : List (List String)) : Type :=
  { key : String // ∃ clique ∈ cliques, key ∈ clique }

/-- The graph of the keys of some cliques: those of one clique are joined. -/
def cliqueGraph (cliques : List (List String)) : SimpleGraph (CliqueKey cliques) where
  Adj a b := a ≠ b ∧ KeySpaces.Share cliques a.1 b.1
  symm := ⟨fun _ _ ⟨hne, clique, hclique, ha, hb⟩ => ⟨hne.symm, clique, hclique, hb, ha⟩⟩
  loopless := ⟨fun _ h => h.1 rfl⟩

namespace KeyMap

/-- The graph of the keys of some relations. -/
def graph (map : KeyMap) (relations : List String) :
    SimpleGraph (CliqueKey (relations.filterMap map.keys?)) :=
  cliqueGraph _

/-- The number of connected components of the keys of some relations. -/
noncomputable def components (map : KeyMap) (relations : List String) : Nat :=
  Nat.card (map.graph relations).ConnectedComponent

/-- Whether some keys lie in two components of the keys of some relations. -/
def Bridges (map : KeyMap) (relations keys : List String) : Prop :=
  ∃ a b, a.1 ∈ keys ∧ b.1 ∈ keys ∧ ¬ (map.graph relations).Reachable a b

end KeyMap

/-! ## Components -/

section

variable {cliques : List (List String)} {keys : List String}

theorem together_self (a : CliqueKey cliques) :
    KeySpaces.Together (.ofCliques cliques) a.1 a.1 :=
  let ⟨clique, hclique, ha⟩ := a.2
  (KeySpaces.together_ofCliques cliques _ _).mpr (.single ⟨clique, hclique, ha, ha⟩)

/-- A chain of cliques is a path of the graph. -/
theorem reachable_of_transGen {a : CliqueKey cliques} {key : String}
    (h : Relation.TransGen (KeySpaces.Share cliques) a.1 key)
    (hkey : ∃ clique ∈ cliques, key ∈ clique) : (cliqueGraph cliques).Reachable a ⟨key, hkey⟩ := by
  have step : ∀ {b c : CliqueKey cliques}, KeySpaces.Share cliques b.1 c.1 →
      (cliqueGraph cliques).Reachable b c := by
    intro b c hshare
    by_cases heq : b = c
    · rw [heq]
    · exact SimpleGraph.Adj.reachable ⟨heq, hshare⟩
  induction h with
  | single hshare => exact step hshare
  | @tail key' _ _ hshare ih =>
    -- the name before the last one is a key, too
    have hkey' : ∃ clique ∈ cliques, key' ∈ clique :=
      hshare.imp fun _ h => ⟨h.1, h.2.1⟩
    exact (ih hkey').trans (step hshare)

/-- Two keys are connected in the graph exactly when they lie in one key space. -/
theorem reachable_iff_together {a b : CliqueKey cliques} :
    (cliqueGraph cliques).Reachable a b ↔ KeySpaces.Together (.ofCliques cliques) a.1 b.1 := by
  constructor
  · rw [SimpleGraph.reachable_iff_reflTransGen]
    intro h
    induction h with
    | refl => exact together_self a
    | tail _ hadj ih =>
      exact (KeySpaces.canonical_ofCliques cliques).together_trans ih
        ((KeySpaces.together_ofCliques cliques _ _).mpr (.single hadj.2))
  · intro h
    exact reachable_of_transGen ((KeySpaces.together_ofCliques cliques _ _).mp h) b.2

/-- A name that lies in a key space is a key of a clique. -/
theorem exists_clique_of_mem {space : List String} (hspace : space ∈ KeySpaces.ofCliques cliques)
    {key : String} (hkey : key ∈ space) : ∃ clique ∈ cliques, key ∈ clique := by
  have htogether := (KeySpaces.together_ofCliques cliques key key).mp ⟨space, hspace, hkey, hkey⟩
  obtain ⟨_, ⟨clique, hclique, hmem, -⟩, -⟩ := Relation.TransGen.head'_iff.mp htogether
  exact ⟨clique, hclique, hmem⟩

/-- There are as many components as key spaces. -/
theorem card_component (cliques : List (List String)) :
    Nat.card (cliqueGraph cliques).ConnectedComponent = (KeySpaces.ofCliques cliques).length := by
  have hcanonical := KeySpaces.canonical_ofCliques cliques
  -- the component of a key space is that of its smallest key
  let component : { space // space ∈ KeySpaces.ofCliques cliques } →
      (cliqueGraph cliques).ConnectedComponent := fun space =>
    (cliqueGraph cliques).connectedComponentMk ⟨space.1.headD "",
      exists_clique_of_mem space.2 (KeySpaces.headD_mem (hcanonical.ne_nil _ space.2))⟩
  have hbijective : Function.Bijective component := by
    constructor
    · rintro ⟨space, hspace⟩ ⟨other, hother⟩ heq
      obtain ⟨third, hthird, hhead, hhead'⟩ :=
        reachable_iff_together.mp (SimpleGraph.ConnectedComponent.eq.mp heq)
      have hin := KeySpaces.headD_mem (hcanonical.ne_nil _ hspace)
      have hin' := KeySpaces.headD_mem (hcanonical.ne_nil _ hother)
      exact Subtype.ext ((hcanonical.space_unique hspace hthird hin hhead).trans
        (hcanonical.space_unique hother hthird hin' hhead').symm)
    · intro c
      induction c using SimpleGraph.ConnectedComponent.ind with
      | h key =>
        obtain ⟨space, hspace, hkey, -⟩ := together_self key
        refine ⟨⟨space, hspace⟩, SimpleGraph.ConnectedComponent.eq.mpr
          (reachable_iff_together.mpr ⟨space, hspace, ?_, hkey⟩)⟩
        exact KeySpaces.headD_mem (hcanonical.ne_nil _ hspace)
  have hcard : Nat.card { space // space ∈ KeySpaces.ofCliques cliques } =
      (KeySpaces.ofCliques cliques).length := by
    simp only [← List.mem_toFinset, Nat.card_eq_fintype_card, Fintype.card_coe,
      List.toFinset_card_of_nodup hcanonical.nodup]
  rw [← hcard, Nat.card_eq_of_bijective component hbijective]

/-- Keys lie in two components exactly when they bridge two key spaces. -/
theorem bridgedBy_iff {keys : List String} : (KeySpaces.ofCliques cliques).bridgedBy keys = true ↔
    ∃ a b : CliqueKey cliques, a.1 ∈ keys ∧ b.1 ∈ keys ∧ ¬ (cliqueGraph cliques).Reachable a b := by
  have hcanonical := KeySpaces.canonical_ofCliques cliques
  simp only [reachable_iff_together]
  rw [KeySpaces.bridgedBy, decide_eq_true_eq, List.countP_eq_length_filter,
    ← List.toFinset_card_of_nodup (hcanonical.nodup.filter _), Finset.one_lt_card]
  simp only [List.mem_toFinset, List.mem_filter, KeySpaces.touches_iff]
  constructor
  · rintro ⟨space, ⟨hspace, a, ha, hin⟩, other, ⟨hother, b, hb, hin'⟩, hne⟩
    refine ⟨⟨a, exists_clique_of_mem hspace hin⟩, ⟨b, exists_clique_of_mem hother hin'⟩, ha, hb, ?_⟩
    rintro ⟨third, hthird, ha', hb'⟩
    exact hne ((hcanonical.space_unique hspace hthird hin ha').trans
      (hcanonical.space_unique hother hthird hin' hb').symm)
  · rintro ⟨a, b, ha, hb, hapart⟩
    obtain ⟨space, hspace, hin, -⟩ := together_self a
    obtain ⟨other, hother, hin', -⟩ := together_self b
    refine ⟨space, ⟨hspace, a, ha, hin⟩, other, ⟨hother, b, hb, hin'⟩, ?_⟩
    rintro rfl
    exact hapart ⟨space, hspace, hin, hin'⟩

end

namespace KeyMap

variable {map : KeyMap} {relations keys : List String} {name : String} {entry : String × List String}

theorem canonical_spaces (map : KeyMap) (relations : List String) :
    KeySpaces.Canonical (map.spaces relations) :=
  KeySpaces.canonical_ofCliques _

theorem components_eq_length (map : KeyMap) (relations : List String) :
    map.components relations = (map.spaces relations).length :=
  card_component _

theorem bridges_iff : map.Bridges relations keys ↔ (map.spaces relations).bridgedBy keys = true :=
  bridgedBy_iff.symm

theorem spaces_concat (hkeys : map.keys? name = some keys) :
    map.spaces (relations ++ [name]) = (map.spaces relations).connect keys := by
  rw [spaces, List.filterMap_append, List.filterMap_cons, hkeys, List.filterMap_nil,
    KeySpaces.ofCliques_concat]
  rfl

theorem mem_of_keys? (h : map.keys? name = some keys) : (name, keys) ∈ map := by
  obtain ⟨before, after, rfl, -⟩ := List.lookup_eq_some_iff.mp h
  simp

/-- In a map with distinct names each entry is found under its name. -/
theorem keys?_of_mem (hmap : (map.map (·.1)).Nodup) (hentry : entry ∈ map) :
    map.keys? entry.1 = some entry.2 := by
  obtain ⟨before, after, rfl⟩ := List.append_of_mem hentry
  refine List.lookup_eq_some_iff.mpr ⟨before, after, rfl, fun other hother => ?_⟩
  rw [List.map_append, List.map_cons, List.nodup_append] at hmap
  have hne := hmap.2.2 other.1 (List.mem_map_of_mem hother) entry.1 List.mem_cons_self
  simpa using hne.symm

/-- Adding a relation that bridges components lowers their number. -/
theorem components_concat_lt (hkeys : map.keys? name = some keys) (h : map.Bridges relations keys) :
    map.components (relations ++ [name]) < map.components relations := by
  rw [components_eq_length, components_eq_length, spaces_concat hkeys]
  exact KeySpaces.length_connect_lt (bridges_iff.mp h)

/-- A relation whose keys are among those connected bridges nothing. -/
theorem not_bridges_of_mem (hkeys : map.keys? name = some keys) (hname : name ∈ relations) :
    ¬ map.Bridges relations keys := by
  rintro ⟨a, b, ha, hb, hapart⟩
  refine hapart (reachable_iff_together.mpr ((KeySpaces.together_ofCliques _ _ _).mpr (.single ?_)))
  exact ⟨keys, List.mem_filterMap.mpr ⟨name, hname, hkeys⟩, ha, hb⟩

/-- One key alone bridges nothing. -/
theorem Bridges.one_lt_length (h : map.Bridges relations keys) : 1 < keys.length := by
  obtain ⟨a, b, ha, hb, hapart⟩ := h
  match keys, ha, hb with
  | [key], ha, hb =>
    have heq : a = b := Subtype.ext ((List.mem_singleton.mp ha).trans (List.mem_singleton.mp hb).symm)
    exact absurd (heq ▸ SimpleGraph.Reachable.rfl) hapart
  | _ :: _ :: _, _, _ => simp

end KeyMap

end ProfileQuery.Plan
