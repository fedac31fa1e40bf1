import ProfileQuery.Plan.KeyGraph
import ProfileQuery.Proofs.Plan.KeySpace

/-!
# The components of key graphs

A walk through a key graph ends, and it has then been to the keys that a path leads to from its start
(`KeyGraph.mem_component_run`); the walks from all keys together find the key spaces of the cliques
that the graph was built of (`KeyGraph.components_ofCliques`). Main statement: the components
partition the keys that were added, two keys being together exactly when a chain of cliques links
them, in the order of their smallest keys and whatever the order of the cliques
(`KeyGraph.components_partition`).
-/

namespace ProfileQuery.Plan.KeyGraph

open KeySpaces (Canonical Share Together)

variable {g : KeyGraph} {a b key other : String} {cliques : List (List String)}

/-! ## The edges of a graph -/

/-- Whether the second key is a neighbor of the first one. -/
def Adjacent (g : KeyGraph) (a b : String) : Prop := b ∈ g.neighbors a

theorem adjacent_join : (g.join key other).Adjacent a b ↔
    g.Adjacent a b ∨ (a = key ∧ b = other) ∨ (a = other ∧ b = key) := by
  have one : ∀ {key other : String} {edges : Entries},
      b ∈ (edges.change key (Names.insert other)).under a ↔
        b ∈ edges.under a ∨ (a = key ∧ b = other) := by
    intro key other edges
    rw [Entries.under_change]
    by_cases h : a = key
    · simp [h, Names.mem_insert, or_comm]
    · simp [h]
  simp only [Adjacent, neighbors, join, one, or_assoc]

theorem keys_addKey (g : KeyGraph) (key : String) (others : List String) :
    (g.addKey key others).keys = Names.insert key g.keys := by
  have joined : ∀ (others : List String) (g : KeyGraph),
      (others.foldl (fun g other => g.join key other) g).keys = g.keys := by
    intro others
    induction others with
    | nil => exact fun _ => rfl
    | cons other others ih => exact fun g => ih (g.join key other)
  exact joined others _

theorem adjacent_addKey {others : List String} : (g.addKey key others).Adjacent a b ↔
    g.Adjacent a b ∨ (a = key ∧ b ∈ others) ∨ (a ∈ others ∧ b = key) := by
  have joined : ∀ (others : List String) (g : KeyGraph),
      (others.foldl (fun g other => g.join key other) g).Adjacent a b ↔
        g.Adjacent a b ∨ (a = key ∧ b ∈ others) ∨ (a ∈ others ∧ b = key) := by
    intro others
    induction others with
    | nil => simp
    | cons other others ih =>
      intro g
      rw [List.foldl_cons, ih, adjacent_join]
      simp only [List.mem_cons]
      tauto
  exact joined others _

theorem mem_keys_addClique {keys : List String} :
    key ∈ (g.addClique keys).keys ↔ key ∈ g.keys ∨ key ∈ keys := by
  induction keys generalizing g with
  | nil => simp [addClique]
  | cons first keys ih =>
    rw [addClique, ih, keys_addKey, Names.mem_insert, List.mem_cons]
    tauto

/-- Different keys are joined when they are in the clique. -/
theorem adjacent_addClique {keys : List String} (hne : a ≠ b) :
    (g.addClique keys).Adjacent a b ↔ g.Adjacent a b ∨ (a ∈ keys ∧ b ∈ keys) := by
  induction keys generalizing g with
  | nil => simp [addClique]
  | cons first keys ih =>
    rw [addClique, ih, adjacent_addKey, List.mem_cons, List.mem_cons]
    constructor
    · tauto
    · rintro (h | ⟨rfl | ha, rfl | hb⟩)
      · exact .inl (.inl h)
      · exact absurd rfl hne
      · exact .inl (.inr (.inl ⟨rfl, hb⟩))
      · exact .inl (.inr (.inr ⟨ha, rfl⟩))
      · exact .inr ⟨ha, hb⟩

theorem ascending_addClique (h : Names.Ascending g.keys) (keys : List String) :
    Names.Ascending (g.addClique keys).keys := by
  induction keys generalizing g with
  | nil => exact h
  | cons first keys ih =>
    refine ih ?_
    rw [keys_addKey]
    exact Names.ascending_insert h

theorem ofCliques_append (cliques : List (List String)) (clique : List String) :
    ofCliques (cliques ++ [clique]) = (ofCliques cliques).addClique clique :=
  List.foldl_concat _ _ _ _

theorem ascending_ofCliques (cliques : List (List String)) :
    Names.Ascending (ofCliques cliques).keys := by
  induction cliques using List.reverseRecOn with
  | nil => exact List.Pairwise.nil
  | append_singleton cliques clique ih =>
    rw [ofCliques_append]
    exact ascending_addClique ih clique

theorem mem_keys_ofCliques : key ∈ (ofCliques cliques).keys ↔ ∃ clique ∈ cliques, key ∈ clique := by
  induction cliques using List.reverseRecOn with
  | nil => simp [ofCliques, empty]
  | append_singleton cliques clique ih =>
    rw [ofCliques_append, mem_keys_addClique, ih]
    simp [or_and_right, exists_or]

theorem adjacent_ofCliques (hne : a ≠ b) : (ofCliques cliques).Adjacent a b ↔ Share cliques a b := by
  induction cliques using List.reverseRecOn with
  | nil => simp [ofCliques, empty, Adjacent, neighbors, Share]
  | append_singleton cliques clique ih =>
    rw [ofCliques_append, adjacent_addClique hne, ih]
    simp [Share, or_and_right, exists_or]

/-- What holds of the graphs that are built of cliques: an edge goes both ways, and from key to key.
-/
structure Undirected (g : KeyGraph) : Prop where
  ascending : Names.Ascending g.keys
  symm : ∀ {a b}, g.Adjacent a b → g.Adjacent b a
  mem_keys : ∀ {a b}, a ∈ g.keys → g.Adjacent a b → b ∈ g.keys

theorem undirected_ofCliques (cliques : List (List String)) : (ofCliques cliques).Undirected := by
  refine ⟨ascending_ofCliques cliques, fun {a b} hab => ?_, fun {a b} ha hab => ?_⟩
  · by_cases hne : a = b
    · exact hne ▸ hne ▸ hab
    · obtain ⟨clique, hclique, ha, hb⟩ := (adjacent_ofCliques hne).mp hab
      exact (adjacent_ofCliques (Ne.symm hne)).mpr ⟨clique, hclique, hb, ha⟩
  · by_cases hne : a = b
    · exact hne ▸ ha
    · obtain ⟨clique, hclique, -, hb⟩ := (adjacent_ofCliques hne).mp hab
      exact mem_keys_ofCliques.mpr ⟨clique, hclique, hb⟩

/-! ## Paths -/

/-- Whether a path leads from one key to another one. -/
def Reaches (g : KeyGraph) : String → String → Prop := Relation.ReflTransGen g.Adjacent

theorem Undirected.reaches_symm (hg : g.Undirected) (h : g.Reaches a b) : g.Reaches b a := by
  induction h with
  | refl => exact .refl
  | tail _ hadjacent ih => exact .head (hg.symm hadjacent) ih

theorem Undirected.mem_of_reaches (hg : g.Undirected) (ha : a ∈ g.keys) (h : g.Reaches a b) :
    b ∈ g.keys := by
  induction h with
  | refl => exact ha
  | tail _ hadjacent ih => exact hg.mem_keys ih hadjacent

/-- In the graph of some cliques paths are the chains of cliques. -/
theorem reaches_ofCliques : (ofCliques cliques).Reaches a b ↔
    Relation.ReflTransGen (Share cliques) a b := by
  -- the two differ only in steps from a key to itself
  constructor
  · intro h
    induction h with
    | refl => exact .refl
    | @tail b c _ hadjacent ih =>
      by_cases hne : b = c
      · exact hne ▸ ih
      · exact ih.tail ((adjacent_ofCliques hne).mp hadjacent)
  · intro h
    induction h with
    | refl => exact .refl
    | @tail b c _ hshare ih =>
      by_cases hne : b = c
      · exact hne ▸ ih
      · exact ih.tail ((adjacent_ofCliques hne).mpr hshare)

/-! ## One walk -/

variable {w w' : Walk} {seen : List String} {start : String}

/-- Whether a set of keys has the neighbors of each of them. -/
def Closed (g : KeyGraph) (keys : List String) : Prop :=
  ∀ key ∈ keys, ∀ other, g.Adjacent key other → other ∈ keys

/-- What is kept along a walk from `start`, with the keys `before` seen when it began. -/
structure Underway (g : KeyGraph) (before : List String) (start : String) (w : Walk) : Prop where
  seen : ∀ key, key ∈ w.seen ↔ key ∈ before ∨ key ∈ w.component
  fresh : ∀ key ∈ w.component, key ∉ before
  ascending : Names.Ascending w.component
  started : start ∈ w.seen ∨ start ∈ w.stack
  reached : ∀ key, key ∈ w.component ∨ key ∈ w.stack → g.Reaches start key
  explored : ∀ key ∈ w.component, ∀ other, g.Adjacent key other → other ∈ w.seen ∨ other ∈ w.stack

theorem underway_start (g : KeyGraph) (seen : List String) (start : String) :
    g.Underway seen start (.start seen start) where
  seen key := by simp [Walk.start]
  fresh := by simp [Walk.start]
  ascending := List.Pairwise.nil
  started := .inr (List.mem_singleton_self start)
  reached key h := by
    obtain rfl : key = start := by simpa [Walk.start] using h
    exact .refl
  explored := by simp [Walk.start]

/-- A step either passes a seen key over or goes to a new one. -/
theorem step_cases (h : g.step w = some w') : ∃ key stack, w.stack = key :: stack ∧
    ((key ∈ w.seen ∧ w' = { w with stack }) ∨
      (key ∉ w.seen ∧ w' = ⟨(g.neighbors key).reverse ++ stack, key :: w.seen,
        Names.insert key w.component⟩)) := by
  unfold step at h
  split at h
  · cases h
  · next key stack hstack =>
    refine ⟨key, stack, hstack, ?_⟩
    split at h
    · next hseen => exact .inl ⟨hseen, (Option.some.inj h).symm⟩
    · next hunseen => exact .inr ⟨hunseen, (Option.some.inj h).symm⟩

/-- Nothing is lost with a key that has been seen. -/
theorem Underway.pass {stack : List String} (hw : g.Underway seen start w)
    (hstack : w.stack = key :: stack) (hseen : key ∈ w.seen) :
    g.Underway seen start { w with stack } := by
  have keep : ∀ {other}, other ∈ w.seen ∨ other ∈ w.stack → other ∈ w.seen ∨ other ∈ stack := by
    rintro other (hother | hother)
    · exact .inl hother
    · rw [hstack] at hother
      rcases List.mem_cons.mp hother with rfl | hmem
      · exact .inl hseen
      · exact .inr hmem
  exact
    { seen := hw.seen
      fresh := hw.fresh
      ascending := hw.ascending
      started := keep hw.started
      reached := fun other hother => hw.reached other
        (hother.imp_right fun hmem => hstack ▸ List.mem_cons_of_mem key hmem)
      explored := fun other hother next hnext => keep (hw.explored other hother next hnext) }

/-- A new key is reached from the start, and its neighbors are on the stack then. -/
theorem Underway.visit {stack : List String} (hw : g.Underway seen start w)
    (hstack : w.stack = key :: stack) (hunseen : key ∉ w.seen) :
    g.Underway seen start ⟨(g.neighbors key).reverse ++ stack, key :: w.seen,
      Names.insert key w.component⟩ := by
  have hreached : g.Reaches start key := hw.reached key (.inr (hstack ▸ List.mem_cons_self))
  have keep : ∀ {other}, other ∈ w.seen ∨ other ∈ w.stack →
      other ∈ key :: w.seen ∨ other ∈ (g.neighbors key).reverse ++ stack := by
    rintro other (hother | hother)
    · exact .inl (List.mem_cons_of_mem key hother)
    · rw [hstack] at hother
      rcases List.mem_cons.mp hother with rfl | hmem
      · exact .inl List.mem_cons_self
      · exact .inr (List.mem_append_right _ hmem)
  refine ⟨fun other => ?_, fun other hother => ?_, Names.ascending_insert hw.ascending,
    keep hw.started, fun other hother => ?_, fun other hother next hnext => ?_⟩
  · rw [List.mem_cons, hw.seen, Names.mem_insert]
    exact or_left_comm
  · rcases Names.mem_insert.mp hother with rfl | hold
    · exact fun hbefore => hunseen ((hw.seen other).mpr (.inl hbefore))
    · exact hw.fresh other hold
  · rcases hother with hcomponent | hstack'
    · rcases Names.mem_insert.mp hcomponent with rfl | hold
      · exact hreached
      · exact hw.reached other (.inl hold)
    · rcases List.mem_append.mp hstack' with hneighbor | hold
      · exact hreached.tail (List.mem_reverse.mp hneighbor)
      · exact hw.reached other (.inr (hstack ▸ List.mem_cons_of_mem key hold))
  · rcases Names.mem_insert.mp hother with rfl | hold
    · exact .inr (List.mem_append_left _ (List.mem_reverse.mpr hnext))
    · exact keep (hw.explored other hold next hnext)

theorem Underway.step (hw : g.Underway seen start w) (h : g.step w = some w') :
    g.Underway seen start w' := by
  obtain ⟨key, stack, hstack, ⟨hseen, rfl⟩ | ⟨hunseen, rfl⟩⟩ := step_cases h
  · exact hw.pass hstack hseen
  · exact hw.visit hstack hunseen

theorem Underway.run (hw : g.Underway seen start w) : g.Underway seen start (g.run w) := by
  fun_induction KeyGraph.run g w with
  | case1 w _ => exact hw
  | case2 w next hstep ih => exact ih (hw.step hstep)

/-- A walk is over when its stack is empty. -/
theorem step_eq_none : g.step w = none ↔ w.stack = [] := by
  unfold KeyGraph.step
  split
  · next hstack => simp [hstack]
  · next key stack hstack =>
    rw [hstack]
    split <;> simp

/-- A walk ends after finitely many steps, with nothing left on its stack. -/
theorem run_ends (g : KeyGraph) (w : Walk) :
    Relation.ReflTransGen (fun w w' => g.step w = some w') w (g.run w) ∧ (g.run w).stack = [] := by
  fun_induction KeyGraph.run g w with
  | case1 w hstep => exact ⟨.refl, step_eq_none.mp hstep⟩
  | case2 w next hstep ih => exact ⟨.head hstep ih.1, ih.2⟩

/-- A walk that starts at a new key finds what can be reached from there. -/
theorem mem_component_run (hg : g.Undirected) (hseen : g.Closed seen) (hstart : start ∉ seen) :
    key ∈ (g.run (.start seen start)).component ↔ g.Reaches start key := by
  have hw := (g.underway_start seen start).run
  have hend := (g.run_ends (.start seen start)).2
  refine ⟨fun hkey => hw.reached key (.inl hkey), fun hreaches => ?_⟩
  induction hreaches with
  | refl =>
    have hstarted := hw.started
    rw [hend] at hstarted
    exact ((hw.seen start).mp (hstarted.resolve_right List.not_mem_nil)).resolve_left hstart
  | @tail last key _ hadjacent ih =>
    have hexplored := hw.explored last ih key hadjacent
    rw [hend] at hexplored
    rcases (hw.seen key).mp (hexplored.resolve_right List.not_mem_nil) with hbefore | hcomponent
    · -- else the walk before would have come along here
      exact absurd (hseen key hbefore last (hg.symm hadjacent)) (hw.fresh last ih)
    · exact hcomponent

theorem mem_seen_run (hg : g.Undirected) (hseen : g.Closed seen) (hstart : start ∉ seen) :
    key ∈ (g.run (.start seen start)).seen ↔ key ∈ seen ∨ g.Reaches start key := by
  rw [((g.underway_start seen start).run).seen, mem_component_run hg hseen hstart]

/-! ## All walks -/

theorem Closed.run (hg : g.Undirected) (hseen : g.Closed seen) (hstart : start ∉ seen) :
    g.Closed (g.run (.start seen start)).seen := by
  intro key hkey other hadjacent
  rw [mem_seen_run hg hseen hstart] at hkey ⊢
  rcases hkey with hbefore | hreaches
  · exact .inl (hseen key hbefore other hadjacent)
  · exact .inr (hreaches.tail hadjacent)

/-- What cannot be left has been entered nowhere. -/
theorem Closed.of_reaches (hg : g.Undirected) (hseen : g.Closed seen) (h : g.Reaches a b)
    (hb : b ∈ seen) : a ∈ seen := by
  induction h with
  | refl => exact hb
  | tail _ hadjacent ih => exact ih (hseen _ hb _ (hg.symm hadjacent))

/-- What holds when the walks from the last keys of a graph are left: with the keys seen they are all
keys, and no edge leads away from the seen ones. -/
structure Left (g : KeyGraph) (seen keys : List String) : Prop where
  ascending : Names.Ascending keys
  closed : g.Closed seen
  cover : ∀ key ∈ g.keys, key ∈ seen ∨ key ∈ keys
  mem_keys : ∀ key ∈ keys, key ∈ g.keys

variable {keys : List String}

theorem Undirected.left (hg : g.Undirected) : g.Left [] g.keys :=
  ⟨hg.ascending, nofun, fun _ hkey => .inr hkey, fun _ hkey => hkey⟩

/-- The first key may have been seen since. -/
theorem Left.tail {seen' : List String} (h : g.Left seen (start :: keys)) (hclosed : g.Closed seen')
    (hsub : ∀ key ∈ seen, key ∈ seen') (hstart : start ∈ seen') : g.Left seen' keys where
  ascending := (List.pairwise_cons.mp h.ascending).2
  closed := hclosed
  cover key hkey := by
    rcases h.cover key hkey with hold | hmem
    · exact .inl (hsub key hold)
    · rcases List.mem_cons.mp hmem with rfl | hlater
      · exact .inl hstart
      · exact .inr hlater
  mem_keys key hkey := h.mem_keys key (List.mem_cons_of_mem start hkey)

/-- The smallest key of a set is its first one. -/
theorem headD_le {space : List String} (h : Names.Ascending space) (hkey : key ∈ space) :
    space.headD "" ≤ key := by
  cases space with
  | nil => cases hkey
  | cons first rest =>
    rcases List.mem_cons.mp hkey with rfl | hlater
    · exact le_refl _
    · exact ((List.pairwise_cons.mp h).1 key hlater).le

theorem together_cons {space : List String} {spaces : KeySpaces} :
    Together (space :: spaces) a b ↔ (a ∈ space ∧ b ∈ space) ∨ Together spaces a b := by
  simp [Together]

/-- What the walks from the last keys are to find: disjoint sets in the order of their smallest keys,
in which those keys are together that a path connects. -/
structure Finds (g : KeyGraph) (seen keys : List String) (spaces : KeySpaces) : Prop where
  canonical : Canonical spaces
  together : ∀ a b, Together spaces a b ↔ a ∈ keys ∧ a ∉ seen ∧ g.Reaches a b

/-- What is found was not seen before. -/
theorem Finds.fresh {space : List String} {spaces : KeySpaces} (h : g.Finds seen keys spaces)
    (hspace : space ∈ spaces) (hkey : key ∈ space) : key ∈ keys ∧ key ∉ seen := by
  obtain ⟨hmem, hfresh, -⟩ := (h.together key key).mp ⟨space, hspace, hkey, hkey⟩
  exact ⟨hmem, hfresh⟩

/-- From a key that has been seen nothing more is to be found. -/
theorem Finds.passed {spaces : KeySpaces} (h : g.Finds seen keys spaces) (hstart : start ∈ seen) :
    g.Finds seen (start :: keys) spaces where
  canonical := h.canonical
  together a b := by
    refine (h.together a b).trans (and_congr_left ?_)
    rintro ⟨hfresh, -⟩
    have hne : a ≠ start := fun heq => hfresh (heq ▸ hstart)
    simp [hne]

/-- A walk finds the component of a new key, and the walks after it find the others. -/
theorem Finds.walk {spaces : KeySpaces} (hg : g.Undirected) (h : g.Left seen (start :: keys))
    (hstart : start ∉ seen) (hlater : g.Finds (g.run (.start seen start)).seen keys spaces) :
    g.Finds seen (start :: keys) ((g.run (.start seen start)).component :: spaces) := by
  have hascending := (g.underway_start seen start).run.ascending
  have hcomponent {key} : key ∈ (g.run (.start seen start)).component ↔ g.Reaches start key :=
    mem_component_run hg h.closed hstart
  have hafter {key} : key ∈ (g.run (.start seen start)).seen ↔
      key ∈ seen ∨ g.Reaches start key := mem_seen_run hg h.closed hstart
  generalize g.run (.start seen start) = walk at *
  have hstartMem : start ∈ walk.component := hcomponent.mpr .refl
  have hcanonical := hlater.canonical
  refine ⟨⟨?_, ?_, ?_, ?_⟩, fun a b => ?_⟩
  · exact List.forall_mem_cons.mpr ⟨hascending, hcanonical.ascending⟩
  · exact List.forall_mem_cons.mpr ⟨List.ne_nil_of_mem hstartMem, hcanonical.ne_nil⟩
  · refine List.pairwise_cons.mpr ⟨fun space hspace key hkey hkey' => ?_, hcanonical.disjoint⟩
    exact (hlater.fresh hspace hkey').2 (hafter.mpr (.inr (hcomponent.mp hkey)))
  · -- the start is the smallest of all keys that are left
    refine List.pairwise_cons.mpr ⟨fun space hspace => ?_, hcanonical.ordered⟩
    have hhead := hlater.fresh hspace (KeySpaces.headD_mem (hcanonical.ne_nil space hspace))
    calc walk.component.headD "" ≤ start := headD_le hascending hstartMem
      _ < space.headD "" := (List.pairwise_cons.mp h.ascending).1 _ hhead.1
  · rw [together_cons, hlater.together, hcomponent, hcomponent]
    constructor
    · rintro (⟨ha, hb⟩ | ⟨ha, hfresh, hreaches⟩)
      · have hfresh : a ∉ seen := fun hseen => hstart (h.closed.of_reaches hg ha hseen)
        have hkey := hg.mem_of_reaches (h.mem_keys start List.mem_cons_self) ha
        exact ⟨(h.cover a hkey).resolve_left hfresh, hfresh, (hg.reaches_symm ha).trans hb⟩
      · exact ⟨List.mem_cons_of_mem start ha, fun hseen => hfresh (hafter.mpr (.inl hseen)),
          hreaches⟩
    · rintro ⟨ha, hfresh, hreaches⟩
      by_cases hfound : g.Reaches start a
      · exact .inl ⟨hfound, hfound.trans hreaches⟩
      · have hne : a ≠ start := fun heq => hfound (heq ▸ .refl)
        refine .inr ⟨(List.mem_cons.mp ha).resolve_left hne, fun hseen => ?_, hreaches⟩
        exact (hafter.mp hseen).elim hfresh hfound

theorem Left.componentsFrom (hg : g.Undirected) (h : g.Left seen keys) :
    g.Finds seen keys (g.componentsFrom seen keys) := by
  induction keys generalizing seen with
  | nil => exact ⟨.nil, fun a b => by simp [KeyGraph.componentsFrom, Together]⟩
  | cons start keys ih =>
    unfold KeyGraph.componentsFrom
    split
    · next hstart => exact (ih (h.tail h.closed (fun _ hkey => hkey) hstart)).passed hstart
    · next hstart =>
      have hafter {key} : key ∈ (g.run (.start seen start)).seen ↔
          key ∈ seen ∨ g.Reaches start key := mem_seen_run hg h.closed hstart
      exact Finds.walk hg h hstart (ih (h.tail (h.closed.run hg hstart)
        (fun _ hkey => hafter.mpr (.inl hkey)) (hafter.mpr (.inr .refl))))

theorem exists_clique_of_chain (h : Relation.TransGen (Share cliques) a b) :
    ∃ clique ∈ cliques, a ∈ clique := by
  obtain ⟨_, ⟨clique, hclique, ha, -⟩, -⟩ := Relation.TransGen.head'_iff.mp h
  exact ⟨clique, hclique, ha⟩

/-- The components of the graph of some cliques are their key spaces. -/
theorem components_ofCliques (cliques : List (List String)) :
    (ofCliques cliques).components = KeySpaces.ofCliques cliques := by
  have hg := undirected_ofCliques cliques
  obtain ⟨hcanonical, htogether⟩ := hg.left.componentsFrom hg
  refine hcanonical.ext (KeySpaces.canonical_ofCliques cliques) fun a b => ?_
  rw [htogether, KeySpaces.together_ofCliques, mem_keys_ofCliques, reaches_ofCliques]
  constructor
  · rintro ⟨⟨clique, hclique, ha⟩, -, hchain⟩
    exact .head' ⟨clique, hclique, ha, ha⟩ hchain
  · intro hchain
    exact ⟨exists_clique_of_chain hchain, List.not_mem_nil, hchain.to_reflTransGen⟩

/-- The components of a graph that was built of cliques. Every walk through the graph ends. The
components, sets that are not empty, hold each key that was added exactly once and nothing else; two
keys are together exactly when a chain of cliques links them; the smallest keys ascend; and the order
of the cliques does not count. These are the key spaces by which joins are planned. -/
theorem components_partition (cliques : List (List String)) :
    (∀ w : Walk, Relation.ReflTransGen (fun w w' => (ofCliques cliques).step w = some w') w
        ((ofCliques cliques).run w) ∧ ((ofCliques cliques).run w).stack = []) ∧
    (ofCliques cliques).components.flatten.Nodup ∧
    (∀ key, key ∈ (ofCliques cliques).components.flatten ↔ ∃ clique ∈ cliques, key ∈ clique) ∧
    (∀ component ∈ (ofCliques cliques).components,
      component ≠ [] ∧ Names.Ascending component) ∧
    (∀ a b, (∃ component ∈ (ofCliques cliques).components, a ∈ component ∧ b ∈ component) ↔
      Relation.TransGen (fun a b => ∃ clique ∈ cliques, a ∈ clique ∧ b ∈ clique) a b) ∧
    ((ofCliques cliques).components.Pairwise fun component later =>
      ∃ key ∈ component, ∀ other ∈ later, key < other) ∧
    (∀ cliques', cliques.Perm cliques' →
      (ofCliques cliques').components = (ofCliques cliques).components) ∧
    (ofCliques cliques).components = KeySpaces.ofCliques cliques := by
  have hcanonical := KeySpaces.canonical_ofCliques cliques
  have htogether := KeySpaces.together_ofCliques cliques
  simp only [components_ofCliques]
  refine ⟨run_ends _, ?_, fun key => ?_, fun component hcomponent => ?_, htogether, ?_,
    fun cliques' hperm => (KeySpaces.ofCliques_perm hperm).symm, trivial⟩
  · refine List.nodup_flatten.mpr ⟨fun component hcomponent => ?_, hcanonical.disjoint⟩
    exact List.Pairwise.imp (fun hlt => ne_of_lt hlt) (hcanonical.ascending component hcomponent)
  · rw [List.mem_flatten]
    constructor
    · rintro ⟨component, hcomponent, hkey⟩
      exact exists_clique_of_chain ((htogether key key).mp ⟨component, hcomponent, hkey, hkey⟩)
    · rintro ⟨clique, hclique, hkey⟩
      obtain ⟨component, hcomponent, hmem, -⟩ :=
        (htogether key key).mpr (.single ⟨clique, hclique, hkey, hkey⟩)
      exact ⟨component, hcomponent, hmem⟩
  · exact ⟨hcanonical.ne_nil component hcomponent, hcanonical.ascending component hcomponent⟩
  · refine hcanonical.ordered.imp_of_mem fun {component later} hcomponent hlater hlt => ?_
    refine ⟨component.headD "", KeySpaces.headD_mem (hcanonical.ne_nil component hcomponent), ?_⟩
    intro other hother
    exact lt_of_lt_of_le hlt (headD_le (hcanonical.ascending later hlater) hother)

/-- A key may be given again, and one clique may link what others left apart, whichever comes first.
-/
theorem components_partition_relinked :
    (ofCliques [["c", "a", "c"], ["d", "b"], [], ["e"], ["b", "a"]]).components =
      [["a", "b", "c", "d"], ["e"]] ∧
    (ofCliques [["b", "a"], ["e"], [], ["d", "b"], ["c", "a", "c"]]).components =
      [["a", "b", "c", "d"], ["e"]] := by
  obtain ⟨-, -, -, -, -, -, hperm, hspaces⟩ :=
    components_partition [["c", "a", "c"], ["d", "b"], [], ["e"], ["b", "a"]]
  have hfirst := hspaces.trans
    (by decide : KeySpaces.ofCliques _ = [["a", "b", "c", "d"], ["e"]])
  exact ⟨hfirst, (hperm _ (by decide)).trans hfirst⟩

end ProfileQuery.Plan.KeyGraph
