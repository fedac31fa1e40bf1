import Mathlib
import ProfileQuery.Proofs.Plan.KeyGraph

/-!
# What a search for pivots finds

A search adds pivots one after another (`Search`). Each is the first relation that has keys in two
components of the keys connected so far, and it lowers their number, so a search ends. Main
statement: it ends with one component at most, or where no relation bridges the components that are
left (`pivotRelations_spec`).
-/

namespace ProfileQuery.Plan

/-- Whether a search may add the relation of an entry to some relations: it is a further one, has
more than one key, and has keys in two components. -/
structure Candidate (map : KeyMap) (relations : List String) (entry : String × List String) :
    Prop where
  notMem : entry.1 ∉ relations
  one_lt : 1 < entry.2.length
  bridges : map.Bridges relations entry.2

/-- The pivots that a search has added at some point: as long as there are two components, the first
candidate is added. -/
inductive Search (map : KeyMap) (relations : List String) : List String → Prop
  | start : Search map relations []
  | add {added : List String} {before after : KeyMap} {entry : String × List String} :
      Search map relations added → 1 < map.components (relations ++ added) →
      map = before ++ entry :: after → Candidate map (relations ++ added) entry →
      (∀ earlier ∈ before, ¬ Candidate map (relations ++ added) earlier) →
      Search map relations (added ++ [entry.1])

/-- Whether a search has got nowhere: there are two components, and no candidate. -/
structure Stuck (map : KeyMap) (relations : List String) : Prop where
  apart : 1 < map.components relations
  none_left : ∀ entry ∈ map, ¬ Candidate map relations entry

variable {map : KeyMap} {relations added pivots : List String} {entry : String × List String}

theorem candidate_iff : Candidate map relations entry ↔
    entry.1 ∉ relations ∧ 1 < entry.2.length ∧ (map.spaces relations).bridgedBy entry.2 = true :=
  ⟨fun h => ⟨h.notMem, h.one_lt, KeyMap.bridges_iff.mp h.bridges⟩,
    fun ⟨hnot, hmany, hbridged⟩ => ⟨hnot, hmany, KeyMap.bridges_iff.mpr hbridged⟩⟩

/-- Every relation of the map that bridges components is a candidate. -/
theorem candidate_of_bridges (hmap : (map.map (·.1)).Nodup) (hentry : entry ∈ map)
    (h : map.Bridges relations entry.2) : Candidate map relations entry where
  notMem hmem := KeyMap.not_bridges_of_mem (KeyMap.keys?_of_mem hmap hentry) hmem h
  one_lt := h.one_lt_length
  bridges := h

/-! ## Steps -/

/-- What is added are further relations of the map with more than one key. -/
theorem Search.of_mem (h : Search map relations added) : ∀ name ∈ added,
    name ∉ relations ∧ ∃ keys, (name, keys) ∈ map ∧ 1 < keys.length := by
  induction h with
  | start => simp
  | @add added before after entry _ _ hmap hcandidate _ ih =>
    intro name hname
    rcases List.mem_append.mp hname with hold | hnew
    · exact ih name hold
    · obtain rfl := List.mem_singleton.mp hnew
      refine ⟨fun hmem => hcandidate.notMem (List.mem_append_left _ hmem), entry.2, ?_,
        hcandidate.one_lt⟩
      rw [hmap]
      simp

theorem Search.nodup (h : Search map relations added) : added.Nodup := by
  induction h with
  | start => exact List.nodup_nil
  | @add added before after entry _ _ _ hcandidate _ ih =>
    refine List.nodup_append.mpr ⟨ih, List.nodup_singleton _, ?_⟩
    rintro name hname other hother rfl
    obtain rfl := List.mem_singleton.mp hother
    exact hcandidate.notMem (List.mem_append_right _ hname)

/-- Each pivot lowers the number of components. -/
theorem Search.length_add_components_le (hmap : (map.map (·.1)).Nodup)
    (h : Search map relations added) :
    added.length + map.components (relations ++ added) ≤ map.components relations := by
  induction h with
  | start => simp
  | @add added before after entry _ _ heq hcandidate _ ih =>
    have hentry : entry ∈ map := by simp [heq]
    have hlt := KeyMap.components_concat_lt (KeyMap.keys?_of_mem hmap hentry) hcandidate.bridges
    rw [← List.append_assoc, List.length_append, List.length_singleton]
    omega

/-- A search adds fewer pivots than there are components to connect. -/
theorem Search.length_le (hmap : (map.map (·.1)).Nodup) (h : Search map relations added) :
    added.length ≤ map.components relations - 1 := by
  cases h with
  | start => exact Nat.zero_le _
  | @add added before after entry hsearch hapart _ _ _ =>
    -- in front of the last step two components were left
    have hle := hsearch.length_add_components_le hmap
    rw [List.length_append, List.length_singleton]
    omega

/-! ## Runs -/

/-- What is left of the candidates once one of them has been added. -/
theorem erase_candidates (hmap : (map.map (·.1)).Nodup)
    (hentry : entry ∈ map.filter (·.1 ∉ relations)) :
    (map.filter (·.1 ∉ relations)).erase entry = map.filter (·.1 ∉ relations ++ [entry.1]) := by
  have hnodup : (map.filter (·.1 ∉ relations)).Nodup := (List.Nodup.of_map _ hmap).filter _
  rw [hnodup.erase_eq_filter, List.filter_filter]
  refine List.filter_congr fun other hother => ?_
  have hname : other.1 = entry.1 ↔ other = entry :=
    ⟨fun h => List.inj_on_of_nodup_map hmap hother (List.mem_of_mem_filter hentry) h,
      fun h => h ▸ rfl⟩
  rw [Bool.eq_iff_iff]
  simp [hname, and_comm]

/-- The first candidate that is found is the next pivot. -/
theorem Search.add_found (h : Search map relations added)
    (hapart : 1 < map.components (relations ++ added))
    (hfind : (map.filter (·.1 ∉ relations ++ added)).find? (fun c =>
      1 < c.2.length && (map.spaces (relations ++ added)).bridgedBy c.2) = some entry) :
    Search map relations (added ++ [entry.1]) := by
  have hiff : ∀ other : String × List String, (decide (other.1 ∉ relations ++ added) = true ∧
      (1 < other.2.length && (map.spaces (relations ++ added)).bridgedBy other.2) = true) ↔
      Candidate map (relations ++ added) other := fun other => by
    rw [candidate_iff]
    simp
  rw [List.find?_filter, List.find?_eq_some_iff_append] at hfind
  obtain ⟨hentry, before, after, heq, hbefore⟩ := hfind
  refine h.add hapart heq ((hiff entry).mp (of_decide_eq_true hentry)) fun earlier hearlier
    hcontra => ?_
  have hno := hbefore earlier hearlier
  rw [decide_eq_true ((hiff earlier).mpr hcontra)] at hno
  cases hno

/-- From any point on, a search goes on until there is one component at most or it is stuck. -/
theorem Search.outcome (hmap : (map.map (·.1)).Nodup) (h : Search map relations added) :
    ∃ later, Search map relations (added ++ later) ∧
      match searchPivots (map.spaces (relations ++ added))
          (map.filter (·.1 ∉ relations ++ added)) with
      | some found => found = later ∧ map.components (relations ++ (added ++ later)) ≤ 1
      | none => Stuck map (relations ++ (added ++ later)) := by
  generalize hspaces : map.spaces (relations ++ added) = spaces
  generalize hcandidates : map.filter (·.1 ∉ relations ++ added) = candidates
  fun_induction searchPivots spaces candidates generalizing added with
  | case1 spaces candidates hone =>
    refine ⟨[], by simpa using h, rfl, ?_⟩
    rw [List.append_nil, KeyMap.components_eq_length, hspaces]
    exact hone
  | case2 spaces candidates hmany hnone =>
    refine ⟨[], by simpa using h, ?_, fun entry hentry hcandidate => ?_⟩
    · rw [List.append_nil, KeyMap.components_eq_length, hspaces]
      omega
    · rw [List.append_nil, candidate_iff, hspaces] at hcandidate
      obtain ⟨hnot, hlength, hbridged⟩ := hcandidate
      have hmem : entry ∈ candidates := by
        rw [← hcandidates]
        exact List.mem_filter.mpr ⟨hentry, by simpa using hnot⟩
      have hno := List.find?_eq_none.mp hnone entry hmem
      simp [hlength, hbridged] at hno
  | case3 spaces candidates hmany pivot hfind ih =>
    subst hcandidates hspaces
    have hapart : 1 < map.components (relations ++ added) := by
      rw [KeyMap.components_eq_length]
      omega
    have hmem := List.mem_of_find?_eq_some hfind
    have hkeys := KeyMap.keys?_of_mem hmap (List.mem_of_mem_filter hmem)
    obtain ⟨later, hsearch, hrest⟩ := ih (h.add_found hapart hfind)
      (by rw [← List.append_assoc, KeyMap.spaces_concat hkeys])
      (by rw [← List.append_assoc, erase_candidates hmap hmem])
    refine ⟨pivot.1 :: later, by simpa using hsearch, ?_⟩
    cases hfound : searchPivots ((map.spaces (relations ++ added)).connect pivot.2)
        ((map.filter (·.1 ∉ relations ++ added)).erase pivot) with
    | none =>
      rw [hfound] at hrest
      simpa using hrest
    | some found =>
      rw [hfound] at hrest
      obtain ⟨rfl, hone⟩ := hrest
      exact ⟨rfl, by simpa using hone⟩

/-! ## The end of a search -/

/-- What a search has added last was the first candidate in front of it. -/
theorem Search.of_append_cons {name : String} {later : List String}
    (h : Search map relations (added ++ name :: later)) :
    1 < map.components (relations ++ added) ∧ ∃ before entry after,
      map = before ++ entry :: after ∧ entry.1 = name ∧
      Candidate map (relations ++ added) entry ∧
      ∀ earlier ∈ before, ¬ Candidate map (relations ++ added) earlier := by
  induction later using List.reverseRecOn with
  | nil =>
    generalize hnames : added ++ [name] = names at h
    cases h with
    | start => simp at hnames
    | @add added' before after entry _ hapart heq hcandidate hfirst =>
      obtain ⟨rfl, hname⟩ := List.append_inj' hnames rfl
      exact ⟨hapart, before, entry, after, heq, (List.singleton_inj.mp hname).symm, hcandidate,
        hfirst⟩
  | append_singleton later last ih =>
    generalize hnames : added ++ name :: (later ++ [last]) = names at h
    cases h with
    | start => simp at hnames
    | @add added' before after entry hsearch _ _ _ _ =>
      rw [← List.cons_append, ← List.append_assoc] at hnames
      obtain ⟨rfl, -⟩ := List.append_inj' hnames rfl
      exact ih hsearch

/-- There is one search only: of two points of it one lies in front of the other. -/
theorem Search.comparable {others : List String} (h : Search map relations added)
    (h' : Search map relations others) : added <+: others ∨ others <+: added := by
  induction h with
  | start => exact .inl (List.nil_prefix)
  | @add added before after entry _ _ heq hcandidate hfirst ih =>
    rcases ih with ⟨rest, rfl⟩ | hbehind
    · cases rest with
      | nil => exact .inr (by simp)
      | cons name rest =>
        obtain ⟨-, before', entry', after', heq', rfl, hcandidate', hfirst'⟩ := h'.of_append_cons
        -- the first candidate of the map is the same
        classical
        have found : ∀ {before after : KeyMap} {entry : String × List String},
            map = before ++ entry :: after → Candidate map (relations ++ added) entry →
            (∀ earlier ∈ before, ¬ Candidate map (relations ++ added) earlier) →
            map.find? (fun c => Candidate map (relations ++ added) c) = some entry := by
          intro before after entry heq hcandidate hfirst
          exact List.find?_eq_some_iff_append.mpr ⟨by simpa using hcandidate, before, after, heq,
            by simpa using hfirst⟩
        obtain rfl := Option.some.inj
          ((found heq hcandidate hfirst).symm.trans (found heq' hcandidate' hfirst'))
        exact .inl ⟨rest, by simp⟩
    · exact .inr (hbehind.trans (List.prefix_append _ _))

/-- Where a search has ended it has been everywhere. -/
theorem Search.prefix_of_ended {others : List String} (h : Search map relations added)
    (hended : map.components (relations ++ added) ≤ 1 ∨ Stuck map (relations ++ added))
    (h' : Search map relations others) : others <+: added := by
  rcases h'.comparable h with hfront | ⟨rest, rfl⟩
  · exact hfront
  · cases rest with
    | nil => simp
    | cons name rest =>
      obtain ⟨hapart, before, entry, after, heq, -, hcandidate, -⟩ := h'.of_append_cons
      rcases hended with hone | hstuck
      · omega
      · exact absurd hcandidate (hstuck.none_left entry (by simp [heq]))

/-- The pivots of some relations are those of the search, where it ends with one component at most;
where it is stuck there are none. -/
theorem pivotRelations_outcome (hmap : (map.map (·.1)).Nodup) (relations : List String) :
    ∃ pivots, Search map relations pivots ∧
      ((pivotRelations relations map = .ok pivots ∧ map.components (relations ++ pivots) ≤ 1) ∨
        (pivotRelations relations map = .error (.noPivotRelation (Names.sort relations)) ∧
          Stuck map (relations ++ pivots))) := by
  obtain ⟨pivots, hsearch, hend⟩ := (Search.start : Search map relations []).outcome hmap
  simp only [List.append_nil, List.nil_append] at hsearch hend
  refine ⟨pivots, hsearch, ?_⟩
  rw [pivotRelations]
  cases hfound : searchPivots (map.spaces relations) (map.filter (·.1 ∉ relations)) with
  | none =>
    rw [hfound] at hend
    exact .inr ⟨rfl, hend⟩
  | some found =>
    rw [hfound] at hend
    obtain ⟨rfl, hone⟩ := hend
    exact .inl ⟨rfl, hone⟩

/-- A search for pivots ends, and before it has added as many pivots as there are components. The
pivots are distinct further relations with more than one key. Either they leave one component at
most, and are returned, or they leave two, and no relation has keys in two of those that are left. -/
theorem pivotRelations_spec (hmap : (map.map (·.1)).Nodup) (relations : List String) :
    ∃ pivots, Search map relations pivots ∧
      (∀ added, Search map relations added → added <+: pivots) ∧
      pivots.length ≤ map.components relations - 1 ∧
      pivots.Nodup ∧
      (∀ name ∈ pivots, name ∉ relations ∧
        ∃ keys, map.keys? name = some keys ∧ 1 < keys.length) ∧
      ((pivotRelations relations map = .ok pivots ∧ map.components (relations ++ pivots) ≤ 1) ∨
        (pivotRelations relations map = .error (.noPivotRelation (Names.sort relations)) ∧
          2 ≤ map.components (relations ++ pivots) ∧
          ∀ entry ∈ map, ¬ map.Bridges (relations ++ pivots) entry.2)) := by
  obtain ⟨pivots, hsearch, hend⟩ := pivotRelations_outcome hmap relations
  refine ⟨pivots, hsearch, fun added hadded => hsearch.prefix_of_ended ?_ hadded,
    hsearch.length_le hmap, hsearch.nodup, fun name hname => ?_, ?_⟩
  · exact hend.imp And.right And.right
  · obtain ⟨hnot, keys, hkeys, hmany⟩ := hsearch.of_mem name hname
    exact ⟨hnot, keys, KeyMap.keys?_of_mem hmap hkeys, hmany⟩
  · refine hend.imp_right fun ⟨herror, hstuck⟩ => ⟨herror, hstuck.apart, fun entry hentry h => ?_⟩
    exact hstuck.none_left entry hentry (candidate_of_bridges hmap hentry h)

/-- A chain of four relations, and one apart from them. -/
def chain : KeyMap :=
  [("p", ["a"]), ("q", ["a", "b"]), ("r", ["b", "c"]), ("s", ["c"]), ("t", ["z"])]

/-- One relation bridges the keys of `p` and `r`; between `p` and `s` no relation does alone, so
that nothing is found, though two together would. -/
theorem pivotRelations_spec_chain : (chain.map (·.1)).Nodup ∧
    pivotRelations ["p", "r"] chain = .ok ["q"] ∧ chain.components ["p", "r", "q"] ≤ 1 ∧
    pivotRelations ["p", "s"] chain = .error (.noPivotRelation ["p", "s"]) ∧
    ∃ pivots, pivots.length ≤ chain.components ["p", "s"] - 1 ∧
      2 ≤ chain.components (["p", "s"] ++ pivots) := by
  have hmap : (chain.map (·.1)).Nodup := by decide
  have hfound : pivotRelations ["p", "r"] chain = .ok ["q"] := by cbv
  have hfails : pivotRelations ["p", "s"] chain = .error (.noPivotRelation ["p", "s"]) := by cbv
  obtain ⟨pivots, -, -, -, -, -, ⟨hok, hone⟩ | ⟨herror, -⟩⟩ := pivotRelations_spec hmap ["p", "r"]
  · obtain ⟨added, -, -, hlength, -, -, ⟨hok', -⟩ | ⟨-, hapart, -⟩⟩ :=
      pivotRelations_spec hmap ["p", "s"]
    · cases hfails.symm.trans hok'
    · obtain rfl := Except.ok.inj (hfound.symm.trans hok)
      exact ⟨hmap, hfound, hone, hfails, added, hlength, hapart⟩
  · cases hfound.symm.trans herror

end ProfileQuery.Plan
