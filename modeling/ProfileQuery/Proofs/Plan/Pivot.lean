import Mathlib.Data.List.Nodup
import ProfileQuery.Plan.Pivot
import ProfileQuery.Proofs.Plan.KeySpace

/-!
# Pivots

The pivots that a search finds are distinct candidates, and which ones are found does not depend on
the order of the relations that they connect.
-/

namespace ProfileQuery.Plan

theorem nodup_keyMap (s : Schema) : ((keyMap s).map (·.1)).Nodup := by
  simpa [keyMap, Function.comp_def] using s.relations_nodup

/-- Every pivot that is found is a candidate with more than one key. -/
theorem mem_of_searchPivots {spaces : KeySpaces} {candidates : KeyMap} {pivots : List String}
    (h : searchPivots spaces candidates = some pivots) :
    ∀ name ∈ pivots, ∃ keys, (name, keys) ∈ candidates ∧ 1 < keys.length := by
  revert pivots
  fun_induction searchPivots spaces candidates with
  | case1 => simp
  | case2 => simp
  | case3 spaces candidates _ pivot hfind =>
    rename_i ih
    intro pivots h name hname
    obtain ⟨later, hlater, rfl⟩ := Option.map_eq_some_iff.mp h
    have hmem := List.mem_of_find?_eq_some hfind
    rcases List.mem_cons.mp hname with rfl | hrest
    · have hpivot := List.find?_some hfind
      simp only [Bool.and_eq_true, decide_eq_true_eq] at hpivot
      exact ⟨pivot.2, hmem, hpivot.1⟩
    · obtain ⟨keys, hkeys, hmany⟩ := ih hlater name hrest
      exact ⟨keys, List.mem_of_mem_erase hkeys, hmany⟩

/-- No pivot is found twice. -/
theorem nodup_of_searchPivots {spaces : KeySpaces} {candidates : KeyMap} {pivots : List String}
    (hnodup : (candidates.map (·.1)).Nodup) (h : searchPivots spaces candidates = some pivots) :
    pivots.Nodup := by
  revert pivots hnodup
  fun_induction searchPivots spaces candidates with
  | case1 => simp
  | case2 => simp
  | case3 spaces candidates _ pivot hfind =>
    rename_i ih
    intro pivots hnodup h
    obtain ⟨later, hlater, rfl⟩ := Option.map_eq_some_iff.mp h
    refine List.nodup_cons.mpr ⟨fun hmem => ?_, ih ?_ hlater⟩
    · obtain ⟨keys, hkeys, -⟩ := mem_of_searchPivots hlater _ hmem
      obtain ⟨hne, hin⟩ := (List.Nodup.mem_erase_iff (List.Nodup.of_map _ hnodup)).mp hkeys
      exact hne (List.inj_on_of_nodup_map hnodup hin (List.mem_of_find?_eq_some hfind) rfl)
    · exact hnodup.sublist (List.erase_sublist.map _)

variable {s : Schema} {relations pivots : List String}

/-- The pivots of some relations are other known relations, and all are distinct. -/
theorem nodup_append_pivots (hnodup : relations.Nodup)
    (h : pivotRelations relations (keyMap s) = .ok pivots) :
    (relations ++ pivots).Nodup ∧ ∀ name ∈ pivots, ∃ r, s.relation? name = some r := by
  unfold pivotRelations at h
  split at h
  · next hsearch =>
    obtain rfl := Except.ok.inj h
    have hfilter : (((keyMap s).filter (·.1 ∉ relations)).map (·.1)).Nodup :=
      (nodup_keyMap s).sublist (List.filter_sublist.map _)
    refine ⟨List.nodup_append.mpr ⟨hnodup, nodup_of_searchPivots hfilter hsearch, ?_⟩, ?_⟩
    · rintro relation hrelation name hname rfl
      obtain ⟨keys, hkeys, -⟩ := mem_of_searchPivots hsearch _ hname
      simpa [hrelation] using List.of_mem_filter hkeys
    · intro name hname
      obtain ⟨keys, hkeys, -⟩ := mem_of_searchPivots hsearch _ hname
      obtain ⟨r, hr, heq⟩ := List.mem_map.mp (List.mem_of_mem_filter hkeys)
      have hname : r.name = name := congrArg Prod.fst heq
      exact Option.isSome_iff_exists.mp
        (by simpa [Schema.relation?] using ⟨r, hr, hname⟩)
  · cases h

theorem KeyMap.spaces_perm {map : KeyMap} {relations relations' : List String}
    (h : relations.Perm relations') : map.spaces relations = map.spaces relations' :=
  KeySpaces.ofCliques_perm (h.filterMap _)

/-- The order of the relations does not count for their pivots, nor for how the search fails. -/
theorem pivotRelations_perm {map : KeyMap} {relations relations' : List String}
    (h : relations.Perm relations') :
    pivotRelations relations map = pivotRelations relations' map := by
  have hcandidates : map.filter (·.1 ∉ relations) = map.filter (·.1 ∉ relations') :=
    List.filter_congr fun entry _ => by simp only [h.mem_iff]
  unfold pivotRelations
  rw [KeyMap.spaces_perm h, hcandidates, Names.sort_perm h]

end ProfileQuery.Plan
