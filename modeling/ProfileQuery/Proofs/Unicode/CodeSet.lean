import Mathlib.Data.List.Sort
import ProfileQuery.Unicode.Letter

/-!
# Members of sets of code points

The runs of a set that is put together from others are in order and lie apart (`Apart`), which is
what the search by halving relies on: it finds a code point exactly when one of the runs holds it.
-/

namespace ProfileQuery.Unicode

/-- Whether a code point lies in a run. -/
def Run.Holds (run : Run) (n : Nat) : Prop := run.1 ≤ n ∧ n ≤ run.2

namespace CodeSet

variable {runs : List Run} {run : Run} {n : Nat}

/-- In ascending order, and each ends before the later ones start. -/
def Apart (runs : List Run) : Prop := runs.Pairwise fun a b => a.1 ≤ b.1 ∧ a.2 < b.1

/-! ## The search -/

theorem search_step {runs : Array Run} {low high first last : Nat} (hlt : low < high)
    (hmiddle : runs[(low + high) / 2]? = some (first, last)) : search runs n low high =
      if n < first then search runs n low ((low + high) / 2)
      else if last < n then search runs n ((low + high) / 2 + 1) high else true := by
  rw [search, if_pos hlt]
  simp only [hmiddle]

theorem search_iff {runs : Array Run} (apart : Apart runs.toList) (n low high : Nat)
    (hhigh : high ≤ runs.size) :
    search runs n low high = true ↔
      ∃ i run, low ≤ i ∧ i < high ∧ runs[i]? = some run ∧ run.Holds n := by
  have ordered : ∀ {i j : Nat} {run other : Run}, runs[i]? = some run → runs[j]? = some other → i < j →
      run.1 ≤ other.1 ∧ run.2 < other.1 := by
    intro i j run other hi hj hlt
    obtain ⟨hilt, rfl⟩ := Array.getElem?_eq_some_iff.mp hi
    obtain ⟨hjlt, rfl⟩ := Array.getElem?_eq_some_iff.mp hj
    exact List.pairwise_iff_getElem.mp apart i j hilt hjlt hlt
  induction low, high using search.induct runs n with
  | case1 low high hlt middle hnone =>
    have hmiddle := Array.getElem?_eq_none_iff.mp hnone
    omega
  | case2 low high hlt middle first last hmiddle hbefore ih =>
    rw [search_step hlt hmiddle, if_pos hbefore]
    refine (ih (by omega)).trans ?_
    constructor
    · rintro ⟨i, run, hlow, hi, hrun, hholds⟩
      exact ⟨i, run, hlow, by omega, hrun, hholds⟩
    · rintro ⟨i, run, hlow, hi, hrun, hholds⟩
      refine ⟨i, run, hlow, ?_, hrun, hholds⟩
      -- The run in the middle and those behind it start after the code point.
      by_contra hge
      rcases Nat.eq_or_lt_of_le (Nat.le_of_not_lt hge) with heq | hgt
      · obtain rfl : (first, last) = run := by simpa [← heq, hmiddle] using hrun
        exact absurd hholds.1 (Nat.not_le_of_lt hbefore)
      · have h := (ordered hmiddle hrun hgt).1
        exact absurd hholds.1 (Nat.not_le_of_lt (Nat.lt_of_lt_of_le hbefore h))
  | case3 low high hlt middle first last hmiddle hbefore hafter ih =>
    rw [search_step hlt hmiddle, if_neg hbefore, if_pos hafter]
    refine (ih hhigh).trans ?_
    constructor
    · rintro ⟨i, run, hlow, hi, hrun, hholds⟩
      exact ⟨i, run, by omega, hi, hrun, hholds⟩
    · rintro ⟨i, run, hlow, hi, hrun, hholds⟩
      refine ⟨i, run, ?_, hi, hrun, hholds⟩
      -- The run in the middle and those in front of it end before the code point.
      by_contra hle
      rcases Nat.eq_or_lt_of_le (Nat.le_of_lt_succ (Nat.lt_of_not_le hle)) with rfl | hgt
      · obtain rfl : (first, last) = run := by simpa [hmiddle] using hrun
        exact absurd hholds.2 (Nat.not_le_of_lt hafter)
      · have h := (ordered hrun hmiddle hgt).2
        have hend := hholds.2
        simp only at h
        omega
  | case4 low high hlt middle first last hmiddle hbefore hafter =>
    rw [search_step hlt hmiddle, if_neg hbefore, if_neg hafter]
    simp only [true_iff]
    exact ⟨middle, (first, last), by omega, by omega, hmiddle, by omega, by omega⟩
  | case5 low high hge =>
    unfold search
    rw [if_neg hge]
    simp only [Bool.false_eq_true, false_iff]
    rintro ⟨i, run, hlow, hi, -⟩
    omega

/-- The search finds exactly the code points that some run holds. -/
theorem contains_iff {set : CodeSet} (apart : Apart set.runs.toList) :
    set.contains n = true ↔ ∃ run ∈ set.runs.toList, run.Holds n := by
  rw [contains, search_iff apart n 0 set.runs.size le_rfl]
  constructor
  · rintro ⟨i, run, -, -, hrun, hholds⟩
    exact ⟨run, Array.mem_toList_iff.mpr (Array.mem_of_getElem? hrun), hholds⟩
  · rintro ⟨run, hmem, hholds⟩
    obtain ⟨i, hi, hrun⟩ := Array.mem_iff_getElem.mp (Array.mem_toList_iff.mp hmem)
    exact ⟨i, run, Nat.zero_le i, hi, by rw [Array.getElem?_eq_getElem hi, hrun], hholds⟩

/-! ## Adding runs in order -/

/-- What adding a run keeps, and what it adds, when no run starts after it. -/
structure Added (before after : List Run) (run : Run) : Prop where
  apart : Apart after
  starts : ∀ a ∈ after, a.1 ≤ run.1
  holds : ∀ n, (∃ a ∈ after, a.Holds n) ↔ (∃ a ∈ before, a.Holds n) ∨ run.Holds n

theorem added_addRun {acc : Array Run} (apart : Apart acc.toList)
    (starts : ∀ a ∈ acc.toList, a.1 ≤ run.1) : Added acc.toList (addRun acc run).toList run := by
  obtain ⟨acc⟩ := acc
  rcases List.eq_nil_or_concat' acc with rfl | ⟨front, ⟨first, last⟩, rfl⟩
  · exact ⟨List.pairwise_singleton _ _, by simp [addRun], by simp [addRun]⟩
  · obtain ⟨hfront, -, hlast⟩ := List.pairwise_append.mp apart
    have hstart : first ≤ run.1 := starts (first, last) (by simp)
    have hends : ∀ a ∈ front, a.1 ≤ first ∧ a.2 < first := fun a ha =>
      hlast a ha _ List.mem_cons_self
    by_cases htouch : run.1 ≤ last + 1
    · have hadd : (addRun ⟨front ++ [(first, last)]⟩ run).toList =
          front ++ [(first, max last run.2)] := by
        simp [addRun, htouch]
      rw [hadd]
      refine ⟨List.pairwise_append.mpr ⟨hfront, List.pairwise_singleton _ _, ?_⟩, ?_, ?_⟩
      · intro a ha b hb
        obtain rfl := List.mem_singleton.mp hb
        exact hends a ha
      · intro a ha
        rcases List.mem_append.mp ha with hmem | hmem
        · exact (hends a hmem).1.trans hstart
        · obtain rfl := List.mem_singleton.mp hmem
          exact hstart
      · -- The two runs touch or overlap, so that the longer one holds what either of them holds.
        intro m
        simp only [List.mem_append, List.mem_singleton, or_and_right, exists_or, exists_eq_left,
          Run.Holds, or_assoc]
        refine or_congr_right ?_
        omega
    · have hadd : (addRun ⟨front ++ [(first, last)]⟩ run).toList =
          front ++ [(first, last)] ++ [run] := by
        simp [addRun, htouch]
      rw [hadd]
      refine ⟨List.pairwise_append.mpr ⟨apart, List.pairwise_singleton _ _, ?_⟩, ?_, ?_⟩
      · intro a ha b hb
        obtain rfl := List.mem_singleton.mp hb
        refine ⟨starts a ha, ?_⟩
        rcases List.mem_append.mp ha with hmem | hmem
        · exact (hends a hmem).2.trans_le hstart
        · obtain rfl := List.mem_singleton.mp hmem
          simp only
          omega
      · intro a ha
        rcases List.mem_append.mp ha with hmem | hmem
        · exact starts a hmem
        · obtain rfl := List.mem_singleton.mp hmem
          exact le_rfl
      · intro m
        simp only [List.mem_append, List.mem_singleton, or_and_right, exists_or, exists_eq_left]

theorem foldl_addRun (sorted : runs.Pairwise fun a b => a.1 ≤ b.1) {acc : Array Run}
    (apart : Apart acc.toList) (starts : ∀ a ∈ acc.toList, ∀ run ∈ runs, a.1 ≤ run.1) :
    Apart (runs.foldl addRun acc).toList ∧
      ∀ n, (∃ run ∈ (runs.foldl addRun acc).toList, run.Holds n) ↔
        (∃ run ∈ acc.toList, run.Holds n) ∨ ∃ run ∈ runs, run.Holds n := by
  induction runs generalizing acc with
  | nil => exact ⟨apart, by simp⟩
  | cons run runs ih =>
    obtain ⟨hfirst, hsorted⟩ := List.pairwise_cons.mp sorted
    have added := added_addRun apart fun a ha => starts a ha run List.mem_cons_self
    obtain ⟨hapart, hholds⟩ := ih hsorted added.apart fun a ha other hother =>
      (added.starts a ha).trans (hfirst other hother)
    refine ⟨hapart, fun n => ?_⟩
    rw [List.foldl_cons, hholds, added.holds, or_assoc, List.exists_mem_cons_iff]

/-- A set made of runs in any order holds what the runs hold. -/
theorem contains_ofRuns : (ofRuns runs).contains n = true ↔ ∃ run ∈ runs, run.Holds n := by
  have hperm := List.mergeSort_perm runs fun a b => decide (a.1 ≤ b.1)
  have hsorted : (runs.mergeSort fun a b => decide (a.1 ≤ b.1)).Pairwise fun a b => a.1 ≤ b.1 := by
    refine (List.pairwise_mergeSort ?_ ?_ runs).imp fun h => of_decide_eq_true h
    · intro a b c hab hbc
      exact decide_eq_true ((of_decide_eq_true hab).trans (of_decide_eq_true hbc))
    · intro a b
      simpa using Nat.le_total a.1 b.1
  have hstart : Apart (#[] : Array Run).toList := List.Pairwise.nil
  obtain ⟨apart, hholds⟩ := foldl_addRun hsorted hstart (by simp)
  refine (contains_iff apart).trans ((hholds n).trans ?_)
  simp only [List.not_mem_nil, false_and, exists_false, false_or, hperm.mem_iff]

/-- The union of several sets holds what a run of any of them holds. -/
theorem contains_unionAll {sets : List CodeSet} : (unionAll sets).contains n = true ↔
    ∃ set ∈ sets, ∃ run ∈ set.runs.toList, run.Holds n := by
  rw [unionAll, contains_ofRuns]
  simp only [List.mem_flatMap]
  constructor
  · rintro ⟨run, ⟨set, hset, hrun⟩, hholds⟩
    exact ⟨set, hset, run, hrun, hholds⟩
  · rintro ⟨set, hset, run, hrun, hholds⟩
    exact ⟨run, ⟨set, hset, hrun⟩, hholds⟩

end CodeSet

/-- A word character is one that a run of one of the classes holds. -/
theorem isWord_iff {c : Char} : isWord c = true ↔
    ∃ set ∈ alphabetic :: decimalNumber :: joinControl ::
      ["mn", "mc", "me", "pc"].map (namedSet categories),
      ∃ run ∈ set.runs.toList, run.Holds c.toNat :=
  CodeSet.contains_unionAll

/-- The underscore connects the parts of words. -/
theorem isWord_underscore : isWord '_' = true := by
  refine isWord_iff.mpr ⟨namedSet categories "pc", by simp, (95, 95), ?_, le_rfl, le_rfl⟩
  decide +kernel

end ProfileQuery.Unicode
