import Mathlib.Data.List.Basic
import ProfileQuery.Query.Shape

/-!
# The language of a shape

`Matches` says of a shape which words it describes. The cuts of a shape are exactly those behind
its words (`mem_cuts_iff`), and text that stands behind a cut has no part in it: the cuts of a text
with more text behind it are, as long as they stay within the former, the same and in the same order
(`cuts_local`).
-/

namespace ProfileQuery.Query

/-- The cut with more text behind it. -/
def Cut.extend (more : List Char) (cut : Cut) : Cut := ⟨cut.taken, cut.rest ++ more⟩

namespace Shape

/-- The words that a shape describes. -/
inductive Matches : Shape → List Char → Prop
  | nothing : Matches nothing []
  | one {p c} : p c = true → Matches (one p) [c]
  | run {p w} : (∀ c ∈ w, p c = true) → Matches (run p) w
  | next {s t u v} : Matches s u → Matches t v → Matches (next s t) (u ++ v)
  | left {s t w} : Matches s w → Matches (either s t) w
  | right {s t w} : Matches t w → Matches (either s t) w
  | done {s} : Matches (many s) []
  | more {s u v} : u ≠ [] → Matches s u → Matches (many s) v → Matches (many s) (u ++ v)

/-! ## Cuts and words -/

/-- The cut of a text behind the word at its front. -/
def IsCut (language : List Char → Prop) (n : Nat) (cs : List Char) (cut : Cut) : Prop :=
  ∃ w rest, cs = w ++ rest ∧ cut = ⟨n + w.length, rest⟩ ∧ language w

theorem runCuts_eq_append (p : Char → Bool) (n : Nat) (found : List Cut) (cs : List Char) :
    runCuts p n found cs = runCuts p n [] cs ++ found := by
  induction cs generalizing n found with
  | nil => rfl
  | cons c cs ih =>
    unfold runCuts
    split
    · rw [ih (n + 1) (⟨n, c :: cs⟩ :: found), ih (n + 1) [⟨n, c :: cs⟩], List.append_assoc]
      rfl
    · rfl

theorem runCuts_cons (p : Char → Bool) (n : Nat) (c : Char) (cs : List Char) :
    runCuts p n [] (c :: cs) =
      if p c then runCuts p (n + 1) [] cs ++ [⟨n, c :: cs⟩] else [⟨n, c :: cs⟩] := by
  rw [runCuts]
  split
  · exact runCuts_eq_append p (n + 1) _ cs
  · rfl

theorem mem_runCuts_iff (p : Char → Bool) (n : Nat) (cs : List Char) (cut : Cut) :
    cut ∈ runCuts p n [] cs ↔ IsCut (fun w => ∀ c ∈ w, p c = true) n cs cut := by
  induction cs generalizing n with
  | nil =>
    constructor
    · intro h
      obtain rfl := List.mem_singleton.mp h
      exact ⟨[], [], rfl, rfl, by simp⟩
    · rintro ⟨w, rest, hcs, rfl, -⟩
      obtain ⟨rfl, rfl⟩ := List.nil_eq_append_iff.mp hcs
      exact List.mem_singleton.mpr rfl
  | cons c cs ih =>
    rw [runCuts_cons]
    constructor
    · intro h
      split at h
      · next hc =>
        rcases List.mem_append.mp h with h | h
        · obtain ⟨w, rest, rfl, rfl, hw⟩ := (ih (n + 1)).mp h
          refine ⟨c :: w, rest, rfl, ?_, by simpa [hc] using hw⟩
          rw [List.length_cons, Nat.add_assoc, Nat.add_comm 1]
        · obtain rfl := List.mem_singleton.mp h
          exact ⟨[], c :: cs, rfl, rfl, by simp⟩
      · obtain rfl := List.mem_singleton.mp h
        exact ⟨[], c :: cs, rfl, rfl, by simp⟩
    · rintro ⟨w, rest, hcs, rfl, hw⟩
      cases w with
      | nil =>
        obtain rfl : c :: cs = rest := hcs
        split <;> simp
      | cons d w =>
        obtain ⟨rfl, rfl⟩ := List.cons.inj hcs
        obtain ⟨hc, hw⟩ := List.forall_mem_cons.mp hw
        rw [if_pos hc]
        refine List.mem_append_left _ ((ih (n + 1)).mpr ⟨w, rest, rfl, ?_, hw⟩)
        rw [List.length_cons, Nat.add_assoc, Nat.add_comm 1]

/-- What the cuts of a step have to do with a language. -/
def Cuts (step : Cut → List Cut) (language : List Char → Prop) : Prop :=
  ∀ n cs cut, cut ∈ step ⟨n, cs⟩ ↔ IsCut language n cs cut

theorem mem_repeatCuts {step : Cut → List Cut} {body : Shape}
    (hstep : Cuts step body.Matches) {limit n : Nat} {cs : List Char} {cut : Cut}
    (h : cut ∈ repeatCuts step limit ⟨n, cs⟩) : IsCut (many body).Matches n cs cut := by
  induction limit generalizing n cs with
  | zero =>
    obtain rfl := List.mem_singleton.mp h
    exact ⟨[], cs, rfl, rfl, .done⟩
  | succ limit ih =>
    rcases List.mem_append.mp h with h | h
    · obtain ⟨mid, hmid, h⟩ := List.mem_flatMap.mp h
      obtain ⟨hmid, hlt⟩ := List.mem_filter.mp hmid
      obtain ⟨u, rest, rfl, rfl, hu⟩ := (hstep n cs mid).mp hmid
      obtain ⟨v, rest', rfl, rfl, hv⟩ := ih h
      have hne : u ≠ [] := by
        rintro rfl
        simp at hlt
      refine ⟨u ++ v, rest', (List.append_assoc ..).symm, ?_, .more hne hu hv⟩
      rw [List.length_append, Nat.add_assoc]
    · obtain rfl := List.mem_singleton.mp h
      exact ⟨[], cs, rfl, rfl, .done⟩

theorem mem_repeatCuts_of_matches {step : Cut → List Cut} {body : Shape}
    (hstep : Cuts step body.Matches) {w : List Char} (hw : (many body).Matches w)
    {limit : Nat} (hlimit : w.length ≤ limit) (n : Nat) (rest : List Char) :
    ⟨n + w.length, rest⟩ ∈ repeatCuts step limit ⟨n, w ++ rest⟩ := by
  generalize hs : many body = s at hw
  -- on the derivation that `w` is a repetition
  induction hw generalizing n limit with
  | done => cases limit <;> simp [repeatCuts]
  | @more s u v hne hu hv _ ih =>
    obtain rfl := Shape.many.inj hs
    have hpos : 0 < u.length := List.length_pos_iff.mpr hne
    rw [List.length_append] at hlimit
    obtain ⟨limit, rfl⟩ : ∃ k, limit = k + 1 := ⟨limit - 1, by omega⟩
    refine List.mem_append_left _ (List.mem_flatMap.mpr ⟨⟨n + u.length, v ++ rest⟩, ?_, ?_⟩)
    · refine List.mem_filter.mpr ⟨?_, by simpa using hpos⟩
      exact (hstep _ _ _).mpr ⟨u, v ++ rest, List.append_assoc .., rfl, hu⟩
    · have hv : v.length ≤ limit := by omega
      have := ih hv (n + u.length) rfl
      rwa [Nat.add_assoc, ← List.length_append] at this
  | _ => cases hs

/-- The cuts of `many` are those of a bounded repetition. -/
theorem cuts_many (body : Shape) (cut : Cut) :
    (many body).cuts cut = repeatCuts body.cuts cut.rest.length cut := by
  rw [cuts]
  split
  · next h => cases cut.rest.length <;> simp [repeatCuts, h]
  · rfl

theorem cuts_nothing : Cuts nothing.cuts nothing.Matches := by
  intro n cs cut
  constructor
  · intro h
    obtain rfl := List.mem_singleton.mp h
    exact ⟨[], cs, rfl, rfl, .nothing⟩
  · rintro ⟨w, rest, rfl, rfl, hw⟩
    cases hw
    exact List.mem_singleton.mpr rfl

theorem cuts_one (p : Char → Bool) : Cuts (one p).cuts (one p).Matches := by
  intro n cs cut
  constructor
  · intro h
    cases cs with
    | nil => cases h
    | cons c cs =>
      simp only [cuts] at h
      split at h
      · next hc =>
        obtain rfl := List.mem_singleton.mp h
        exact ⟨[c], cs, rfl, rfl, .one hc⟩
      · cases h
  · rintro ⟨w, rest, rfl, rfl, hw⟩
    cases hw with
    | one hc => simp [cuts, hc]

theorem cuts_run (p : Char → Bool) : Cuts (run p).cuts (run p).Matches := by
  intro n cs cut
  refine (mem_runCuts_iff p n cs cut).trans ?_
  constructor
  · rintro ⟨w, rest, hcs, hcut, hw⟩
    exact ⟨w, rest, hcs, hcut, .run hw⟩
  · rintro ⟨w, rest, hcs, hcut, hw⟩
    cases hw with
    | run hw => exact ⟨w, rest, hcs, hcut, hw⟩

theorem cuts_next {s t : Shape} (hs : Cuts s.cuts s.Matches) (ht : Cuts t.cuts t.Matches) :
    Cuts (next s t).cuts (next s t).Matches := by
  intro n cs cut
  constructor
  · intro h
    obtain ⟨mid, hmid, h⟩ := List.mem_flatMap.mp h
    obtain ⟨u, rest, rfl, rfl, hu⟩ := (hs n cs mid).mp hmid
    obtain ⟨v, rest', rfl, rfl, hv⟩ := (ht _ _ cut).mp h
    refine ⟨u ++ v, rest', (List.append_assoc ..).symm, ?_, .next hu hv⟩
    rw [List.length_append, Nat.add_assoc]
  · rintro ⟨w, rest, rfl, rfl, hw⟩
    cases hw with
    | @next _ _ u v hu hv =>
      refine List.mem_flatMap.mpr ⟨⟨n + u.length, v ++ rest⟩, ?_, ?_⟩
      · exact (hs _ _ _).mpr ⟨u, v ++ rest, List.append_assoc .., rfl, hu⟩
      · refine (ht _ _ _).mpr ⟨v, rest, rfl, ?_, hv⟩
        rw [List.length_append, Nat.add_assoc]

theorem cuts_either {s t : Shape} (hs : Cuts s.cuts s.Matches) (ht : Cuts t.cuts t.Matches) :
    Cuts (either s t).cuts (either s t).Matches := by
  intro n cs cut
  constructor
  · intro h
    rcases List.mem_append.mp h with h | h
    · obtain ⟨w, rest, hcs, hcut, hw⟩ := (hs n cs cut).mp h
      exact ⟨w, rest, hcs, hcut, .left hw⟩
    · obtain ⟨w, rest, hcs, hcut, hw⟩ := (ht n cs cut).mp h
      exact ⟨w, rest, hcs, hcut, .right hw⟩
  · rintro ⟨w, rest, hcs, hcut, hw⟩
    cases hw with
    | left hw => exact List.mem_append_left _ ((hs n cs cut).mpr ⟨w, rest, hcs, hcut, hw⟩)
    | right hw => exact List.mem_append_right _ ((ht n cs cut).mpr ⟨w, rest, hcs, hcut, hw⟩)

/-- The cuts of a shape are those behind its words. -/
theorem mem_cuts_iff (s : Shape) : Cuts s.cuts s.Matches := by
  induction s with
  | nothing => exact cuts_nothing
  | one p => exact cuts_one p
  | run p => exact cuts_run p
  | next s t ihs iht => exact cuts_next ihs iht
  | either s t ihs iht => exact cuts_either ihs iht
  | many body ih =>
    intro n cs cut
    rw [cuts_many]
    constructor
    · exact mem_repeatCuts ih
    · rintro ⟨w, rest, rfl, rfl, hw⟩
      refine mem_repeatCuts_of_matches ih hw ?_ n rest
      simp

/-- The text that a shape takes is one of its words. -/
theorem matches_of_firstCut {s : Shape} {cs : List Char} {cut : Cut}
    (h : s.firstCut? cs = some cut) :
    ∃ w, cs = w ++ cut.rest ∧ cut.taken = w.length ∧ s.Matches w := by
  obtain ⟨w, rest, hcs, rfl, hw⟩ := (mem_cuts_iff s 0 cs cut).mp (List.mem_of_head? h)
  exact ⟨w, hcs, Nat.zero_add _, hw⟩

/-! ## Words of composite shapes -/

theorem matches_nothing_iff {w : List Char} : nothing.Matches w ↔ w = [] := by
  constructor
  · rintro ⟨⟩
    rfl
  · rintro rfl
    exact .nothing

theorem matches_one_iff {p : Char → Bool} {w : List Char} :
    (one p).Matches w ↔ ∃ c, w = [c] ∧ p c = true := by
  constructor
  · rintro ⟨⟩
    exact ⟨_, rfl, ‹_›⟩
  · rintro ⟨c, rfl, hc⟩
    exact .one hc

theorem matches_run_iff {p : Char → Bool} {w : List Char} :
    (run p).Matches w ↔ ∀ c ∈ w, p c = true := by
  constructor
  · rintro ⟨⟩
    assumption
  · exact .run

theorem matches_next_iff {s t : Shape} {w : List Char} :
    (next s t).Matches w ↔ ∃ u v, w = u ++ v ∧ s.Matches u ∧ t.Matches v := by
  constructor
  · rintro ⟨⟩
    exact ⟨_, _, rfl, ‹_›, ‹_›⟩
  · rintro ⟨u, v, rfl, hu, hv⟩
    exact .next hu hv

theorem matches_either_iff {s t : Shape} {w : List Char} :
    (either s t).Matches w ↔ s.Matches w ∨ t.Matches w := by
  constructor
  · rintro (⟨⟩ | ⟨⟩)
    · exact .inl ‹_›
    · exact .inr ‹_›
  · rintro (h | h)
    · exact .left h
    · exact .right h

theorem matches_optional_iff {s : Shape} {w : List Char} :
    (optional s).Matches w ↔ s.Matches w ∨ w = [] := by
  rw [optional, matches_either_iff, matches_nothing_iff]

theorem matches_char_iff {c : Char} {w : List Char} : (char c).Matches w ↔ w = [c] := by
  rw [char, matches_one_iff]
  constructor
  · rintro ⟨d, rfl, hd⟩
    rw [eq_of_beq hd]
  · rintro rfl
    exact ⟨c, rfl, beq_self_eq_true c⟩

theorem matches_inOrder_cons_iff {s : Shape} {shapes : List Shape} {w : List Char} :
    (inOrder (s :: shapes)).Matches w ↔
      ∃ u v, w = u ++ v ∧ s.Matches u ∧ (inOrder shapes).Matches v :=
  matches_next_iff

theorem matches_inOrder_append_iff {first second : List Shape} {w : List Char} :
    (inOrder (first ++ second)).Matches w ↔
      ∃ u v, w = u ++ v ∧ (inOrder first).Matches u ∧ (inOrder second).Matches v := by
  induction first generalizing w with
  | nil =>
    constructor
    · intro h
      exact ⟨[], w, rfl, .nothing, h⟩
    · rintro ⟨u, v, rfl, hu, hv⟩
      rw [matches_nothing_iff.mp hu]
      exact hv
  | cons s shapes ih =>
    rw [List.cons_append, matches_inOrder_cons_iff]
    constructor
    · rintro ⟨u, v, rfl, hu, hv⟩
      obtain ⟨v, x, rfl, hv, hx⟩ := ih.mp hv
      have huv : (inOrder (s :: shapes)).Matches (u ++ v) :=
        matches_inOrder_cons_iff.mpr ⟨u, v, rfl, hu, hv⟩
      exact ⟨u ++ v, x, (List.append_assoc ..).symm, huv, hx⟩
    · rintro ⟨u, x, rfl, hu, hx⟩
      obtain ⟨u, v, rfl, hu, hv⟩ := matches_inOrder_cons_iff.mp hu
      exact ⟨u, v ++ x, List.append_assoc .., hu, ih.mpr ⟨v, x, rfl, hv, hx⟩⟩

/-! ## Characters of a shape -/

/-- Whether a shape describes the empty word. -/
def nullable : Shape → Bool
  | nothing | run _ | many _ => true
  | one _ => false
  | next s t => s.nullable && t.nullable
  | either s t => s.nullable || t.nullable

/-- Whether a character may start a word of a shape. -/
def starts (c : Char) : Shape → Bool
  | nothing => false
  | one p | run p => p c
  | next s t => s.starts c || (s.nullable && t.starts c)
  | either s t => s.starts c || t.starts c
  | many s => s.starts c

/-- Whether a character may stand in a word of a shape. -/
def uses (c : Char) : Shape → Bool
  | nothing => false
  | one p | run p => p c
  | next s t | either s t => s.uses c || t.uses c
  | many s => s.uses c

theorem Matches.nullable {s : Shape} {w : List Char} (h : s.Matches w) (hw : w = []) :
    s.nullable = true := by
  induction h with
  | one => cases hw
  | nothing | run | done | more => rfl
  | next _ _ ihu ihv =>
    obtain ⟨hu, hv⟩ := List.append_eq_nil_iff.mp hw
    simp [Shape.nullable, ihu hu, ihv hv]
  | left _ ih => simp [Shape.nullable, ih hw]
  | right _ ih => simp [Shape.nullable, ih hw]

theorem Matches.starts {s : Shape} {c : Char} {w : List Char} (h : s.Matches (c :: w)) :
    s.starts c = true := by
  generalize hcw : c :: w = word at h
  induction h generalizing w with
  | nothing | done => cases hcw
  | one hp =>
    obtain ⟨rfl, -⟩ := List.cons.inj hcw
    exact hp
  | run hp => exact hp c (hcw ▸ List.mem_cons_self)
  | @next s t u v hu _ ihu ihv =>
    cases u with
    | nil => simp [Shape.starts, hu.nullable rfl, ihv hcw]
    | cons d u =>
      obtain ⟨rfl, -⟩ := List.cons.inj hcw
      simp [Shape.starts, ihu rfl]
  | left _ ih => simp [Shape.starts, ih hcw]
  | right _ ih => simp [Shape.starts, ih hcw]
  | @more s u v hne _ _ ihu _ =>
    cases u with
    | nil => exact absurd rfl hne
    | cons d u =>
      obtain ⟨rfl, -⟩ := List.cons.inj hcw
      exact ihu rfl

theorem Matches.uses {s : Shape} {w : List Char} (h : s.Matches w) {c : Char} (hc : c ∈ w) :
    s.uses c = true := by
  induction h with
  | nothing | done => cases hc
  | one hp =>
    obtain rfl := List.mem_singleton.mp hc
    exact hp
  | run hp => exact hp c hc
  | next _ _ ihu ihv =>
    rcases List.mem_append.mp hc with hc | hc
    · simp [Shape.uses, ihu hc]
    · simp [Shape.uses, ihv hc]
  | left _ ih => simp [Shape.uses, ih hc]
  | right _ ih => simp [Shape.uses, ih hc]
  | more _ _ _ ihu ihv =>
    rcases List.mem_append.mp hc with hc | hc
    · exact ihu hc
    · exact ihv hc

/-- A character that no word of a shape holds. -/
theorem Matches.not_mem {s : Shape} {w : List Char} (h : s.Matches w) {c : Char}
    (hc : s.uses c = false) : c ∉ w := by
  intro hmem
  rw [h.uses hmem] at hc
  cases hc

/-! ## Text behind a cut -/

/-- A step that sees no further than the text it cuts: with more text behind it the cuts within the
former text are the same. -/
def Local (step : Cut → List Cut) : Prop :=
  ∀ n front more, (step ⟨n, front ++ more⟩).filter (·.taken ≤ n + front.length) =
    (step ⟨n, front⟩).map (Cut.extend more)

theorem IsCut.le_taken {language : List Char → Prop} {n : Nat} {cs : List Char} {cut : Cut}
    (h : IsCut language n cs cut) : n ≤ cut.taken := by
  obtain ⟨w, rest, -, rfl, -⟩ := h
  exact Nat.le_add_right ..

/-- Cuts beyond a bound lead to cuts beyond it only. -/
theorem filter_flatMap_cuts {step : Cut → List Cut} (bound : Nat) (mids : List Cut)
    (hstep : ∀ mid cut, cut ∈ step mid → mid.taken ≤ cut.taken) :
    (mids.flatMap step).filter (·.taken ≤ bound) =
      (mids.filter (·.taken ≤ bound)).flatMap fun mid =>
        (step mid).filter (·.taken ≤ bound) := by
  induction mids with
  | nil => rfl
  | cons mid mids ih =>
    rw [List.flatMap_cons, List.filter_append, ih, List.filter_cons]
    split
    · rw [List.flatMap_cons]
    · next hmid =>
      rw [List.filter_eq_nil_iff.mpr, List.nil_append]
      intro cut hcut
      have := hstep mid cut hcut
      simp only [decide_eq_true_eq] at hmid ⊢
      omega

/-- Two steps that each see no further than the text they cut, one after the other. -/
theorem filter_flatMap_local {first second : Cut → List Cut} {language : List Char → Prop}
    {n : Nat} {front : List Char} (more : List Char) (hlanguage : Cuts first language)
    (hmono : ∀ mid cut, cut ∈ second mid → mid.taken ≤ cut.taken)
    (hsecond : ∀ w rest, front = w ++ rest → ⟨n + w.length, rest⟩ ∈ first ⟨n, front⟩ →
      (second ⟨n + w.length, rest ++ more⟩).filter (·.taken ≤ n + w.length + rest.length) =
        (second ⟨n + w.length, rest⟩).map (Cut.extend more))
    (hfirst : (first ⟨n, front ++ more⟩).filter (·.taken ≤ n + front.length) =
      (first ⟨n, front⟩).map (Cut.extend more)) :
    ((first ⟨n, front ++ more⟩).flatMap second).filter (·.taken ≤ n + front.length) =
      ((first ⟨n, front⟩).flatMap second).map (Cut.extend more) := by
  rw [filter_flatMap_cuts _ _ hmono, hfirst, List.flatMap_map, List.map_flatMap]
  refine List.flatMap_congr fun mid hmid => ?_
  obtain ⟨w, rest, hw, rfl, -⟩ := (hlanguage n front mid).mp hmid
  have := hsecond w rest hw hmid
  rwa [Nat.add_assoc, ← List.length_append, ← hw] at this

theorem runCuts_local (p : Char → Bool) : Local fun cut => runCuts p cut.taken [] cut.rest := by
  intro n front more
  show (runCuts p n [] (front ++ more)).filter _ = (runCuts p n [] front).map _
  induction front generalizing n with
  | nil =>
    show (runCuts p n [] more).filter _ = [⟨n, more⟩]
    cases more with
    | nil => simp [runCuts]
    | cons c cs =>
      rw [runCuts_cons]
      split
      · -- every cut behind `c` is too far
        rw [List.filter_append, List.filter_eq_nil_iff.mpr, List.nil_append]
        · simp
        · intro cut hcut
          have := ((mem_runCuts_iff p (n + 1) cs cut).mp hcut).le_taken
          simp only [List.length_nil, Nat.add_zero, decide_eq_true_eq]
          omega
      · simp
  | cons c cs ih =>
    rw [List.cons_append, runCuts_cons, runCuts_cons, List.length_cons, ← Nat.add_assoc,
      Nat.add_right_comm]
    split
    · rw [List.filter_append, List.map_append, ih (n + 1)]
      simp [Cut.extend, Nat.add_right_comm, Nat.add_assoc]
    · simp [Cut.extend, Nat.add_assoc]

theorem cuts_mono {step : Cut → List Cut} {language : List Char → Prop}
    (hlanguage : Cuts step language) (mid cut : Cut) (h : cut ∈ step mid) :
    mid.taken ≤ cut.taken :=
  ((hlanguage mid.taken mid.rest cut).mp h).le_taken

/-! ### Repetition -/

/-- The cuts of a step that moves on. -/
def advances (step : Cut → List Cut) (cut : Cut) : List Cut :=
  (step cut).filter (cut.taken < ·.taken)

theorem repeatCuts_succ (step : Cut → List Cut) (limit : Nat) (cut : Cut) :
    repeatCuts step (limit + 1) cut =
      (advances step cut).flatMap (repeatCuts step limit) ++ [cut] :=
  rfl

theorem advances_cuts {step : Cut → List Cut} {language : List Char → Prop}
    (hlanguage : Cuts step language) : Cuts (advances step) fun w => w ≠ [] ∧ language w := by
  intro n cs cut
  unfold advances
  rw [List.mem_filter, hlanguage n cs cut]
  constructor
  · rintro ⟨⟨w, rest, hcs, rfl, hw⟩, hlt⟩
    refine ⟨w, rest, hcs, rfl, ?_, hw⟩
    rintro rfl
    simp at hlt
  · rintro ⟨w, rest, hcs, rfl, hne, hw⟩
    have := List.length_pos_iff.mpr hne
    exact ⟨⟨w, rest, hcs, rfl, hw⟩, by simpa using this⟩

theorem advances_local {step : Cut → List Cut} (hlocal : Local step) : Local (advances step) := by
  intro n front more
  have := congrArg (List.filter fun cut => decide (n < cut.taken)) (hlocal n front more)
  rw [List.filter_filter, List.filter_map] at this
  refine Eq.trans ?_ this
  show ((step _).filter _).filter _ = _
  rw [List.filter_filter]
  simp only [Bool.and_comm]

/-- A bound on the repetitions does not matter when the text is no longer than it. -/
theorem repeatCuts_limit {step : Cut → List Cut} {language : List Char → Prop}
    (hlanguage : Cuts step language) {limit : Nat} {cs : List Char} (h : cs.length ≤ limit)
    (n : Nat) : repeatCuts step (limit + 1) ⟨n, cs⟩ = repeatCuts step limit ⟨n, cs⟩ := by
  induction limit generalizing n cs with
  | zero =>
    obtain rfl := List.length_eq_zero_iff.mp (Nat.le_zero.mp h)
    have hnone : advances step ⟨n, []⟩ = [] := by
      refine List.eq_nil_iff_forall_not_mem.mpr fun cut hcut => ?_
      obtain ⟨w, rest, hw, -, hne, -⟩ := (advances_cuts hlanguage n [] cut).mp hcut
      exact hne (List.nil_eq_append_iff.mp hw).1
    rw [repeatCuts_succ, hnone]
    rfl
  | succ limit ih =>
    rw [repeatCuts_succ, repeatCuts_succ _ limit]
    congr 1
    refine List.flatMap_congr fun mid hmid => ?_
    obtain ⟨w, rest, rfl, rfl, hne, -⟩ := (advances_cuts hlanguage n cs mid).mp hmid
    have := List.length_pos_iff.mpr hne
    rw [List.length_append] at h
    exact ih (by omega) _

theorem repeatCuts_length {step : Cut → List Cut} {language : List Char → Prop}
    (hlanguage : Cuts step language) {limit : Nat} {cs : List Char} (h : cs.length ≤ limit)
    (n : Nat) : repeatCuts step limit ⟨n, cs⟩ = repeatCuts step cs.length ⟨n, cs⟩ := by
  induction h with
  | refl => rfl
  | step hle ih => rw [repeatCuts_limit hlanguage hle, ih]

theorem le_taken_of_mem_repeatCuts {step : Cut → List Cut} {language : List Char → Prop}
    (hlanguage : Cuts step language) {limit : Nat} (mid cut : Cut)
    (h : cut ∈ repeatCuts step limit mid) : mid.taken ≤ cut.taken := by
  induction limit generalizing mid with
  | zero => exact (List.mem_singleton.mp h) ▸ Nat.le_refl _
  | succ limit ih =>
    rw [repeatCuts_succ] at h
    rcases List.mem_append.mp h with h | h
    · obtain ⟨next, hnext, h⟩ := List.mem_flatMap.mp h
      exact Nat.le_trans (cuts_mono (advances_cuts hlanguage) mid next hnext) (ih next h)
    · exact (List.mem_singleton.mp h) ▸ Nat.le_refl _

theorem repeatCuts_local {step : Cut → List Cut} {language : List Char → Prop}
    (hlanguage : Cuts step language) (hlocal : Local step) {limit : Nat} {front : List Char}
    (hlimit : front.length ≤ limit) (n : Nat) (more : List Char) :
    (repeatCuts step limit ⟨n, front ++ more⟩).filter (·.taken ≤ n + front.length) =
      (repeatCuts step limit ⟨n, front⟩).map (Cut.extend more) := by
  induction limit generalizing front n with
  | zero =>
    obtain rfl := List.length_eq_zero_iff.mp (Nat.le_zero.mp hlimit)
    simp [repeatCuts, Cut.extend]
  | succ limit ih =>
    rw [repeatCuts_succ, repeatCuts_succ, List.filter_append, List.map_append]
    congr 1
    · refine filter_flatMap_local more (advances_cuts hlanguage)
        (fun mid cut => le_taken_of_mem_repeatCuts hlanguage mid cut) ?_
        (advances_local hlocal n front more)
      intro w rest hfront hmem
      obtain ⟨u, v, huv, hcut, hne, -⟩ := (advances_cuts hlanguage n front _).mp hmem
      -- the cut has moved on, so the bound suffices for what is left
      have hlen : (w.length : Nat) = u.length := by
        have := congrArg Cut.taken hcut
        simpa using this
      have hpos := List.length_pos_iff.mpr hne
      have := congrArg List.length hfront
      rw [List.length_append] at this
      exact ih (by omega) _
    · simp [Cut.extend]

/-- The cuts of a shape see no further than the text they cut. -/
theorem cuts_local (s : Shape) : Local s.cuts := by
  induction s with
  | nothing =>
    intro n front more
    simp [cuts, Cut.extend]
  | one p =>
    intro n front more
    cases front with
    | nil =>
      show (((one p).cuts ⟨n, more⟩).filter _) = []
      refine List.filter_eq_nil_iff.mpr fun cut hcut => ?_
      obtain ⟨w, rest, -, rfl, hw⟩ := (mem_cuts_iff (one p) n more cut).mp hcut
      cases hw
      simp
    | cons c cs =>
      simp only [cuts, List.cons_append]
      split <;> simp [Cut.extend]
  | run p => exact runCuts_local p
  | next s t ihs iht =>
    intro n front more
    exact filter_flatMap_local more (mem_cuts_iff s) (cuts_mono (mem_cuts_iff t))
      (fun w rest _ _ => iht (n + w.length) rest more) (ihs n front more)
  | either s t ihs iht =>
    intro n front more
    show (s.cuts _ ++ t.cuts _).filter _ = (s.cuts _ ++ t.cuts _).map _
    rw [List.filter_append, List.map_append, ihs n front more, iht n front more]
  | many body ih =>
    intro n front more
    rw [cuts_many, cuts_many]
    have hlanguage := mem_cuts_iff body
    have hle : front.length ≤ (front ++ more).length := by simp
    show (repeatCuts _ (front ++ more).length _).filter _ = (repeatCuts _ front.length _).map _
    rw [← repeatCuts_length hlanguage hle n]
    exact repeatCuts_local hlanguage ih hle n more

/-- What a shape takes from the front of a text it takes from the front alone, if it takes no
more than the front. -/
theorem firstCut?_append {s : Shape} {front more : List Char}
    (h : ∀ cut, s.firstCut? (front ++ more) = some cut → cut.taken ≤ front.length) :
    s.firstCut? (front ++ more) = (s.firstCut? front).map (Cut.extend more) := by
  have hlocal := cuts_local s 0 front more
  unfold firstCut? at h ⊢
  rw [← List.head?_map, ← hlocal]
  cases hcuts : s.cuts ⟨0, front ++ more⟩ with
  | nil => rfl
  | cons cut cuts =>
    have := h cut (by rw [hcuts]; rfl)
    rw [List.filter_cons_of_pos (by simpa using this)]
    rfl

/-! ## The prefix that a shape takes -/

/-- The shape takes the word where the rest follows it. -/
def Takes (s : Shape) (w rest : List Char) : Prop :=
  ∀ n, (s.cuts ⟨n, w ++ rest⟩).head? = some ⟨n + w.length, rest⟩

theorem Takes.firstCut? {s : Shape} {w : List Char} (h : s.Takes w []) :
    s.firstCut? w = some ⟨w.length, []⟩ := by
  have := h 0
  rwa [List.append_nil, Nat.zero_add] at this

theorem takes_nothing (rest : List Char) : nothing.Takes [] rest := fun _ => rfl

theorem takes_one {p : Char → Bool} {c : Char} (h : p c = true) (rest : List Char) :
    (one p).Takes [c] rest := by
  intro n
  simp [cuts, h]

theorem takes_char (c : Char) (rest : List Char) : (char c).Takes [c] rest :=
  takes_one (beq_self_eq_true c) rest

theorem Takes.next {s t : Shape} {u v rest : List Char} (hs : s.Takes u (v ++ rest))
    (ht : t.Takes v rest) : (next s t).Takes (u ++ v) rest := by
  intro n
  have ht := ht (n + u.length)
  rw [Nat.add_assoc, ← List.length_append] at ht
  rw [List.append_assoc, cuts, List.head?_flatMap]
  cases hcuts : s.cuts ⟨n, u ++ (v ++ rest)⟩ with
  | nil =>
    have := hs n
    rw [hcuts] at this
    cases this
  | cons cut others =>
    have := hs n
    rw [hcuts] at this
    obtain rfl := Option.some.inj this
    rw [List.findSome?_cons, ht]

theorem Takes.inOrder_singleton {s : Shape} {w rest : List Char} (h : s.Takes w rest) :
    (inOrder [s]).Takes w rest := by
  have := h.next (takes_nothing rest)
  rwa [List.append_nil] at this

theorem Takes.left {s t : Shape} {w rest : List Char} (h : s.Takes w rest) :
    (either s t).Takes w rest := by
  intro n
  rw [cuts, List.head?_append, h n]
  rfl

theorem Takes.right {s t : Shape} {w rest : List Char} (h : t.Takes w rest)
    (hs : ∀ n, s.cuts ⟨n, w ++ rest⟩ = []) : (either s t).Takes w rest := by
  intro n
  rw [cuts, hs n, List.nil_append]
  exact h n

/-- A shape takes nothing where none of its words starts. -/
theorem cuts_eq_nil {s : Shape} {cs : List Char} (hnull : s.nullable = false)
    (hstart : ∀ c ∈ cs.head?, s.starts c = false) (n : Nat) : s.cuts ⟨n, cs⟩ = [] := by
  refine List.eq_nil_iff_forall_not_mem.mpr fun cut hcut => ?_
  obtain ⟨w, rest, rfl, -, hw⟩ := (mem_cuts_iff s n cs cut).mp hcut
  cases w with
  | nil =>
    rw [hw.nullable rfl] at hnull
    cases hnull
  | cons c w =>
    have := hstart c (by simp)
    rw [hw.starts] at this
    cases this

theorem takes_optional_none {s : Shape} {rest : List Char} (hnull : s.nullable = false)
    (hstart : ∀ c ∈ rest.head?, s.starts c = false) : (optional s).Takes [] rest :=
  (takes_nothing rest).right (cuts_eq_nil hnull hstart)

/-- A run takes all characters of its class. -/
theorem takes_run {p : Char → Bool} {w rest : List Char} (hw : ∀ c ∈ w, p c = true)
    (hrest : ∀ c ∈ rest.head?, p c = false) : (run p).Takes w rest := by
  intro n
  show (runCuts p n [] (w ++ rest)).head? = _
  induction w generalizing n with
  | nil =>
    cases rest with
    | nil => rfl
    | cons c rest =>
      rw [List.nil_append, runCuts_cons, if_neg (by simp [hrest c (by simp)])]
      rfl
  | cons c w ih =>
    obtain ⟨hc, hw⟩ := List.forall_mem_cons.mp hw
    rw [List.cons_append, runCuts_cons, if_pos hc, List.head?_append, ih hw (n + 1),
      Nat.add_assoc, Nat.add_comm 1]
    rfl

theorem takes_times {p : Char → Bool} {w : List Char} (hw : ∀ c ∈ w, p c = true)
    (rest : List Char) : (times w.length (one p)).Takes w rest := by
  induction w with
  | nil => exact takes_nothing rest
  | cons c w ih =>
    obtain ⟨hc, hw⟩ := List.forall_mem_cons.mp hw
    exact (takes_one hc (w ++ rest)).next (ih hw)

end Shape

end ProfileQuery.Query
