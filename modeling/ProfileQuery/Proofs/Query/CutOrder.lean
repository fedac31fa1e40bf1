import ProfileQuery.Proofs.Query.Shape

/-!
# The order of cuts

A shape takes the prefix that it prefers, and not the longest one. The two are the same when the cuts
of every text come in descending order (`Descending`): then no word at the front of a text is longer
than what the shape takes (`exists_firstCut`). Descent passes through every way to build a shape. For
two shapes in a row it needs that a longer word of the first one always leads further than a shorter
one (`Ahead`); most often this is so because the characters with which a word of the first shape goes
on (`Grows`) start no word of the second.
-/

namespace ProfileQuery.Query.Shape

/-- Whether a step makes its cuts in descending order, no two of them at the same place. -/
def Descending (step : Cut → List Cut) : Prop :=
  ∀ n cs, (step ⟨n, cs⟩).Pairwise fun a b => b.taken < a.taken

/-- Whether a longer word of one language, with any word of another behind it, goes further than a
shorter word with any word behind it. -/
def Ahead (first second : List Char → Prop) : Prop :=
  ∀ u x v v', first u → first (u ++ x) → x ≠ [] → second v → second v' → ¬ x ++ v <+: v'

variable {s t body : Shape} {p : Char → Bool} {w : List Char}

/-- What a shape with descending cuts takes is no shorter than any of its words at the front of the
text. -/
theorem exists_firstCut (h : Descending s.cuts) (hw : s.Matches w) {cs : List Char}
    (hfront : w <+: cs) : ∃ cut, s.firstCut? cs = some cut ∧ w.length ≤ cut.taken := by
  obtain ⟨rest, rfl⟩ := hfront
  have hmem : ⟨0 + w.length, rest⟩ ∈ s.cuts ⟨0, w ++ rest⟩ :=
    (mem_cuts_iff s 0 _ _).mpr ⟨w, rest, rfl, rfl, hw⟩
  have hpairwise := h 0 (w ++ rest)
  unfold firstCut?
  cases hcuts : s.cuts ⟨0, w ++ rest⟩ with
  | nil =>
    rw [hcuts] at hmem
    cases hmem
  | cons first others =>
    rw [hcuts] at hmem hpairwise
    refine ⟨first, rfl, ?_⟩
    rcases List.mem_cons.mp hmem with rfl | hmem
    · exact Nat.le_add_left ..
    · have := (List.pairwise_cons.mp hpairwise).1 _ hmem
      simp only at this
      omega

/-! ## Descent -/

/-- Two steps in a row. -/
theorem descending_flatMap {first second : Cut → List Cut} {L M : List Char → Prop}
    (hL : ∀ n cs cut, cut ∈ first ⟨n, cs⟩ → IsCut L n cs cut)
    (hM : ∀ n cs cut, cut ∈ second ⟨n, cs⟩ → IsCut M n cs cut)
    (hfirst : Descending first) (hsecond : Descending second) (hahead : Ahead L M) :
    Descending fun cut => (first cut).flatMap second := by
  intro n cs
  rw [List.pairwise_flatMap]
  refine ⟨fun mid _ => hsecond mid.taken mid.rest, (hfirst n cs).imp_of_mem ?_⟩
  intro long short hlong hshort hlt a ha b hb
  obtain ⟨w, rest, rfl, rfl, hw⟩ := hL n cs long hlong
  obtain ⟨u, rest', hcs, rfl, hu⟩ := hL n _ short hshort
  obtain ⟨v, more, rfl, rfl, hv⟩ := hM _ _ a ha
  obtain ⟨v', more', rfl, rfl, hv'⟩ := hM _ _ b hb
  simp only at hlt ⊢
  -- the shorter word is a prefix of the longer one, and the same would hold of the ends
  by_contra hle
  obtain ⟨x, rfl⟩ : u <+: w := by
    refine List.prefix_of_prefix_length_le ⟨v' ++ more', hcs.symm⟩ (List.prefix_append ..) ?_
    omega
  have hne : x ≠ [] := by
    rintro rfl
    simp at hlt
  rw [List.append_assoc] at hcs
  have hend := List.append_cancel_left hcs
  refine hahead u x v v' hu hw hne hv hv' ?_
  refine List.prefix_of_prefix_length_le ?_ ⟨more', hend.symm⟩ ?_
  · rw [← List.append_assoc]
    exact List.prefix_append ..
  · simp only [List.length_append] at hle ⊢
    omega

theorem descending_nothing : Descending nothing.cuts := fun _ _ => List.pairwise_singleton _ _

theorem descending_one (p : Char → Bool) : Descending (one p).cuts := by
  intro n cs
  cases cs with
  | nil => exact .nil
  | cons c cs =>
    simp only [cuts]
    split
    · exact List.pairwise_singleton _ _
    · exact .nil

theorem descending_run (p : Char → Bool) : Descending (run p).cuts := by
  intro n cs
  show (runCuts p n [] cs).Pairwise _
  induction cs generalizing n with
  | nil => exact List.pairwise_singleton _ _
  | cons c cs ih =>
    rw [runCuts_cons]
    split
    · refine List.pairwise_append.mpr ⟨ih (n + 1), List.pairwise_singleton _ _, ?_⟩
      intro a ha b hb
      obtain rfl := List.mem_singleton.mp hb
      exact ((mem_runCuts_iff p (n + 1) cs a).mp ha).le_taken
    · exact List.pairwise_singleton _ _

theorem descending_next (hs : Descending s.cuts) (ht : Descending t.cuts)
    (h : Ahead s.Matches t.Matches) : Descending (next s t).cuts :=
  descending_flatMap (fun n cs cut => (mem_cuts_iff s n cs cut).mp)
    (fun n cs cut => (mem_cuts_iff t n cs cut).mp) hs ht h

/-- Of two alternatives the second one has no word that a word of the first is a prefix of. -/
theorem descending_either (hs : Descending s.cuts) (ht : Descending t.cuts)
    (h : ∀ u v, s.Matches u → t.Matches v → ¬ u <+: v) : Descending (either s t).cuts := by
  intro n cs
  refine List.pairwise_append.mpr ⟨hs n cs, ht n cs, ?_⟩
  intro a ha b hb
  obtain ⟨u, rest, rfl, rfl, hu⟩ := (mem_cuts_iff s n cs a).mp ha
  obtain ⟨v, rest', hcs, rfl, hv⟩ := (mem_cuts_iff t n _ b).mp hb
  by_contra hle
  simp only at hle
  exact h u v hu hv (List.prefix_of_prefix_length_le (List.prefix_append ..)
    ⟨rest', hcs.symm⟩ (by omega))

theorem descending_optional (hs : Descending s.cuts) (hnull : s.nullable = false) :
    Descending (optional s).cuts := by
  refine descending_either hs descending_nothing fun u v hu hv hfront => ?_
  rw [matches_nothing_iff.mp hv, List.prefix_nil] at hfront
  rw [hu.nullable hfront] at hnull
  cases hnull

theorem descending_many (hbody : Descending body.cuts)
    (h : Ahead body.Matches (many body).Matches) : Descending (many body).cuts := by
  intro n cs
  rw [cuts_many]
  generalize (⟨n, cs⟩ : Cut).rest.length = limit
  have hlanguage := mem_cuts_iff body
  -- on the bound of the repetitions
  induction limit generalizing n cs with
  | zero => exact List.pairwise_singleton _ _
  | succ limit ih =>
    rw [repeatCuts_succ]
    refine List.pairwise_append.mpr ⟨?_, List.pairwise_singleton _ _, ?_⟩
    · refine descending_flatMap (L := body.Matches) (M := (many body).Matches) ?_
        (fun n cs cut => mem_repeatCuts hlanguage) ?_ ih h n cs
      · intro n cs cut hcut
        exact (hlanguage n cs cut).mp (List.mem_of_mem_filter hcut)
      · exact fun n cs => (hbody n cs).filter _
    · intro a ha b hb
      obtain rfl := List.mem_singleton.mp hb
      obtain ⟨mid, hmid, ha⟩ := List.mem_flatMap.mp ha
      have hlt : (⟨n, cs⟩ : Cut).taken < mid.taken := by
        simpa using (List.mem_filter.mp hmid).2
      exact Nat.lt_of_lt_of_le hlt (le_taken_of_mem_repeatCuts hlanguage mid a ha)

/-! ## Words of one length -/

/-- The length of the words of a shape, where all of them have the same. -/
def width? : Shape → Option Nat
  | nothing => some 0
  | one _ => some 1
  | run _ | many _ => none
  | next s t =>
    match s.width?, t.width? with
    | some m, some n => some (m + n)
    | _, _ => none
  | either s t => if s.width? = t.width? then s.width? else none

theorem Matches.length_eq (h : s.Matches w) {n : Nat} (hn : s.width? = some n) : w.length = n := by
  induction h generalizing n with
  | nothing => exact Option.some.inj hn
  | one => exact Option.some.inj hn
  | run | done | more => cases hn
  | @next s t u v _ _ ihu ihv =>
    simp only [width?] at hn
    split at hn
    · next m k hs ht =>
      rw [List.length_append, ihu hs, ihv ht]
      exact Option.some.inj hn
    · cases hn
  | left _ ih =>
    simp only [width?] at hn
    split at hn
    · exact ih hn
    · cases hn
  | right _ ih =>
    simp only [width?] at hn
    split at hn
    · next heq => exact ih (heq ▸ hn)
    · cases hn

theorem ahead_of_width {n : Nat} (h : s.width? = some n) (M : List Char → Prop) :
    Ahead s.Matches M := by
  intro u x v v' hu hux hne
  have hlen := hux.length_eq h
  rw [List.length_append, hu.length_eq h] at hlen
  exact absurd (List.length_eq_zero_iff.mp (by omega)) hne

theorem ahead_nothing (L : List Char → Prop) : Ahead L nothing.Matches := by
  intro u x v v' _ _ hne _ hv' hfront
  rw [matches_nothing_iff.mp hv', List.prefix_nil] at hfront
  exact hne (List.append_eq_nil_iff.mp hfront).1

theorem descending_inOrder_singleton (hs : Descending s.cuts) :
    Descending (inOrder [s]).cuts :=
  descending_next hs descending_nothing (ahead_nothing _)

theorem descending_times (n : Nat) (p : Char → Bool) : Descending (times n (one p)).cuts := by
  induction n with
  | zero => exact descending_nothing
  | succ n ih => exact descending_next (descending_one p) ih (ahead_of_width rfl _)

/-! ## How words go on -/

/-- Whether every word that goes on to a longer one does so with a character of a class. -/
def Grows (s : Shape) (p : Char → Bool) : Prop :=
  ∀ u c x, s.Matches u → s.Matches (u ++ c :: x) → p c = true

/-- What goes on with characters that start no word of the next shape leads ahead. -/
theorem Grows.ahead (h : Grows s p) (hstarts : ∀ c, t.starts c = true → p c = false) :
    Ahead s.Matches t.Matches := by
  intro u x v v' hu hux hne _ hv' hfront
  cases x with
  | nil => exact hne rfl
  | cons c x =>
    obtain ⟨rest, rfl⟩ := hfront
    have hc := h u c x hu hux
    rw [hstarts c hv'.starts] at hc
    cases hc

theorem grows_of_width {n : Nat} (h : s.width? = some n) (p : Char → Bool) :
    Grows s p := by
  intro u c x hu hux
  have hlen := hux.length_eq h
  rw [List.length_append, hu.length_eq h, List.length_cons] at hlen
  omega

theorem grows_of_uses (h : ∀ c, s.uses c = true → p c = true) : Grows s p :=
  fun _ c _ _ hux => h c (hux.uses (by simp))

/-- Words of one length in front do not matter. -/
theorem Grows.next {n : Nat} (ht : Grows t p) (hs : s.width? = some n) :
    Grows (next s t) p := by
  intro u c x hu hux
  obtain ⟨u₁, u₂, rfl, hu₁, hu₂⟩ := matches_next_iff.mp hu
  obtain ⟨w₁, w₂, heq, hw₁, hw₂⟩ := matches_next_iff.mp hux
  rw [List.append_assoc] at heq
  obtain ⟨-, rfl⟩ := List.append_inj heq ((hu₁.length_eq hs).trans (hw₁.length_eq hs).symm)
  exact ht u₂ c x hu₂ hw₂

theorem Grows.inOrder_singleton (h : Grows s p) : Grows (inOrder [s]) p := by
  intro u c x hu hux
  obtain ⟨u, v, rfl, hu, hv⟩ := matches_inOrder_cons_iff.mp hu
  obtain ⟨w, v', heq, hw, hv'⟩ := matches_inOrder_cons_iff.mp hux
  rw [matches_nothing_iff.mp hv, List.append_nil] at heq
  rw [matches_nothing_iff.mp hv', List.append_nil] at heq
  exact h u c x hu (heq ▸ hw)

theorem Grows.optional (h : Grows s p) (hstarts : ∀ c, s.starts c = true → p c = true) :
    Grows (optional s) p := by
  intro u c x hu hux
  have hux : s.Matches (u ++ c :: x) := by
    refine (matches_optional_iff.mp hux).resolve_right ?_
    simp
  rcases matches_optional_iff.mp hu with hu | rfl
  · exact h u c x hu hux
  · exact hstarts c hux.starts

theorem matches_many_iff {s : Shape} {w : List Char} :
    (many s).Matches w ↔
      w = [] ∨ ∃ u v, w = u ++ v ∧ u ≠ [] ∧ s.Matches u ∧ (many s).Matches v := by
  constructor
  · rintro (⟨⟩ | ⟨⟩)
    · exact .inl rfl
    · exact .inr ⟨_, _, rfl, ‹_›, ‹_›, ‹_›⟩
  · rintro (rfl | ⟨u, v, rfl, hne, hu, hv⟩)
    · exact .done
    · exact .more hne hu hv

theorem Matches.starts_body {c : Char} (h : (many body).Matches (c :: w)) :
    body.starts c = true := by
  show (many body).starts c = true
  exact h.starts

/-- Of two splits of a text at a repetition, the first part of one is never longer than that of the
other, where what goes on in a part does not start another one. -/
theorem Grows.first_within (h : Grows body p) (hstarts : ∀ c, body.starts c = true → p c = false)
    {u v w x : List Char} (hu : body.Matches u) (hw : body.Matches w) (hx : (many body).Matches x)
    (heq : u ++ v = w ++ x) : u <+: w := by
  rcases List.append_eq_append_iff.mp heq with ⟨a, rfl, -⟩ | ⟨b, rfl, rfl⟩
  · exact List.prefix_append u a
  · cases b with
    | nil => simp
    | cons d b =>
      have hd := h w d b hw hu
      rw [hstarts d hx.starts_body] at hd
      cases hd

/-- Repetitions go on as the repeated shape does, or with one more repetition. -/
theorem Grows.many (h : Grows body p) (hstarts : ∀ c, body.starts c = true → p c = false) :
    Grows (many body) fun c => p c || body.starts c := by
  intro u c x hu hux
  generalize hs : Shape.many body = s at hu
  -- on the repetitions that the shorter word consists of
  induction hu with
  | done =>
    obtain rfl := Shape.many.inj hs
    simp [hux.starts_body]
  | @more s u₁ u₂ hne hu₁ hu₂ _ ih =>
    obtain rfl := Shape.many.inj hs
    rw [List.append_assoc] at hux
    rcases matches_many_iff.mp hux with hnil | ⟨w₁, w₂, heq, -, hw₁, hw₂⟩
    · simp at hnil
    · obtain ⟨a, rfl⟩ := h.first_within hstarts hu₁ hw₁ hw₂ heq
      rw [List.append_assoc] at heq
      have heq := List.append_cancel_left heq
      cases a with
      | nil => exact ih (heq ▸ hw₂) rfl
      | cons d a =>
        -- the first repetition of the longer word goes on behind that of the shorter one
        have hd := h u₁ d a hu₁ hw₁
        cases u₂ with
        | nil =>
          obtain ⟨rfl, -⟩ := List.cons.inj heq
          simp [hd]
        | cons e u₂ =>
          obtain ⟨rfl, -⟩ := List.cons.inj heq
          rw [hstarts e hu₂.starts_body] at hd
          cases hd
  | _ => cases hs

end ProfileQuery.Query.Shape
