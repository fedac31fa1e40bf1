import Mathlib.Data.List.TakeWhile
import ProfileQuery.Proofs.Query.Grammar
import ProfileQuery.Query.Reader

/-!
# The clauses of a query

What the readers of the projection, of the relations after `from` and of the `where` clauses take,
each in both directions: what they return for given tokens, and of which tokens a result was read.
-/

namespace ProfileQuery.Query

open Calendar (DateTime)
open Outcome (bind_eq_ok bind_ok)

variable {now : DateTime} {ts us : List Token} {first : Token} {others : List Token}

theorem takeWhile_append {p : Token → Bool} {front back : List Token}
    (hfront : ∀ t ∈ front, p t = true) (hback : ∀ t ∈ back.head?, p t = false) :
    (front ++ back).takeWhile p = front := by
  rw [List.takeWhile_append_of_pos hfront]
  cases back with
  | nil => simp
  | cons t back => simp [hback t (by simp)]

/-- A longest run and what is left of the tokens behind it. -/
theorem exists_run (p : Token → Bool) (ts : List Token) :
    (∀ t ∈ ts.takeWhile p, p t = true) ∧ ts = ts.takeWhile p ++ ts.drop (ts.takeWhile p).length :=
  ⟨fun _ ht => List.mem_takeWhile_imp ht,
    (List.prefix_iff_eq_append.mp (List.takeWhile_prefix p)).symm⟩

/-- Behind a longest run stands nothing that would continue it. -/
theorem head?_drop_run (p : Token → Bool) (ts : List Token) :
    ∀ t ∈ (ts.drop (ts.takeWhile p).length).head?, p t = false := by
  have hdrop : ts.drop (ts.takeWhile p).length = ts.dropWhile p := by
    have hsplit := (List.takeWhile_append_dropWhile (p := p) (l := ts)).trans (exists_run p ts).2
    exact (List.append_cancel_left hsplit).symm
  rw [hdrop]
  intro t ht
  have hnot := List.head?_dropWhile_not p ts
  rw [Option.mem_def.mp ht] at hnot
  exact hnot

/-! ## The projection -/

theorem readProjection_star {t : Token} (ht : t.kind = .star) (us : List Token) :
    readProjection (t :: us) = .ok (.wildcard, us) := by
  unfold readProjection
  rw [choose_cons (by simp [ht])]
  simp only [bind_ok, if_pos ht]
  rfl

theorem readProjection_names (hnames : ∀ t ∈ first :: others, t.kind ∈ columnKinds)
    (hus : ∀ t ∈ us.head?, t.kind ∉ columnKinds) :
    readProjection (first :: others ++ us) =
      .ok (.columns ((first :: others).map (·.literal)), us) := by
  obtain ⟨hfirst, hothers⟩ := List.forall_mem_cons.mp hnames
  have htake : (others ++ us).takeWhile (fun t => decide (t.kind ∈ columnKinds)) = others :=
    takeWhile_append (by simpa using hothers) (by simpa using hus)
  have hstar : first.kind ≠ .star := by
    intro heq
    rw [heq] at hfirst
    exact absurd hfirst (by decide)
  unfold readProjection
  rw [List.cons_append, choose_cons (List.mem_cons_of_mem _ hfirst)]
  simp only [bind_ok, if_neg hstar, htake, List.drop_left]
  rfl

/-- A projection is read of a star, or of columns. -/
theorem readProjection_eq_ok {projection : Projection}
    (h : readProjection ts = .ok (projection, us)) :
    (∃ t, t.kind = .star ∧ ts = t :: us ∧ projection = .wildcard) ∨
    ∃ first others, (∀ t ∈ first :: others, t.kind ∈ columnKinds) ∧ ts = first :: others ++ us ∧
      projection = .columns ((first :: others).map (·.literal)) := by
  obtain ⟨⟨first, rest, hrest⟩, hfirst, h⟩ := bind_eq_ok.mp h
  obtain ⟨hkind, hts⟩ := choose_eq_ok hfirst
  by_cases hstar : first.kind = .star
  · simp only [hstar, if_true] at h
    obtain ⟨rfl, rfl⟩ := Prod.mk.inj (Except.ok.inj h)
    exact .inl ⟨first, hstar, hts, rfl⟩
  · simp only [hstar, if_false] at h
    obtain ⟨rfl, rfl⟩ := Prod.mk.inj (Except.ok.inj h)
    obtain ⟨hrun, heq⟩ := exists_run (fun t => decide (t.kind ∈ columnKinds)) rest
    refine .inr ⟨first, _, List.forall_mem_cons.mpr ⟨?_, ?_⟩, hts.trans (congrArg _ heq), rfl⟩
    · exact (List.mem_cons.mp hkind).resolve_left hstar
    · simpa using hrun

/-- All columns up to a token of another kind are read. -/
theorem kind_behind_columns {names : List String}
    (h : readProjection ts = .ok (.columns names, us)) : ∀ t ∈ us.head?, t.kind ∉ columnKinds := by
  obtain ⟨⟨first, rest, hrest⟩, -, h⟩ := bind_eq_ok.mp h
  by_cases hstar : first.kind = .star
  · simp only [hstar, if_true] at h
    cases Except.ok.inj h
  · simp only [hstar, if_false] at h
    obtain ⟨-, rfl⟩ := Prod.mk.inj (Except.ok.inj h)
    simpa using head?_drop_run (fun t => decide (t.kind ∈ columnKinds)) rest

/-! ## The relations -/

theorem readRelations_none (h : ∀ t ∈ ts.head?, t.kind ≠ .fromWord) :
    readRelations ts = .ok ([], ts) := by
  unfold readRelations
  rw [if_neg]
  · rfl
  · cases ts with
    | nil => exact Kind.noConfusion
    | cons t ts => exact h t rfl

/-- The names that follow the word are all names up to a token of another kind. -/
theorem readRelations_names {mark : Token} (hmark : mark.kind = .fromWord)
    (hnames : ∀ t ∈ first :: others, t.kind = .name) (hus : ∀ t ∈ us.head?, t.kind ≠ .name) :
    readRelations (mark :: (first :: others ++ us)) =
      .ok ((first :: others).map (·.literal), us) := by
  obtain ⟨hfirst, hothers⟩ := List.forall_mem_cons.mp hnames
  have htake : (others ++ us).takeWhile (fun t => decide (t.kind = .name)) = others :=
    takeWhile_append (by simpa using hothers) (by simpa using hus)
  unfold readRelations
  rw [if_pos (show (current (mark :: (first :: others ++ us))).kind = .fromWord from hmark)]
  simp only [List.tail_cons, List.cons_append, choose_cons (List.mem_singleton.mpr hfirst), bind_ok,
    htake, List.drop_left]
  rfl

/-- No relations are read of no tokens, or relations of names behind the word. -/
theorem readRelations_eq_ok {relations : List String}
    (h : readRelations ts = .ok (relations, us)) :
    (ts = us ∧ relations = []) ∨
    ∃ mark first others, mark.kind = .fromWord ∧ (∀ t ∈ first :: others, t.kind = .name) ∧
      ts = mark :: (first :: others ++ us) ∧ relations = (first :: others).map (·.literal) := by
  unfold readRelations at h
  split at h
  · next hfrom =>
    obtain ⟨⟨first, rest, hrest⟩, hfirst, h⟩ := bind_eq_ok.mp h
    obtain ⟨hkind, hts⟩ := choose_eq_ok hfirst
    obtain ⟨rfl, rfl⟩ := Prod.mk.inj (Except.ok.inj h)
    obtain ⟨hrun, heq⟩ := exists_run (fun t => decide (t.kind = .name)) rest
    cases ts with
    | nil => cases hts
    | cons mark ts =>
      refine .inr ⟨mark, first, _, hfrom, List.forall_mem_cons.mpr ⟨?_, ?_⟩, ?_, rfl⟩
      · exact List.mem_singleton.mp hkind
      · simpa using hrun
      · exact congrArg (mark :: ·) (hts.trans (congrArg (first :: ·) heq))
  · obtain ⟨rfl, rfl⟩ := Prod.mk.inj (Except.ok.inj h)
    exact .inl ⟨rfl, rfl⟩

/-- All names up to a token of another kind are read, if there are relations at all. -/
theorem kind_behind_relations {relations : List String}
    (h : readRelations ts = .ok (relations, us)) :
    ∀ t ∈ us.head?, (relations = [] → t.kind ≠ .fromWord) ∧ (relations ≠ [] → t.kind ≠ .name) := by
  unfold readRelations at h
  split at h
  · obtain ⟨⟨first, rest, hrest⟩, -, h⟩ := bind_eq_ok.mp h
    obtain ⟨rfl, rfl⟩ := Prod.mk.inj (Except.ok.inj h)
    intro t ht
    have hnot := head?_drop_run (fun t => decide (t.kind = .name)) rest t ht
    exact ⟨fun heq => absurd heq (by simp), fun _ => by simpa using hnot⟩
  · next hfrom =>
    obtain ⟨rfl, rfl⟩ := Prod.mk.inj (Except.ok.inj h)
    intro t ht
    cases ts with
    | nil => cases ht
    | cons u us =>
      obtain rfl := Option.some.inj ht
      exact ⟨fun _ => hfrom, fun heq => absurd rfl heq⟩

/-! ## The conditions -/

theorem readWhere_done (now : DateTime) (h : ∀ t ∈ ts.head?, t.kind ≠ .whereWord) :
    readWhere now ts = .ok ([], ts) := by
  cases ts with
  | nil => rw [readWhere]
  | cons t ts => rw [readWhere, if_neg (h t (by simp))]

theorem readWhere_end {t : Token} (now : DateTime) (h : t.kind = .endOfInput) :
    readWhere now (t :: ts) = .ok ([], t :: ts) := by
  refine readWhere_done now ?_
  rintro u ⟨⟩
  rw [h]
  decide

theorem readWhere_cons {t : Token} {c : Condition} {conditions : List Condition}
    {rest : List Token} (ht : t.kind = .whereWord) (hread : Reads now (.chain .or) ts [c] rest)
    (hothers : readWhere now rest = .ok (conditions, us)) :
    readWhere now (t :: ts) = .ok (c :: conditions, us) := by
  obtain ⟨hlt, hread⟩ := readDisjunction_eq_ok.mpr hread
  rw [readWhere, if_pos ht, hread]
  simp only [hothers]

/-- No conditions are read of no tokens, or a first condition and those behind it. -/
theorem readWhere_eq_ok {conditions : List Condition}
    (h : readWhere now ts = .ok (conditions, us)) :
    (ts = us ∧ conditions = []) ∨
    ∃ mark rest c others mid, mark.kind = .whereWord ∧ ts = mark :: rest ∧
      conditions = c :: others ∧ Reads now (.chain .or) rest [c] mid ∧
      readWhere now mid = .ok (others, us) := by
  by_cases hdone : ∀ t ∈ ts.head?, t.kind ≠ .whereWord
  · rw [readWhere_done now hdone] at h
    obtain ⟨rfl, rfl⟩ := Prod.mk.inj (Except.ok.inj h)
    exact .inl ⟨rfl, rfl⟩
  · cases ts with
    | nil => simp at hdone
    | cons mark ts =>
      have hmark : mark.kind = .whereWord := by simpa using hdone
      rw [readWhere, if_pos hmark] at h
      split at h
      · cases h
      · next c mid hmid hread =>
        split at h
        · cases h
        · next others us' hothers =>
          obtain ⟨rfl, rfl⟩ := Prod.mk.inj (Except.ok.inj h)
          exact .inr ⟨mark, ts, c, others, mid, hmark, rfl, rfl,
            readDisjunction_eq_ok.mp ⟨hmid, hread⟩, hothers⟩

/-! ## Bodies -/

/-- A body is read of a projection, relations and conditions, one after another and up to the end of
the input. -/
theorem readBody_eq_ok {text : String} {q : Select} :
    readBody now text ts = .ok q ↔ ∃ us vs conditions last rest,
      readProjection ts = .ok (q.projection, us) ∧ readRelations us = .ok (q.relations, vs) ∧
      readWhere now vs = .ok (conditions, last :: rest) ∧ last.kind = .endOfInput ∧
      ¬ (q.projection = .wildcard ∧ q.relations = []) ∧
      whereCondition conditions = q.condition := by
  constructor
  · intro h
    obtain ⟨⟨projection, us⟩, hprojection, h⟩ := bind_eq_ok.mp h
    obtain ⟨⟨relations, vs⟩, hrelations, h⟩ := bind_eq_ok.mp h
    obtain ⟨⟨conditions, ws⟩, hconditions, h⟩ := bind_eq_ok.mp h
    obtain ⟨⟨last, rest, hrest⟩, hlast, h⟩ := bind_eq_ok.mp h
    obtain ⟨hkind, hws⟩ := choose_eq_ok hlast
    rw [hws] at hconditions
    split at h
    · cases h
    · next hnamed =>
      obtain rfl := Except.ok.inj h
      exact ⟨us, vs, conditions, last, rest, hprojection, hrelations, hconditions,
        List.mem_singleton.mp hkind, hnamed, rfl⟩
  · rintro ⟨us, vs, conditions, last, rest, hprojection, hrelations, hconditions, hlast, hnamed,
      hcondition⟩
    unfold readBody
    simp only [hprojection, hrelations, hconditions, bind_ok,
      choose_cons (List.mem_singleton.mpr hlast)]
    rw [if_neg hnamed, hcondition]
    rfl

end ProfileQuery.Query
