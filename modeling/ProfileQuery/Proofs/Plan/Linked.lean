import ProfileQuery.Proofs.Plan.Joins

/-!
# Linked joins

A relation can be joined behind others when one of its own keys was fetched before (`Linked`). A plan
only promises that some column of each step has the name of a key joined before; the two come to the
same where no plain column is fetched under the name of a key (`Clear`).
-/

namespace ProfileQuery.Plan

/-- Whether a step can be joined behind others: it is the first, or one of the keys of its relation
was fetched before. -/
def Linked (s : Schema) (earlier : List JoinStep) (step : JoinStep) : Prop :=
  earlier = [] ∨
    ∃ key ∈ step.columns, key ∈ s.keys step.relation ∧ ∃ before ∈ earlier, key ∈ before.columns

instance (s : Schema) (earlier : List JoinStep) (step : JoinStep) :
    Decidable (Linked s earlier step) :=
  inferInstanceAs (Decidable (_ ∨ _))

/-- The first step that cannot be joined behind those before it. -/
def firstUnlinked? (s : Schema) (earlier : List JoinStep) : List JoinStep → Option JoinStep
  | [] => none
  | step :: steps =>
    if Linked s earlier step then firstUnlinked? s (earlier ++ [step]) steps else some step

theorem firstUnlinked?_eq_none {s : Schema} {earlier steps : List JoinStep} :
    firstUnlinked? s earlier steps = none ↔
      ∀ before step after, steps = before ++ step :: after → Linked s (earlier ++ before) step := by
  induction steps generalizing earlier with
  | nil => simp [firstUnlinked?]
  | cons first steps ih =>
    unfold firstUnlinked?
    split
    · next hfirst =>
      rw [ih]
      constructor
      · intro h before step after heq
        cases before with
        | nil =>
          obtain ⟨rfl, -⟩ := List.cons.inj heq
          simpa using hfirst
        | cons head before =>
          obtain ⟨rfl, hrest⟩ := List.cons.inj heq
          simpa using h before step after hrest
      · intro h before step after heq
        simpa using h (first :: before) step after (by rw [heq]; rfl)
    · next hfirst =>
      refine ⟨fun h => (nomatch h), fun h => absurd ?_ hfirst⟩
      simpa using h [] first steps rfl

/-! ## Clear plans -/

/-- No column that is fetched as a plain one has the name of a key of a relation to join. -/
def Clear (s : Schema) (steps : List JoinStep) : Prop :=
  ∀ step ∈ steps, ∀ c ∈ step.columns, c ∉ s.keys step.relation →
    ∀ other ∈ steps, c ∉ s.keys other.relation

instance (s : Schema) (steps : List JoinStep) : Decidable (Clear s steps) :=
  inferInstanceAs (Decidable (∀ step ∈ steps, ∀ c ∈ step.columns, c ∉ s.keys step.relation →
    ∀ other ∈ steps, c ∉ s.keys other.relation))

variable {s : Schema} {steps : List JoinStep}

theorem keysOf_keyMap (s : Schema) (step : JoinStep) :
    (keyMap s).keysOf step = s.keys step.relation := by
  rw [KeyMap.keysOf, keys?_keyMap, Schema.keys]

/-- All keys of a joined relation are fetched. -/
theorem Planned.keys_subset {asked joined : List String} (h : Planned s asked joined steps)
    {step : JoinStep} (hstep : step ∈ steps) : s.keys step.relation ⊆ step.columns := by
  obtain ⟨-, r, hr, -, hkeys⟩ := h.relation hstep
  rw [Schema.keys, hr]
  exact hkeys

/-- In a clear plan the order of the joins links each relation to those before it. -/
theorem Planned.firstUnlinked?_eq_none {asked joined : List String}
    (h : Planned s asked joined steps) (hchained : Chained (keyMap s) none steps)
    (hclear : Clear s steps) : firstUnlinked? s [] steps = none := by
  refine Plan.firstUnlinked?_eq_none.mpr fun before step after heq => ?_
  subst heq
  rcases hchained.exists_earlier with ⟨-, rfl⟩ | ⟨c, hc, hnone | ⟨earlier, hearlier, hkey⟩⟩
  · exact .inl rfl
  · simp at hnone
  · rw [keysOf_keyMap] at hkey
    have hmem : earlier ∈ before ++ step :: after := List.mem_append_left _ hearlier
    have hown : c ∈ s.keys step.relation := by
      by_contra hplain
      exact hclear step (by simp) c hc hplain earlier hmem hkey
    exact .inr ⟨c, hc, hown, earlier, by simpa using hearlier, h.keys_subset hmem hkey⟩

end ProfileQuery.Plan
