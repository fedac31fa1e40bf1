import Mathlib.Data.List.Basic
import ProfileQuery.Query.Condition

/-!
# Conditions that are written and read again

The text of a negation does not say where the negation ends: written among other conditions, it is
read as reaching over all that follow it. `reread` is the condition that the text of a condition is
read as, and `Settled` says which conditions are read as themselves (`reread_eq_self_iff`).
-/

namespace ProfileQuery.Query.Condition

mutual

/-- The condition that the text of a condition is read as. -/
def reread : Condition → Condition
  | comparison op column value => comparison op column value
  | junction op children => combine op (rereadChildren op children)
  | negation child => negation child.reread

/-- The conditions that the texts of several conditions are read as: a negation takes all that
follow it. -/
def rereadChildren (op : Connective) : List Condition → List Condition
  | [] => []
  | negation child :: children =>
    [negation (combine op (child.reread :: rereadChildren op children))]
  | child :: children => child.reread :: rereadChildren op children

end

/-- No junction has a negation among its children before the last one. -/
inductive Settled : Condition → Prop
  | comparison {op column value} : Settled (comparison op column value)
  | junction {op children} : (∀ child ∈ children.dropLast, ∀ inner, child ≠ negation inner) →
      (∀ child ∈ children, Settled child) → Settled (junction op children)
  | negation {child} : Settled child → Settled (negation child)

/-- Every junction has two or more children, as it has in any condition that is read, and every
comparison has a property. -/
inductive Formed (leaf : Operator → String → Value → Prop) : Condition → Prop
  | comparison {op column value} : leaf op column value → Formed leaf (comparison op column value)
  | junction {op children} : 2 ≤ children.length → (∀ child ∈ children, Formed leaf child) →
      Formed leaf (junction op children)
  | negation {child} : Formed leaf child → Formed leaf (negation child)

theorem Formed.combine {leaf : Operator → String → Value → Prop} {op : Connective}
    {children : List Condition} (hne : children ≠ []) (h : ∀ child ∈ children, Formed leaf child) :
    Formed leaf (combine op children) := by
  match children with
  | [] => exact absurd rfl hne
  | [child] => exact h child (by simp)
  | first :: second :: children => exact .junction (by simp) h

theorem combine_of_two_le {op : Connective} {children : List Condition}
    (h : 2 ≤ children.length) : combine op children = junction op children := by
  match children with
  | [] => simp at h
  | [child] => simp at h
  | first :: second :: children => rfl

/-! ## Which conditions are read as themselves -/

theorem rereadChildren_negation (op : Connective) (child : Condition) (children : List Condition) :
    rereadChildren op (negation child :: children) =
      [negation (combine op (child.reread :: rereadChildren op children))] :=
  rereadChildren.eq_2 op child children

theorem rereadChildren_cons (op : Connective) {child : Condition} (children : List Condition)
    (h : ∀ inner, child ≠ negation inner) :
    rereadChildren op (child :: children) = child.reread :: rereadChildren op children := by
  rw [rereadChildren]
  exact h

/-- Where no negation stands before the last child, every child is read by itself. -/
theorem rereadChildren_eq_map (op : Connective) {children : List Condition}
    (h : ∀ child ∈ children.dropLast, ∀ inner, child ≠ negation inner) :
    rereadChildren op children = children.map reread := by
  induction children with
  | nil => rfl
  | cons child children ih =>
    cases children with
    | nil =>
      cases child with
      | negation inner => rw [rereadChildren_negation]; rfl
      | comparison => rfl
      | junction => rfl
    | cons next children =>
      rw [List.dropLast_cons_cons] at h
      obtain ⟨hchild, hchildren⟩ := List.forall_mem_cons.mp h
      rw [rereadChildren_cons op _ hchild, ih hchildren]
      rfl

/-- Where a negation stands before the last child, fewer children are read. -/
theorem length_rereadChildren_lt (op : Connective) {children : List Condition} {inner : Condition}
    (h : negation inner ∈ children.dropLast) :
    (rereadChildren op children).length < children.length := by
  induction children with
  | nil => simp at h
  | cons child children ih =>
    cases children with
    | nil => simp at h
    | cons next children =>
      rw [List.dropLast_cons_cons] at h
      by_cases hchild : ∃ inner', child = negation inner'
      · obtain ⟨inner', rfl⟩ := hchild
        rw [rereadChildren_negation]
        simp
      · have hne : ∀ inner', child ≠ negation inner' := fun inner' heq => hchild ⟨inner', heq⟩
        have hmem : negation inner ∈ (next :: children).dropLast := by
          rcases List.mem_cons.mp h with heq | hmem
          · exact absurd heq.symm (hne inner)
          · exact hmem
        rw [rereadChildren_cons op _ hne, List.length_cons, List.length_cons (a := child)]
        exact Nat.succ_lt_succ (ih hmem)

/-- Of several conditions one alone is read only if it is a negation. -/
theorem negation_of_rereadChildren {op : Connective} {children : List Condition} {c : Condition}
    (h : rereadChildren op children = [c]) (hlen : 2 ≤ children.length) :
    ∃ inner, c = negation inner := by
  match children with
  | [] => simp at hlen
  | [child] => simp at hlen
  | child :: next :: children =>
    by_cases hchild : ∃ inner, child = negation inner
    · obtain ⟨inner, rfl⟩ := hchild
      rw [rereadChildren_negation] at h
      exact ⟨_, (List.singleton_inj.mp h).symm⟩
    · rw [rereadChildren_cons op _ fun inner heq => hchild ⟨inner, heq⟩] at h
      -- a second condition is read behind a first one that is no negation
      obtain ⟨-, h⟩ := List.cons.inj h
      cases next with
      | negation inner => rw [rereadChildren_negation] at h; cases h
      | comparison => cases h
      | junction => cases h

theorem reread_of_settled {c : Condition} (h : c.Settled) {leaf : Operator → String → Value → Prop}
    (hformed : c.Formed leaf) : c.reread = c := by
  induction h with
  | comparison => rfl
  | @junction op children hlast _ ih =>
    cases hformed with
    | junction hlen hchildren =>
      have hmap : children.map reread = children :=
        List.map_congr_left (fun child hchild => ih child hchild (hchildren child hchild)) |>.trans
          (List.map_id children)
      rw [reread, rereadChildren_eq_map op hlast, hmap, combine_of_two_le hlen]
  | negation _ ih =>
    cases hformed with
    | negation hchild => rw [reread, ih hchild]

theorem settled_of_reread {c : Condition} {leaf : Operator → String → Value → Prop}
    (hformed : c.Formed leaf) (h : c.reread = c) : c.Settled := by
  induction hformed with
  | comparison => exact .comparison
  | @junction op children hlen _ ih =>
    rw [reread] at h
    by_cases hlast : ∀ child ∈ children.dropLast, ∀ inner, child ≠ negation inner
    · refine .junction hlast fun child hchild => ih child hchild ?_
      rw [rereadChildren_eq_map op hlast, combine_of_two_le (by simpa using hlen)] at h
      obtain ⟨-, hmap⟩ := Condition.junction.inj h
      exact List.map_inj_left.mp (hmap.trans (List.map_id children).symm) child hchild
    · have hneg : ∃ inner, negation inner ∈ children.dropLast := by
        by_contra hnone
        exact hlast fun child hchild inner heq => hnone ⟨inner, heq ▸ hchild⟩
      obtain ⟨inner, hinner⟩ := hneg
      have hlt := length_rereadChildren_lt op hinner
      -- it is read as a negation, or as a junction of fewer conditions
      match hread : rereadChildren op children with
      | [c] =>
        obtain ⟨inner', rfl⟩ := negation_of_rereadChildren hread hlen
        rw [hread] at h
        cases h
      | [] =>
        rw [hread] at h
        obtain ⟨-, rfl⟩ := Condition.junction.inj h
        simp at hlen
      | first :: second :: rest =>
        rw [hread] at h hlt
        obtain ⟨-, rfl⟩ := Condition.junction.inj h
        exact absurd hlt (Nat.lt_irrefl _)
  | negation _ ih =>
    rw [reread] at h
    exact .negation (ih (Condition.negation.inj h))

/-- A condition is read as itself exactly when no junction of it has a negation among its children
before the last one. -/
theorem reread_eq_self_iff {c : Condition} {leaf : Operator → String → Value → Prop}
    (hformed : c.Formed leaf) : c.reread = c ↔ c.Settled :=
  ⟨settled_of_reread hformed, fun h => reread_of_settled h hformed⟩

end ProfileQuery.Query.Condition
