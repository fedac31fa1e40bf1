import Mathlib.Data.List.Forall2

/-!
# Outcomes

Computations that end in a value or in an error, taken apart: a sequence of two succeeds exactly
when both do, and a list is worked through successfully exactly when each of its elements is. Where a
state is kept too, the second one starts in what the first one has left. Two computations are compared
by `Both`: they fail alike, or their results are related.
-/

namespace ProfileQuery.Outcome

variable {ε α β : Type}

theorem bind_eq_ok {x : Except ε α} {f : α → Except ε β} {b : β} :
    (x >>= f) = .ok b ↔ ∃ a, x = .ok a ∧ f a = .ok b := by
  cases x with
  | error e => simp [bind, Except.bind]
  | ok a => simp [bind, Except.bind]

theorem bind_eq_error {x : Except ε α} {f : α → Except ε β} {e : ε} :
    (x >>= f) = .error e ↔ x = .error e ∨ ∃ a, x = .ok a ∧ f a = .error e := by
  cases x with
  | error e' => simp [bind, Except.bind]
  | ok a => simp [bind, Except.bind]

theorem bind_ok (a : α) (f : α → Except ε β) : ((Except.ok a : Except ε α) >>= f) = f a := rfl

theorem bind_error (e : ε) (f : α → Except ε β) :
    ((Except.error e : Except ε α) >>= f) = .error e := rfl

theorem exists_of_isOk {x : Except ε α} (h : x.isOk = true) : ∃ a, x = .ok a := by
  cases x with
  | error e => exact nomatch h
  | ok a => exact ⟨a, rfl⟩

theorem map_eq_ok {x : Except ε α} {f : α → β} {b : β} :
    x.map f = .ok b ↔ ∃ a, x = .ok a ∧ f a = b := by
  cases x with
  | error e => simp [Except.map]
  | ok a => simp [Except.map]

/-- A list is worked through successfully exactly when each element is, with the results in order.
-/
theorem mapM_eq_ok {f : α → Except ε β} {xs : List α} {ys : List β} :
    xs.mapM f = .ok ys ↔ List.Forall₂ (fun x y => f x = .ok y) xs ys := by
  induction xs generalizing ys with
  | nil => simp [pure, Except.pure, eq_comm]
  | cons x xs ih =>
    rw [List.mapM_cons, bind_eq_ok]
    constructor
    · rintro ⟨y, hy, hrest⟩
      obtain ⟨zs, hzs, heq⟩ := bind_eq_ok.mp hrest
      obtain rfl : y :: zs = ys := Except.ok.inj heq
      exact .cons hy (ih.mp hzs)
    · intro h
      cases h with
      | cons hy hrest => exact ⟨_, hy, by rw [ih.mpr hrest]; rfl⟩

/-- When every element has a result, the list of the results is found. -/
theorem mapM_ok_of_forall {f : α → Except ε β} {g : α → β} {xs : List α}
    (h : ∀ x ∈ xs, f x = .ok (g x)) : xs.mapM f = .ok (xs.map g) := by
  rw [mapM_eq_ok, List.forall₂_map_right_iff, List.forall₂_same]
  exact h

/-- Where a list was worked through, each of its elements has a result. -/
theorem ok_of_mapM {f : α → Except ε β} {xs : List α} {ys : List β} (h : xs.mapM f = .ok ys)
    {x : α} (hx : x ∈ xs) : ∃ y ∈ ys, f x = .ok y := by
  have both := mapM_eq_ok.mp h
  clear h
  induction both with
  | nil => simp at hx
  | cons hy _ ih =>
    rcases List.mem_cons.mp hx with rfl | hmem
    · exact ⟨_, List.mem_cons_self, hy⟩
    · obtain ⟨y, hmem, heq⟩ := ih hmem
      exact ⟨y, List.mem_cons_of_mem _ hmem, heq⟩

/-- Where a list was worked through, each of the results is that of an element. -/
theorem mem_of_mapM {f : α → Except ε β} {xs : List α} {ys : List β} (h : xs.mapM f = .ok ys)
    {y : β} (hy : y ∈ ys) : ∃ x ∈ xs, f x = .ok y := by
  have both := mapM_eq_ok.mp h
  clear h
  induction both with
  | nil => cases hy
  | cons hx _ ih =>
    rcases List.mem_cons.mp hy with rfl | hmem
    · exact ⟨_, List.mem_cons_self, hx⟩
    · obtain ⟨x, hmem, heq⟩ := ih hmem
      exact ⟨x, List.mem_cons_of_mem _ hmem, heq⟩

/-- A list is worked through successfully exactly when each of its elements has a result. -/
theorem exists_mapM_iff {f : α → Except ε β} {xs : List α} :
    (∃ ys, xs.mapM f = .ok ys) ↔ ∀ x ∈ xs, ∃ y, f x = .ok y := by
  constructor
  · rintro ⟨ys, hys⟩ x hx
    obtain ⟨y, -, hy⟩ := ok_of_mapM hys hx
    exact ⟨y, hy⟩
  · intro h
    induction xs with
    | nil => exact ⟨[], rfl⟩
    | cons x xs ih =>
      obtain ⟨y, hy⟩ := h x List.mem_cons_self
      obtain ⟨ys, hys⟩ := ih fun x hx => h x (List.mem_cons_of_mem _ hx)
      exact ⟨y :: ys, mapM_eq_ok.mpr (.cons hy (mapM_eq_ok.mp hys))⟩

/-! ## Errors -/

/-- Whether a computation, if it fails, does so with an error of a class. -/
def FailsOnly (P : ε → Prop) (x : Except ε α) : Prop :=
  ∀ e, x = .error e → P e

section

variable {P : ε → Prop} {x : Except ε α}

theorem FailsOnly.ok (a : α) : FailsOnly P (.ok a) := by
  intro e h
  cases h

theorem FailsOnly.error {e : ε} (h : P e) : FailsOnly (α := α) P (.error e) := by
  intro e' h'
  obtain rfl := Except.error.inj h'
  exact h

theorem FailsOnly.mono {Q : ε → Prop} (h : FailsOnly P x) (himp : ∀ e, P e → Q e) :
    FailsOnly Q x :=
  fun e he => himp e (h e he)

theorem FailsOnly.bind {f : α → Except ε β} (h : FailsOnly P x)
    (hrest : ∀ a, x = .ok a → FailsOnly P (f a)) : FailsOnly P (x >>= f) := by
  cases x with
  | error e => exact .error (h e rfl)
  | ok a => exact hrest a rfl

theorem FailsOnly.mapM {f : α → Except ε β} {xs : List α} (h : ∀ x ∈ xs, FailsOnly P (f x)) :
    FailsOnly P (xs.mapM f) := by
  induction xs with
  | nil => exact .ok []
  | cons x xs ih =>
    obtain ⟨hx, hxs⟩ := List.forall_mem_cons.mp h
    rw [List.mapM_cons]
    exact hx.bind fun y _ => (ih hxs).bind fun ys _ => .ok _

theorem FailsOnly.foldlM {f : β → α → Except ε β} {xs : List α}
    (h : ∀ b, ∀ x ∈ xs, FailsOnly P (f b x)) (b : β) : FailsOnly P (xs.foldlM f b) := by
  induction xs generalizing b with
  | nil => exact .ok b
  | cons x xs ih =>
    rw [List.foldlM_cons]
    exact (h b x List.mem_cons_self).bind fun b' _ =>
      ih (fun b x hx => h b x (List.mem_cons_of_mem _ hx)) b'

end

/-- Why a computation fails, if it does. -/
def fault? : Except ε α → Option ε
  | .ok _ => none
  | .error e => some e

/-- A list fails as the first of its elements that does. -/
theorem fault?_mapM (f : α → Except ε β) (xs : List α) :
    fault? (xs.mapM f) = xs.findSome? fun x => fault? (f x) := by
  induction xs with
  | nil => rfl
  | cons x xs ih =>
    rw [List.mapM_cons, List.findSome?_cons, ← ih]
    cases f x with
    | error e => rfl
    | ok y =>
      rw [bind_ok]
      cases xs.mapM f <;> rfl

/-! ## Computations with a state -/

/-- The next part of a computation starts in the state that the first part has left, unless the first
part fails. -/
theorem run_bind {σ : Type} (x : ExceptT ε (StateM σ) α) (next : α → ExceptT ε (StateM σ) β)
    (start : σ) : (x >>= next).run.run start = match x.run.run start with
      | (.ok a, mid) => (next a).run.run mid
      | (.error e, mid) => (.error e, mid) := by
  simp only [ExceptT.run, StateT.run, bind, ExceptT.bind, ExceptT.mk, StateT.bind, ExceptT.bindCont]
  cases x start with
  | mk outcome mid => cases outcome <;> rfl

/-! ## Two computations -/

/-- Two computations that fail with the same error, or both succeed, with related results. -/
inductive Both (R : α → β → Prop) : Except ε α → Except ε β → Prop where
  | error (e : ε) : Both R (.error e) (.error e)
  | ok {a : α} {b : β} (h : R a b) : Both R (.ok a) (.ok b)

variable {α' β' : Type} {R : α → α' → Prop} {S : β → β' → Prop} {x : Except ε α} {y : Except ε α'}

/-- Sequences go together when their parts do. -/
theorem Both.bind {f : α → Except ε β} {g : α' → Except ε β'} (h : Both R x y)
    (hrest : ∀ a b, R a b → Both S (f a) (g b)) : Both S (x >>= f) (y >>= g) := by
  cases h with
  | error e => exact .error e
  | ok hab => exact hrest _ _ hab

/-- A computation goes together with itself. -/
theorem Both.refl (x : Except ε α) : Both Eq x x := by
  cases x with
  | error e => exact .error e
  | ok a => exact .ok rfl

theorem Both.mono {R' : α → α' → Prop} (h : Both R x y)
    (himp : ∀ a b, x = .ok a → y = .ok b → R a b → R' a b) : Both R' x y := by
  cases h with
  | error e => exact .error e
  | ok hab => exact .ok (himp _ _ rfl rfl hab)

theorem Both.exists_ok {a : α} (h : Both R x y) (hx : x = .ok a) : ∃ b, y = .ok b ∧ R a b := by
  subst hx
  cases h with
  | ok hab => exact ⟨_, rfl, hab⟩

end ProfileQuery.Outcome
