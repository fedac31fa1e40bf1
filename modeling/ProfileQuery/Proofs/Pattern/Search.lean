import Mathlib.Logic.Relation
import ProfileQuery.Pattern.Search

/-!
# What a search finds

`Marked.Describes` says which stretches of a text a marked pattern describes whatever its marks are,
and `Marked.Completes` where it can be complete when it has its marks at a place. A step over a
character moves the marks so that they lead to the same places as before, and to those that a start
in front of the character leads to (`Marked.completes_step`). So a search finds a pattern exactly
when the pattern describes some stretch of the text (`Pattern.foundIn_iff`).
-/

namespace ProfileQuery

open Relation (ReflTransGen)

/-! ## Rounds -/

/-- A number of rounds of a relation between places, one after another. -/
inductive Rounds (r : Nat → Nat → Prop) : Nat → Nat → Nat → Prop where
  | zero {i : Nat} : Rounds r 0 i i
  | succ {n i j k : Nat} (round : r i j) (rest : Rounds r n j k) : Rounds r (n + 1) i k

namespace Rounds

variable {r s : Nat → Nat → Prop} {m n i j k : Nat}

theorem one_iff : Rounds r 1 i j ↔ r i j := by
  constructor
  · rintro (_ | ⟨round, ⟨⟩⟩)
    exact round
  · exact fun h => .succ h .zero

theorem add_iff : Rounds r (m + n) i k ↔ ∃ j, Rounds r m i j ∧ Rounds r n j k := by
  induction m generalizing i with
  | zero =>
    rw [Nat.zero_add]
    constructor
    · exact fun h => ⟨i, .zero, h⟩
    · rintro ⟨j, ⟨⟩, h⟩
      exact h
  | succ m ih =>
    rw [Nat.succ_add]
    constructor
    · rintro (_ | ⟨round, rest⟩)
      obtain ⟨j, hfront, hback⟩ := ih.mp rest
      exact ⟨j, .succ round hfront, hback⟩
    · rintro ⟨j, _ | ⟨round, rest⟩, hback⟩
      exact .succ round (ih.mpr ⟨j, rest, hback⟩)

theorem le (h : Rounds r n i j) (hr : ∀ i j, r i j → i ≤ j) : i ≤ j := by
  induction h with
  | zero => exact Nat.le_refl _
  | succ round _ ih => exact Nat.le_trans (hr _ _ round) ih

/-- Any number of rounds. -/
theorem exists_iff : (∃ n, Rounds r n i j) ↔ ReflTransGen r i j := by
  constructor
  · rintro ⟨n, h⟩
    induction h with
    | zero => exact .refl
    | succ round _ ih => exact .head round ih
  · intro h
    induction h using ReflTransGen.head_induction_on with
    | refl => exact ⟨0, .zero⟩
    | head round _ ih =>
      obtain ⟨n, h⟩ := ih
      exact ⟨n + 1, .succ round h⟩

/-- Rounds each of which may be left out. -/
theorem optional_iff {last : Nat} (hr : ∀ i j, r i j → i ≤ j) (hj : j ≤ last) :
    Rounds (fun i j => r i j ∨ i = j ∧ j ≤ last) n i j ↔ ∃ m ≤ n, Rounds r m i j := by
  constructor
  · intro h
    induction h with
    | zero => exact ⟨0, Nat.le_refl _, .zero⟩
    | succ round _ ih =>
      obtain ⟨m, hm, rest⟩ := ih hj
      rcases round with round | ⟨rfl, -⟩
      · exact ⟨m + 1, Nat.succ_le_succ hm, .succ round rest⟩
      · exact ⟨m, Nat.le_succ_of_le hm, rest⟩
  · rintro ⟨m, hm, h⟩
    obtain ⟨d, rfl⟩ := Nat.exists_eq_add_of_le' hm
    refine add_iff.mpr ⟨i, ?_, ?_⟩
    · -- the rounds that are left out come first
      have hi : i ≤ last := Nat.le_trans (h.le hr) hj
      clear hm
      induction d with
      | zero => exact .zero
      | succ d ih => exact .succ (.inr ⟨rfl, hi⟩) ih
    · clear hm
      induction h with
      | zero => exact .zero
      | succ round _ ih => exact .succ (.inl round) (ih hj)

end Rounds

/-! ## Stretches -/

namespace Marked

open Pattern (gapAt)

variable {text : List Char} {m a b body : Marked} {i j k n : Nat} {c : Char}

/-- The stretches that a marked pattern describes, whatever its marks are. -/
def Describes (text : List Char) : Marked → Nat → Nat → Prop
  | nothing, i, j => i = j ∧ j ≤ text.length
  | one _ set, i, j => (∃ c, text[i]? = some c ∧ set.has c = true) ∧ j = i + 1
  | look condition, i, j => i = j ∧ j ≤ text.length ∧ condition.holds (gapAt text i) = true
  | next a b, i, k => ∃ j, a.Describes text i j ∧ b.Describes text j k
  | either a b, i, j => a.Describes text i j ∨ b.Describes text i j
  | many body, i, j => ReflTransGen (body.Describes text) i j ∧ j ≤ text.length

/-- Where a pattern can be complete that has its marks at a place. -/
def Completes (text : List Char) : Marked → Nat → Nat → Prop
  | nothing, _, _ | look _, _, _ => False
  | one marked _, i, j => marked = true ∧ i = j
  | next a b, i, k => (∃ j, a.Completes text i j ∧ b.Describes text j k) ∨ b.Completes text i k
  | either a b, i, j => a.Completes text i j ∨ b.Completes text i j
  | many body, i, k => ∃ j, body.Completes text i j ∧ (many body).Describes text j k

namespace Describes

theorem le (h : m.Describes text i j) : i ≤ j := by
  induction m generalizing i j with
  | nothing => exact Nat.le_of_eq h.1
  | one => exact h.2 ▸ Nat.le_succ i
  | look => exact Nat.le_of_eq h.1
  | next a b iha ihb =>
    obtain ⟨mid, hfirst, hsecond⟩ := h
    exact Nat.le_trans (iha hfirst) (ihb hsecond)
  | either a b iha ihb => exact h.elim iha ihb
  | many body ih =>
    obtain ⟨n, hrounds⟩ := Rounds.exists_iff.mpr h.1
    exact hrounds.le fun _ _ => ih

theorem le_length (h : m.Describes text i j) : j ≤ text.length := by
  induction m generalizing i j with
  | nothing => exact h.2
  | one =>
    obtain ⟨⟨c, hc, -⟩, rfl⟩ := h
    exact (List.getElem?_eq_some_iff.mp hc).1
  | look => exact h.2.1
  | next a b _ ihb =>
    obtain ⟨mid, -, hsecond⟩ := h
    exact ihb hsecond
  | either a b iha ihb => exact h.elim iha ihb
  | many body _ => exact h.2

end Describes

/-- Rounds that lead further have a first one that does. -/
theorem exists_first_round (h : ReflTransGen (body.Describes text) i k) (hlt : i < k) :
    ∃ j, i < j ∧ body.Describes text i j ∧ ReflTransGen (body.Describes text) j k := by
  induction h using ReflTransGen.head_induction_on with
  | refl => exact absurd hlt (Nat.lt_irrefl _)
  | @head i j round rest ih =>
    rcases Nat.eq_or_lt_of_le round.le with rfl | hij
    · exact ih hlt
    · exact ⟨j, hij, round, rest⟩

namespace Completes

theorem le (h : m.Completes text i j) : i ≤ j := by
  induction m generalizing j with
  | nothing | look => exact h.elim
  | one => exact Nat.le_of_eq h.2
  | next a b iha ihb =>
    rcases h with ⟨mid, hfirst, hsecond⟩ | h
    · exact Nat.le_trans (iha hfirst) hsecond.le
    · exact ihb h
  | either a b iha ihb => exact h.elim iha ihb
  | many body ih =>
    obtain ⟨mid, hround, hrest⟩ := h
    exact Nat.le_trans (ih hround) hrest.le

theorem le_length (h : m.Completes text i j) (hi : i ≤ text.length) : j ≤ text.length := by
  induction m generalizing j with
  | nothing | look => exact h.elim
  | one => exact h.2 ▸ hi
  | next a b _ ihb =>
    rcases h with ⟨mid, -, hsecond⟩ | h
    · exact hsecond.le_length
    · exact ihb h
  | either a b iha ihb => exact h.elim iha ihb
  | many body _ =>
    obtain ⟨mid, -, hrest⟩ := h
    exact hrest.le_length

end Completes

/-! ## What is seen at a place -/

theorem skips_iff (hi : i ≤ text.length) :
    m.skips (gapAt text i) = true ↔ m.Describes text i i := by
  induction m with
  | nothing => exact iff_of_true rfl ⟨rfl, hi⟩
  | one => simp [skips, Describes]
  | look condition => simp [skips, Describes, hi]
  | next a b iha ihb =>
    rw [skips, Bool.and_eq_true, iha, ihb]
    constructor
    · exact fun h => ⟨i, h⟩
    · rintro ⟨mid, hfirst, hsecond⟩
      obtain rfl := Nat.le_antisymm hfirst.le hsecond.le
      exact ⟨hfirst, hsecond⟩
  | either a b iha ihb => rw [skips, Bool.or_eq_true, iha, ihb, Describes]
  | many body _ => exact iff_of_true rfl ⟨.refl, hi⟩

theorem ends_iff (hi : i ≤ text.length) :
    m.ends (gapAt text i) = true ↔ m.Completes text i i := by
  induction m with
  | nothing | look => exact iff_of_false Bool.false_ne_true id
  | one marked set => exact (and_iff_left rfl).symm
  | next a b iha ihb =>
    rw [ends, Bool.or_eq_true, Bool.and_eq_true, iha, ihb, skips_iff hi, Completes]
    refine or_congr_left ⟨fun h => ⟨i, h⟩, ?_⟩
    rintro ⟨mid, hfirst, hsecond⟩
    obtain rfl := Nat.le_antisymm hfirst.le hsecond.le
    exact ⟨hfirst, hsecond⟩
  | either a b iha ihb => rw [ends, Bool.or_eq_true, iha, ihb, Completes]
  | many body ih =>
    rw [ends, ih, Completes]
    constructor
    · exact fun h => ⟨i, h, .refl, hi⟩
    · rintro ⟨mid, hround, hrest⟩
      obtain rfl := Nat.le_antisymm hround.le hrest.le
      exact hround

/-! ## One step -/

/-- A step changes the marks only. -/
theorem describes_step (gap : Gap) (c : Char) (fresh : Bool) (m : Marked) :
    (m.step gap c fresh).Describes text = m.Describes text := by
  induction m generalizing fresh with
  | nothing | look => rfl
  | one => rfl
  | next a b iha ihb | either a b iha ihb =>
    funext i j
    simp only [step, Describes, iha, ihb]
  | many body ih =>
    funext i j
    simp only [step, Describes, ih]

/-- Behind a character the marks lead to those places beyond it to which they led in front of it, or
to which the pattern leads if it may start there. -/
theorem completes_step (hc : text[i]? = some c) (fresh : Bool) :
    (m.step (gapAt text i) c fresh).Completes text (i + 1) k ↔
      i < k ∧ (m.Completes text i k ∨ fresh = true ∧ m.Describes text i k) := by
  have hi : i ≤ text.length := Nat.le_of_lt (List.getElem?_eq_some_iff.mp hc).1
  induction m generalizing fresh k with
  | nothing | look =>
    refine iff_of_false id ?_
    rintro ⟨hlt, hnone | ⟨-, rfl, -⟩⟩
    · exact hnone
    · exact Nat.lt_irrefl _ hlt
  | one marked set =>
    simp only [step, Completes, Describes, hc, Bool.and_eq_true, Option.some.injEq]
    constructor
    · rintro ⟨⟨hfresh, hset⟩, rfl⟩
      exact ⟨Nat.lt_succ_self i, .inr ⟨hfresh, ⟨c, rfl, hset⟩, rfl⟩⟩
    · rintro ⟨hlt, ⟨-, rfl⟩ | ⟨hfresh, ⟨_, rfl, hset⟩, rfl⟩⟩
      · exact absurd hlt (Nat.lt_irrefl _)
      · exact ⟨⟨hfresh, hset⟩, rfl⟩
  | next a b iha ihb =>
    simp only [step, Completes, iha, ihb, describes_step, Bool.or_eq_true, Bool.and_eq_true,
      skips_iff hi, ends_iff hi]
    constructor
    · rintro (⟨j, ⟨hij, h | ⟨hfresh, h⟩⟩, hb⟩ | ⟨hik, hb | ⟨⟨hfresh, ha⟩ | ha, hb⟩⟩)
      · exact ⟨Nat.lt_of_lt_of_le hij hb.le, .inl (.inl ⟨j, h, hb⟩)⟩
      · exact ⟨Nat.lt_of_lt_of_le hij hb.le, .inr ⟨hfresh, j, h, hb⟩⟩
      · exact ⟨hik, .inl (.inr hb)⟩
      · exact ⟨hik, .inr ⟨hfresh, i, ha, hb⟩⟩
      · exact ⟨hik, .inl (.inl ⟨i, ha, hb⟩)⟩
    · rintro ⟨hik, (⟨j, ha, hb⟩ | hb) | ⟨hfresh, j, ha, hb⟩⟩
      · rcases Nat.eq_or_lt_of_le ha.le with rfl | hij
        · exact .inr ⟨hik, .inr ⟨.inr ha, hb⟩⟩
        · exact .inl ⟨j, ⟨hij, .inl ha⟩, hb⟩
      · exact .inr ⟨hik, .inl hb⟩
      · rcases Nat.eq_or_lt_of_le ha.le with rfl | hij
        · exact .inr ⟨hik, .inr ⟨.inl ⟨hfresh, ha⟩, hb⟩⟩
        · exact .inl ⟨j, ⟨hij, .inr ⟨hfresh, ha⟩⟩, hb⟩
  | either a b iha ihb =>
    simp only [step, Completes, iha, ihb, Describes]
    rw [← and_or_left, or_or_or_comm, ← and_or_left]
  | many body ih =>
    simp only [step, Completes, ih, Describes, describes_step, Bool.or_eq_true, ends_iff hi]
    constructor
    · rintro ⟨j, ⟨hij, hstart⟩, hrest, hk⟩
      refine ⟨Nat.lt_of_lt_of_le hij (Describes.le (m := many body) ⟨hrest, hk⟩), ?_⟩
      rcases hstart with h | ⟨hfresh | hends, h⟩
      · exact .inl ⟨j, h, hrest, hk⟩
      · exact .inr ⟨hfresh, .head h hrest, hk⟩
      · exact .inl ⟨i, hends, .head h hrest, hk⟩
    · -- rounds that start at the place of the step are taken up at the first that leads further
      rintro ⟨hik, ⟨j, hends, hrest, hk⟩ | ⟨hfresh, hrest, hk⟩⟩
      · rcases Nat.eq_or_lt_of_le hends.le with rfl | hij
        · obtain ⟨j, hij, hround, hrest⟩ := exists_first_round hrest hik
          exact ⟨j, ⟨hij, .inr ⟨.inr hends, hround⟩⟩, hrest, hk⟩
        · exact ⟨j, ⟨hij, .inl hends⟩, hrest, hk⟩
      · obtain ⟨j, hij, hround, hrest⟩ := exists_first_round hrest hik
        exact ⟨j, ⟨hij, .inr ⟨.inl hfresh, hround⟩⟩, hrest, hk⟩

/-! ## The search -/

theorem gapAt_eq {before : Option Char} (hbefore : (gapAt text i).before = before) :
    gapAt text i = ⟨before, text[i]?⟩ := by
  rw [← hbefore]
  rfl

/-- A search from a place on finds what the pattern describes from there on, and what its marks can
complete. -/
theorem searchFrom_iff (hi : i ≤ text.length) :
    m.searchFrom (gapAt text i).before (text.drop i) = true ↔
      ∃ k, m.Completes text i k ∨ ∃ j, i ≤ j ∧ m.Describes text j k := by
  obtain ⟨before, hbefore⟩ : ∃ before, (gapAt text i).before = before := ⟨_, rfl⟩
  rw [hbefore]
  generalize hrest : text.drop i = rest
  induction rest generalizing i m before with
  | nil =>
    have hlength : i = text.length := by
      have := List.drop_eq_nil_iff.mp hrest
      omega
    have hgap : gapAt text i = ⟨before, none⟩ := by
      rw [gapAt_eq hbefore, List.getElem?_eq_none (by omega)]
    rw [searchFrom_nil, ← hgap, Bool.or_eq_true, skips_iff hi, ends_iff hi]
    constructor
    · rintro (h | h)
      · exact ⟨i, .inr ⟨i, Nat.le_refl i, h⟩⟩
      · exact ⟨i, .inl h⟩
    · rintro ⟨k, h | ⟨j, hij, h⟩⟩
      · obtain rfl : k = i := Nat.le_antisymm (hlength ▸ h.le_length hi) h.le
        exact .inr h
      · have hk := h.le_length
        have hjk := h.le
        obtain rfl : j = i := by omega
        obtain rfl : k = j := by omega
        exact .inl h
  | cons c rest ih =>
    have hc : text[i]? = some c := by
      rw [← List.head?_drop, hrest]
      rfl
    have hlt : i < text.length := (List.getElem?_eq_some_iff.mp hc).1
    have hgap : gapAt text i = ⟨before, some c⟩ := by rw [gapAt_eq hbefore, hc]
    have hsucc : (gapAt text (i + 1)).before = some c := hc
    have hdrop : text.drop (i + 1) = rest := by
      rw [← List.drop_drop, hrest]
      rfl
    rw [searchFrom_cons, ← hgap, Bool.or_eq_true, Bool.or_eq_true, ih hlt (some c) hsucc hdrop]
    simp only [completes_step hc, describes_step, skips_iff hi, ends_iff hi, true_and]
    constructor
    · rintro ((h | h) | ⟨k, ⟨-, h | h⟩ | ⟨j, hij, h⟩⟩)
      · exact ⟨i, .inr ⟨i, Nat.le_refl i, h⟩⟩
      · exact ⟨i, .inl h⟩
      · exact ⟨k, .inl h⟩
      · exact ⟨k, .inr ⟨i, Nat.le_refl i, h⟩⟩
      · exact ⟨k, .inr ⟨j, Nat.le_of_succ_le hij, h⟩⟩
    · rintro ⟨k, h | ⟨j, hij, h⟩⟩
      · rcases Nat.eq_or_lt_of_le h.le with rfl | hik
        · exact .inl (.inr h)
        · exact .inr ⟨k, .inl ⟨hik, .inl h⟩⟩
      · rcases Nat.eq_or_lt_of_le hij with rfl | hij
        · rcases Nat.eq_or_lt_of_le h.le with rfl | hik
          · exact .inl (.inl h)
          · exact .inr ⟨k, .inl ⟨hik, .inr h⟩⟩
        · exact .inr ⟨k, .inr ⟨j, hij, h⟩⟩

/-! ## Patterns without marks -/

theorem describes_power : (power body n).Describes text i j ↔
    Rounds (body.Describes text) n i j ∧ j ≤ text.length := by
  induction n using power.induct generalizing i j with
  | case1 =>
    rw [power, if_pos rfl, Describes]
    refine and_congr_left' ⟨?_, ?_⟩
    · rintro rfl
      exact .zero
    · rintro ⟨⟩
      rfl
  | case2 =>
    rw [power, if_neg Nat.one_ne_zero, if_pos rfl, Rounds.one_iff]
    exact (and_iff_left_of_imp Describes.le_length).symm
  | case3 n hzero hone ihfront ihback =>
    have hsplit : n / 2 + (n - n / 2) = n := by omega
    rw [power, if_neg hzero, if_neg hone, Describes]
    simp only [ihfront, ihback]
    rw [← hsplit, Rounds.add_iff, hsplit]
    constructor
    · rintro ⟨mid, ⟨hfront, -⟩, hback, hj⟩
      exact ⟨⟨mid, hfront, hback⟩, hj⟩
    · rintro ⟨⟨mid, hfront, hback⟩, hj⟩
      exact ⟨mid, ⟨hfront, Nat.le_trans (hback.le fun _ _ => Describes.le) hj⟩, hback, hj⟩

/-- A number of rounds, and something behind them. -/
theorem describes_next_power : (next (power a n) b).Describes text i k ↔
    ∃ j, Rounds (a.Describes text) n i j ∧ b.Describes text j k := by
  refine exists_congr fun j => and_congr_left fun hback => ?_
  exact describes_power.trans (and_iff_left (Nat.le_trans hback.le hback.le_length))

/-- Without marks there is nothing to complete. -/
def Unmarked (m : Marked) : Prop := ∀ text i k, ¬ m.Completes text i k

theorem Unmarked.next (ha : a.Unmarked) (hb : b.Unmarked) : (next a b).Unmarked := by
  rintro text i k (⟨j, h, -⟩ | h)
  · exact ha text i j h
  · exact hb text i k h

theorem Unmarked.either (ha : a.Unmarked) (hb : b.Unmarked) : (either a b).Unmarked :=
  fun text i k h => h.elim (ha text i k) (hb text i k)

theorem Unmarked.power (h : body.Unmarked) (n : Nat) : (power body n).Unmarked := by
  induction n using power.induct with
  | case1 =>
    rw [Marked.power, if_pos rfl]
    exact fun _ _ _ => id
  | case2 =>
    rw [Marked.power, if_neg Nat.one_ne_zero, if_pos rfl]
    exact h
  | case3 n hzero hone ihfront ihback =>
    rw [Marked.power, if_neg hzero, if_neg hone]
    exact ihfront.next ihback

theorem unmarked_ofPattern (p : Pattern) : (ofPattern p).Unmarked := by
  have hnothing : nothing.Unmarked := fun _ _ _ => id
  have hone : ∀ set, (one false set).Unmarked := fun _ _ _ _ h => Bool.false_ne_true h.1
  induction p with
  | nothing => exact hnothing
  | look => exact fun _ _ _ => id
  | one set => exact hone set
  | next a b iha ihb => exact iha.next ihb
  | either a b iha ihb => exact iha.either ihb
  | times body least most ih =>
    cases most with
    | none =>
      refine (ih.power least).next ?_
      rintro text i k ⟨j, h, -⟩
      exact ih text i j h
    | some most =>
      rw [ofPattern]
      split
      · exact hone .empty
      · exact (ih.power least).next ((ih.either hnothing).power _)

end Marked

/-! ## Patterns -/

namespace Pattern

open Marked (ofPattern Describes)

variable {text : List Char} {p body : Pattern} {i j k : Nat}

theorem Matches.le_length (h : Matches text p i j) : j ≤ text.length := by
  induction h with
  | nothing hi => exact hi
  | one hc _ => exact (List.getElem?_eq_some_iff.mp hc).1
  | look hi _ => exact hi
  | next _ _ _ ih => exact ih
  | first _ ih => exact ih
  | second _ ih => exact ih
  | stop hi => exact hi
  | repeatOnce _ _ _ _ ih => exact ih

/-- A repetition consists of an allowed number of rounds. -/
theorem matches_times_iff {least : Nat} {most : Option Nat} :
    Matches text (.times body least most) i k ↔
      (∃ n, least ≤ n ∧ (∀ bound ∈ most, n ≤ bound) ∧ Rounds (Matches text body) n i k) ∧
        k ≤ text.length := by
  constructor
  · intro h
    refine ⟨?_, h.le_length⟩
    generalize htimes : Pattern.times body least most = p at h
    induction h generalizing least most with
    | stop hi =>
      obtain ⟨rfl, rfl, rfl⟩ := Pattern.times.inj htimes
      exact ⟨0, Nat.le_refl 0, fun bound _ => Nat.zero_le bound, .zero⟩
    | repeatOnce hmost hround _ _ ih =>
      obtain ⟨rfl, rfl, rfl⟩ := Pattern.times.inj htimes
      obtain ⟨n, hleast, hbound, hrounds⟩ := ih rfl
      refine ⟨n + 1, by omega, ?_, .succ hround hrounds⟩
      rintro bound rfl
      have hn := hbound (bound - 1) rfl
      have hpos : bound ≠ 0 := fun hzero => hmost (congrArg some hzero)
      omega
    | _ => cases htimes
  · rintro ⟨⟨n, hleast, hbound, hrounds⟩, hk⟩
    induction hrounds generalizing least most with
    | zero =>
      obtain rfl := Nat.le_zero.mp hleast
      exact .stop hk
    | @succ n i j k hround _ ih =>
      refine .repeatOnce ?_ hround (ih hk (by omega) ?_)
      · rintro rfl
        exact absurd (hbound 0 rfl) (Nat.not_succ_le_zero n)
      · intro bound hmem
        obtain ⟨most, hmost, rfl⟩ := Option.map_eq_some_iff.mp hmem
        have := hbound most hmost
        omega

theorem describes_ofPattern : (ofPattern p).Describes text i j ↔ Matches text p i j := by
  induction p generalizing i j with
  | nothing =>
    constructor
    · rintro ⟨rfl, hi⟩
      exact .nothing hi
    · rintro ⟨hi⟩
      exact ⟨rfl, ‹_›⟩
  | one set =>
    constructor
    · rintro ⟨⟨c, hc, hset⟩, rfl⟩
      exact .one hc hset
    · rintro (_ | ⟨hc, hset⟩)
      exact ⟨⟨_, hc, hset⟩, rfl⟩
  | look condition =>
    constructor
    · rintro ⟨rfl, hi, hholds⟩
      exact .look hi hholds
    · rintro (_ | _ | ⟨hi, hholds⟩)
      exact ⟨rfl, hi, hholds⟩
  | next a b iha ihb =>
    constructor
    · rintro ⟨mid, hfirst, hsecond⟩
      exact .next (iha.mp hfirst) (ihb.mp hsecond)
    · intro h
      cases h with
      | next hfirst hsecond => exact ⟨_, iha.mpr hfirst, ihb.mpr hsecond⟩
  | either a b iha ihb =>
    constructor
    · rintro (h | h)
      · exact .first (iha.mp h)
      · exact .second (ihb.mp h)
    · intro h
      cases h with
      | first h => exact .inl (iha.mpr h)
      | second h => exact .inr (ihb.mpr h)
  | times body least most ih =>
    have hbody : (ofPattern body).Describes text = Matches text body := by
      funext i j
      exact propext ih
    rw [matches_times_iff, ← hbody]
    cases most with
    | none =>
      rw [ofPattern, Marked.describes_next_power]
      constructor
      · rintro ⟨mid, hfront, hback, hj⟩
        obtain ⟨n, hback⟩ := Rounds.exists_iff.mpr hback
        exact ⟨⟨least + n, Nat.le_add_right .., nofun, Rounds.add_iff.mpr ⟨mid, hfront, hback⟩⟩, hj⟩
      · rintro ⟨⟨n, hleast, -, hrounds⟩, hj⟩
        obtain ⟨d, rfl⟩ := Nat.exists_eq_add_of_le hleast
        obtain ⟨mid, hfront, hback⟩ := Rounds.add_iff.mp hrounds
        exact ⟨mid, hfront, Rounds.exists_iff.mp ⟨d, hback⟩, hj⟩
    | some most =>
      have hle : ∀ i j, (ofPattern body).Describes text i j → i ≤ j := fun _ _ => Describes.le
      rw [ofPattern]
      split
      · next hlt =>
        refine iff_of_false ?_ ?_
        · rintro ⟨⟨c, -, hc⟩, -⟩
          simp [Unicode.CodeSet.has, Unicode.CodeSet.contains, Unicode.CodeSet.search,
            Unicode.CodeSet.empty] at hc
        · rintro ⟨⟨n, hleast, hmost, -⟩, -⟩
          have := hmost most rfl
          omega
      · next hge =>
        rw [Marked.describes_next_power]
        simp only [Marked.describes_power]
        constructor
        · rintro ⟨mid, hfront, hback, hj⟩
          obtain ⟨d, hd, hback⟩ := (Rounds.optional_iff hle hj).mp hback
          refine ⟨⟨least + d, Nat.le_add_right .., ?_, Rounds.add_iff.mpr ⟨mid, hfront, hback⟩⟩, hj⟩
          rintro bound ⟨⟩
          omega
        · rintro ⟨⟨n, hleast, hmost, hrounds⟩, hj⟩
          obtain ⟨d, rfl⟩ := Nat.exists_eq_add_of_le hleast
          obtain ⟨mid, hfront, hback⟩ := Rounds.add_iff.mp hrounds
          have hn := hmost most rfl
          exact ⟨mid, hfront, (Rounds.optional_iff hle hj).mpr ⟨d, by omega, hback⟩, hj⟩

/-- A pattern is found in a text exactly when it describes some stretch of it. -/
theorem foundIn_iff : p.foundIn text = true ↔ ∃ i j, Matches text p i j := by
  have hsearch := Marked.searchFrom_iff (m := ofPattern p) (Nat.zero_le text.length)
  refine hsearch.trans ⟨?_, ?_⟩
  · rintro ⟨k, h | ⟨j, -, h⟩⟩
    · exact absurd h (Marked.unmarked_ofPattern p text 0 k)
    · exact ⟨j, k, describes_ofPattern.mp h⟩
  · rintro ⟨j, k, h⟩
    exact ⟨k, .inr ⟨j, Nat.zero_le j, describes_ofPattern.mpr h⟩⟩

end Pattern

end ProfileQuery
