import Mathlib
import ProfileQuery.Proofs.Pattern.Search
import ProfileQuery.Proofs.Selection.Filter

/-!
# What conditions mean

What a comparison asks is said of values themselves (`Operator.Accepts`): they are ordered within
their type only (`Value.Below`), a missing value equals nothing and is searched for nothing, and a
pattern is found in a text when it describes some stretch of it (`Pattern.Matches`). The meaning of
a condition follows by recursion over its tree (`Condition.Holds`). Main statement: a condition
compiles exactly when each of its comparisons can be carried out, else the first one from the left
that cannot gives the error; and the test that it is compiled to has its meaning, for rows of any
length (`Filter.compile_means`).
-/

namespace ProfileQuery

open Calendar (DateTime)

/-! ## Values -/

/-- The numbers of a moment, from the year down to the nanoseconds. -/
def Calendar.DateTime.numbers (d : DateTime) : List Int :=
  [d.date.year, d.date.month, d.date.day, d.time.hour, d.time.minute, d.time.second, d.time.nanos]

namespace Value

/-- The order of the values of one type: integers by size, texts by their code points and dates by
their numbers, from the left. -/
inductive Below : Value → Value → Prop
  | integer {m n : Int64} : m.toInt < n.toInt → Below (.integer m) (.integer n)
  | text {s t : String} :
      s.toList.map Char.toNat < t.toList.map Char.toNat → Below (.text s) (.text t)
  | date {d e : DateTime} : d.numbers < e.numbers → Below (.date d) (.date e)

/-- Whether two values are the same. A missing value is the same as none, also as no missing one. -/
def Same (a b : Value) : Prop := a ≠ .null ∧ a = b

/-- The type of a value that is there. -/
def type? : Value → Option DataType
  | .null => none
  | .integer _ => some .integer
  | .text _ => some .string
  | .date _ => some .date

/-- The text in which patterns are searched for: a text itself, and of other values the one that is
displayed. -/
def searched? : Value → Option String
  | .null => none
  | .text s => some s
  | value => some value.render

/-- Whether a literal is a pattern that describes some stretch of the text of a value. -/
def FoundIn (literal value : Value) : Prop :=
  ∃ source p text, literal = .text source ∧ Pattern.ofText source = .ok p ∧
    value.searched? = some text ∧ ∃ i j, Pattern.Matches text.toList p i j

end Value

/-! ## Comparisons and conditions -/

namespace Query

/-- What an operator asks of a value and a literal. -/
def Operator.Accepts (op : Operator) (value literal : Value) : Prop :=
  match op with
  | .equal => value.Same literal
  | .notEqual => ¬ value.Same literal
  | .less => value.Below literal
  | .lessEqual => value.Below literal ∨ value.Same literal
  | .greater => literal.Below value
  | .greaterEqual => literal.Below value ∨ value.Same literal
  | .matched => literal.FoundIn value
  | .notMatched => ¬ literal.FoundIn value

namespace Condition

mutual

/-- The meaning of a condition when each column has the value that `read` gives. -/
def Holds (read : String → Value) : Condition → Prop
  | comparison op column literal => op.Accepts (read column) literal
  | junction .and children => AllHold read children
  | junction .or children => SomeHolds read children
  | negation child => ¬ child.Holds read

/-- Whether all of several conditions hold. -/
def AllHold (read : String → Value) : List Condition → Prop
  | [] => True
  | child :: children => child.Holds read ∧ AllHold read children

/-- Whether some of several conditions holds. -/
def SomeHolds (read : String → Value) : List Condition → Prop
  | [] => False
  | child :: children => child.Holds read ∨ SomeHolds read children

end

end Condition

end Query

/-! ## The order of values -/

theorem Calendar.DateTime.compare_eq_lt {d e : DateTime} :
    d.compare e = .lt ↔ d.numbers < e.numbers := by
  simp only [DateTime.compare, Date.compare, TimeOfDay.compare, DateTime.numbers,
    Ordering.then_eq_lt, Ordering.then_eq_eq, compare_lt_iff_lt, compare_eq_iff_eq,
    List.cons_lt_cons_iff, Nat.cast_lt, Nat.cast_inj, List.not_lt_nil, and_false, or_false]
  tauto

theorem Calendar.DateTime.compare_swap (d e : DateTime) : (d.compare e).swap = e.compare d := by
  simp only [DateTime.compare, Date.compare, TimeOfDay.compare, Ordering.swap_then,
    ← Std.OrientedOrd.eq_swap]

theorem Calendar.DateTime.compare_eq_eq {d e : DateTime} : d.compare e = .eq ↔ d = e := by
  obtain ⟨⟨_, _, _, _, _⟩, ⟨_, _, _, _, _, _⟩⟩ := d
  obtain ⟨⟨_, _, _, _, _⟩, ⟨_, _, _, _, _, _⟩⟩ := e
  simp only [DateTime.compare, Date.compare, TimeOfDay.compare, Ordering.then_eq_eq,
    compare_eq_iff_eq, DateTime.mk.injEq, Date.mk.injEq, TimeOfDay.mk.injEq]

/-- Texts are in the order of their code points. -/
theorem lt_iff_codePoints_lt {s t : String} :
    s < t ↔ s.toList.map Char.toNat < t.toList.map Char.toNat := by
  have chars : ∀ cs ds : List Char, cs < ds ↔ cs.map Char.toNat < ds.map Char.toNat := by
    intro cs
    induction cs with
    | nil => intro ds; cases ds <;> simp
    | cons c cs ih =>
      intro ds
      cases ds with
      | nil => simp
      | cons d ds =>
        have heq : c = d ↔ c.toNat = d.toNat := Char.toNat_inj.symm
        have hlt : c < d ↔ c.toNat < d.toNat := Iff.rfl
        rw [List.map_cons, List.map_cons, List.cons_lt_cons_iff, List.cons_lt_cons_iff, heq, hlt,
          ih]
  rw [String.lt_iff_toList_lt, chars]

namespace Value

/-- The order by which values are compared, of which none is missing. -/
def order? (a b : Value) : Option Ordering :=
  if a.isNull || b.isNull then none else a.compare? b

theorem order?_eq_lt {a b : Value} : a.order? b = some .lt ↔ a.Below b := by
  constructor
  · intro h
    cases a <;> cases b <;> simp only [order?, isNull, compare?, reduceCtorEq, Bool.or_self,
      Bool.or_true, Bool.or_false, Bool.false_eq_true, if_true, if_false, Option.some.injEq] at h
    · exact .integer (compare_lt_iff_lt.mp h)
    · exact .text (lt_iff_codePoints_lt.mp (compare_lt_iff_lt.mp h))
    · exact .date (Calendar.DateTime.compare_eq_lt.mp h)
  · rintro (h | h | h)
    · exact congrArg some (compare_lt_iff_lt.mpr h)
    · exact congrArg some (compare_lt_iff_lt.mpr (lt_iff_codePoints_lt.mpr h))
    · exact congrArg some (Calendar.DateTime.compare_eq_lt.mpr h)

theorem order?_swap (a b : Value) : (a.order? b).map Ordering.swap = b.order? a := by
  cases a <;> cases b <;>
    simp [order?, isNull, compare?, ← Std.OrientedOrd.eq_swap, Calendar.DateTime.compare_swap]

theorem order?_eq_gt {a b : Value} : a.order? b = some .gt ↔ b.Below a := by
  rw [← order?_swap b a, Option.map_eq_some_iff, ← order?_eq_lt]
  simp [Ordering.swap_eq_gt]

theorem order?_eq_eq {a b : Value} : a.order? b = some .eq ↔ a.Same b := by
  cases a <;> cases b <;>
    simp [order?, isNull, compare?, Same, Int64.toInt_inj, Calendar.DateTime.compare_eq_eq]

/-- No value is before one of another type. -/
theorem Below.type?_eq {a b : Value} (h : a.Below b) : a.type? = b.type? := by
  cases h <;> rfl

theorem Below.ne_null {a b : Value} (h : a.Below b) : a ≠ .null ∧ b ≠ .null := by
  cases h <;> exact ⟨nofun, nofun⟩

end Value

/-! ## What an operator asks -/

namespace Query.Operator

/-- A missing value is different from every literal, and no pattern is found in it; nothing else can
be said of it. -/
theorem accepts_null {op : Operator} {literal : Value} :
    op.Accepts .null literal ↔ op = .notEqual ∨ op = .notMatched := by
  have hbelow : ¬ Value.Below .null literal := fun h => h.ne_null.1 rfl
  have habove : ¬ literal.Below .null := fun h => h.ne_null.2 rfl
  have hsame : ¬ Value.Same .null literal := fun h => h.1 rfl
  have hfound : ¬ literal.FoundIn .null := by
    rintro ⟨source, p, text, -, -, hnone, -⟩
    cases hnone
  cases op <;> simp [Accepts, hbelow, habove, hsame, hfound]

/-- Values of different types are different, and nothing else. -/
theorem accepts_of_type?_ne {op : Operator} {value literal : Value} (hop : op.isPattern = false)
    (htypes : value.type? ≠ literal.type?) : op.Accepts value literal ↔ op = .notEqual := by
  have hbelow : ¬ value.Below literal := fun h => htypes h.type?_eq
  have habove : ¬ literal.Below value := fun h => htypes h.type?_eq.symm
  have hsame : ¬ value.Same literal := fun h => htypes (congrArg Value.type? h.2)
  cases op with
  | matched | notMatched => cases hop
  | _ => simp [Accepts, hbelow, habove, hsame]

end Query.Operator

namespace Filter

open Query (Comparison Condition Operator)

theorem holds_iff_accepts {op : Operator} (hop : op.isPattern = false) (value literal : Value) :
    holds op value literal = true ↔ op.Accepts value literal := by
  have hlt : (value.order? literal == some .lt) = true ↔ value.Below literal :=
    beq_iff_eq.trans Value.order?_eq_lt
  have hgt : (value.order? literal == some .gt) = true ↔ literal.Below value :=
    beq_iff_eq.trans Value.order?_eq_gt
  have heq : (value.order? literal == some .eq) = true ↔ value.Same literal :=
    beq_iff_eq.trans Value.order?_eq_eq
  cases op with
  | equal => exact heq
  | notEqual => exact bne_iff_ne.trans (not_congr Value.order?_eq_eq)
  | less => exact hlt
  | lessEqual => exact (Bool.or_eq_true_iff ..).trans (or_congr hlt heq)
  | greater => exact hgt
  | greaterEqual => exact (Bool.or_eq_true_iff ..).trans (or_congr hgt heq)
  | matched | notMatched => cases hop

theorem found_iff {p : Pattern} {value : Value} :
    found p value = true ↔
      ∃ text, value.searched? = some text ∧ ∃ i j, Pattern.Matches text.toList p i j := by
  cases value <;> simp [found, Value.searched?, Value.render, Pattern.foundIn_iff]

/-- A comparison is true of a value when the value is as its operator asks, if its literal can be
read. -/
theorem test_iff_accepts {leaf : Comparison} (h : Readable leaf) (value : Value) :
    leaf.op.test value leaf.literal = true ↔ leaf.op.Accepts value leaf.literal := by
  obtain ⟨op, column, literal⟩ := leaf
  cases hop : op.isPattern with
  | false => simp [Operator.test, hop, holds_iff_accepts hop]
  | true =>
    obtain ⟨source, p, rfl, hp⟩ := h hop
    have hfound : found p value = true ↔ (Value.text source).FoundIn value := by
      rw [found_iff]
      constructor
      · rintro ⟨text, htext, hin⟩
        exact ⟨source, p, text, rfl, hp, htext, hin⟩
      · rintro ⟨_, q, text, ⟨⟩, hq, htext, hin⟩
        obtain rfl := Except.ok.inj (hp.symm.trans hq)
        exact ⟨text, htext, hin⟩
    have htest : op.test value (.text source) = (found p value != (op == .notMatched)) := by
      simp only [Operator.test, hop, if_true, literalPattern, hp]
    rw [htest]
    cases op with
    | matched =>
      have hop : (Operator.matched == .notMatched) = false := rfl
      rw [hop, Bool.bne_false]
      exact hfound
    | notMatched => simpa [Operator.Accepts] using not_congr hfound
    | _ => cases hop

/-! ## The meaning of a compiled condition -/

section Reading

variable {read : String → Value}

mutual

theorem eval_iff_holds : ∀ c : Condition, (∀ leaf ∈ c.leaves, Readable leaf) →
    (c.eval read = true ↔ c.Holds read)
  | .comparison op column literal, h => by
    rw [Condition.eval, Condition.Holds]
    exact test_iff_accepts (h ⟨op, column, literal⟩ (List.mem_singleton_self _)) (read column)
  | .junction .and children, h => by
    rw [Condition.eval, Condition.Holds]
    exact all_iff_allHold children h
  | .junction .or children, h => by
    rw [Condition.eval, Condition.Holds]
    exact any_iff_someHolds children h
  | .negation child, h => by
    rw [Condition.eval, Condition.Holds, Bool.not_eq_true', ← eval_iff_holds child h,
      Bool.not_eq_true]

theorem all_iff_allHold : ∀ cs : List Condition, (∀ leaf ∈ Condition.leavesOf cs, Readable leaf) →
    ((Condition.evalEach read cs).all id = true ↔ Condition.AllHold read cs)
  | [], _ => by simp [Condition.evalEach, Condition.AllHold]
  | child :: children, h => by
    rw [Condition.leavesOf, List.forall_mem_append] at h
    rw [Condition.evalEach, Condition.AllHold, List.all_cons, Bool.and_eq_true, id,
      eval_iff_holds child h.1, all_iff_allHold children h.2]

theorem any_iff_someHolds : ∀ cs : List Condition,
    (∀ leaf ∈ Condition.leavesOf cs, Readable leaf) →
    ((Condition.evalEach read cs).any id = true ↔ Condition.SomeHolds read cs)
  | [], _ => by simp [Condition.evalEach, Condition.SomeHolds]
  | child :: children, h => by
    rw [Condition.leavesOf, List.forall_mem_append] at h
    rw [Condition.evalEach, Condition.SomeHolds, List.any_cons, Bool.or_eq_true, id,
      eval_iff_holds child h.1, any_iff_someHolds children h.2]

end

end Reading

theorem readRow_eq (ix : NameIndex) (row : Row) :
    readRow ix row = fun column => ((ix.find? column).bind (row[·]?)).getD .null := by
  funext column
  cases h : ix.find? column <;> simp [readRow, cell, h]

/-- What compiling a condition gives. It succeeds exactly when every comparison can be carried out,
and else the first comparison from the left that cannot be gives the error, whatever it is part of.
The test has the meaning of the condition on every row, of any length, where a column without a cell
is missing. Of a missing value only a difference is true, and of values of different types too. -/
theorem compile_means (ix : NameIndex) (c : Condition) :
    ((∃ test, compile ix c = .ok test) ↔ ∀ leaf ∈ c.leaves, Performable ix leaf) ∧
    (∀ e, compile ix c = .error e ↔ ∃ before leaf after, c.leaves = before ++ leaf :: after ∧
      (∀ earlier ∈ before, Performable ix earlier) ∧ Faulty ix leaf e) ∧
    (∀ test, compile ix c = .ok test → ∀ row : Row,
      test row = true ↔ c.Holds fun column => ((ix.find? column).bind (row[·]?)).getD .null) ∧
    (∀ (op : Operator) (literal : Value),
      op.Accepts .null literal ↔ op = .notEqual ∨ op = .notMatched) ∧
    (∀ (op : Operator) (value literal : Value), op.isPattern = false →
      value.type? ≠ literal.type? → (op.Accepts value literal ↔ op = .notEqual)) := by
  refine ⟨exists_compile_iff, fun _ => compile_eq_error, fun test htest row => ?_,
    fun _ _ => Operator.accepts_null, fun _ _ _ => Operator.accepts_of_type?_ne⟩
  have hleaves := exists_compile_iff.mp ⟨test, htest⟩
  rw [eval_of_compile htest, ← readRow_eq]
  exact eval_iff_holds c fun leaf hleaf => (hleaves leaf hleaf).readable

/-- A fault is found also where an empty conjunction decides, and a row may end before a column. -/
theorem compile_means_short_row :
    compile (.ofNames ["word"]) (.junction .or
        [.junction .and [], .comparison .matched "word" (.integer 3),
          .comparison .equal "tag" (.integer 1)]) =
      .error (.typeError (.notPattern .matched (.integer 3))) ∧
    ∃ test, compile (.ofNames ["word", "size"]) (.junction .and
        [.comparison .matched "word" (.text "o"),
          .negation (.comparison .less "size" (.integer 4))]) = .ok test ∧
      test [.text "dog"] = true := by
  have hp : Pattern.ofText "o" = .ok (.next (.one (.ofChars ['o'])) .nothing) := by cbv
  constructor
  · refine ((compile_means _ _).2.1 _).mpr ⟨[], ⟨.matched, "word", .integer 3⟩,
      [⟨.equal, "tag", .integer 1⟩], rfl, fun _ hearlier => absurd hearlier List.not_mem_nil, ?_⟩
    exact .noText (by decide : _ = some 0) rfl fun _ => by simp
  · obtain ⟨test, htest⟩ := (compile_means (.ofNames ["word", "size"]) (.junction .and
        [.comparison .matched "word" (.text "o"),
          .negation (.comparison .less "size" (.integer 4))])).1.mpr (by
      intro leaf hleaf
      obtain rfl | rfl := List.mem_pair.mp hleaf
      · exact ⟨⟨0, by decide⟩, fun _ => ⟨"o", _, rfl, hp⟩⟩
      · exact ⟨⟨1, by decide⟩, fun hop => absurd hop (by decide)⟩)
    refine ⟨test, htest, ((compile_means _ _).2.2.1 test htest _).mpr ⟨?_, ?_, trivial⟩⟩
    · exact ⟨"o", _, "dog", rfl, hp, by decide, 1, 2,
        .next (.one rfl (by cbv)) (.nothing (by decide))⟩
    · exact fun hbelow => hbelow.ne_null.1 (by decide)

end Filter

end ProfileQuery
