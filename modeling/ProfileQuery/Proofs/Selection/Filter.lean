import Mathlib.Data.List.Basic
import ProfileQuery.Selection.Filter

/-!
# The meaning of conditions

A condition is true or false of any way to read values by name: `Condition.eval` says which, by
recursion over the tree. The test that a condition is compiled to agrees with it, reading the cells of
a row at the positions of a name index (`compile_eq`). Compiling succeeds exactly when every
comparison can be carried out (`exists_compile_iff`), and else it fails with the fault of the first
one from the left that cannot (`compile_eq_error`).
-/

namespace ProfileQuery

namespace Query

/-- A comparison at a leaf of a condition. -/
structure Comparison where
  op : Operator
  column : String
  literal : Value

/-- Whether a value compares with a literal as an operator asks. A literal that is no pattern is
found in nothing. -/
def Operator.test (op : Operator) (value literal : Value) : Bool :=
  if op.isPattern then
    match Filter.literalPattern op literal with
    | .error _ => false
    | .ok p => Filter.found p value != (op == .notMatched)
  else Filter.holds op value literal

namespace Condition

mutual

/-- The comparisons of a condition, from left to right. -/
def leaves : Condition → List Comparison
  | comparison op column literal => [⟨op, column, literal⟩]
  | junction _ children => leavesOf children
  | negation child => child.leaves

/-- The comparisons of several conditions, from left to right. -/
def leavesOf : List Condition → List Comparison
  | [] => []
  | child :: children => child.leaves ++ leavesOf children

end

mutual

/-- The truth of a condition when each column has the value that `read` gives. -/
def eval (read : String → Value) : Condition → Bool
  | comparison op column literal => op.test (read column) literal
  | junction .and children => (evalEach read children).all id
  | junction .or children => (evalEach read children).any id
  | negation child => !child.eval read

/-- The truth of several conditions. -/
def evalEach (read : String → Value) : List Condition → List Bool
  | [] => []
  | child :: children => child.eval read :: evalEach read children

end

theorem evalEach_eq_map (read : String → Value) (cs : List Condition) :
    evalEach read cs = cs.map (eval read) := by
  induction cs with
  | nil => rfl
  | cons child children ih => rw [evalEach, ih, List.map_cons]

mutual

theorem leafColumns_eq : ∀ c : Condition, c.leafColumns = c.leaves.map (·.column)
  | comparison _ _ _ => rfl
  | junction _ children => by rw [leafColumns, leaves, childrenColumns_eq children]
  | negation child => by rw [leafColumns, leaves, leafColumns_eq child]

theorem childrenColumns_eq : ∀ cs : List Condition,
    childrenColumns cs = (leavesOf cs).map (·.column)
  | [] => rfl
  | child :: children => by
    rw [childrenColumns, leavesOf, List.map_append, leafColumns_eq child,
      childrenColumns_eq children]

end

section Congruence

variable {read read' : String → Value}

mutual

/-- The truth of a condition depends on the columns that it names only. -/
theorem eval_congr : ∀ c : Condition, (∀ name ∈ c.leafColumns, read name = read' name) →
    c.eval read = c.eval read'
  | comparison op column literal, h => by
    rw [eval, eval, h column (by simp [leafColumns])]
  | junction .and children, h => by rw [eval, eval, evalEach_congr children h]
  | junction .or children, h => by rw [eval, eval, evalEach_congr children h]
  | negation child, h => by rw [eval, eval, eval_congr child h]

theorem evalEach_congr : ∀ cs : List Condition,
    (∀ name ∈ childrenColumns cs, read name = read' name) →
    evalEach read cs = evalEach read' cs
  | [], _ => rfl
  | child :: children, h => by
    rw [evalEach, evalEach,
      eval_congr child fun name hname => h name (List.mem_append_left _ hname),
      evalEach_congr children fun name hname => h name (List.mem_append_right _ hname)]

end

end Congruence

end Condition

end Query

namespace Filter

open Query (Comparison Condition Operator)

/-- Whether a literal is a pattern where an operator takes one. -/
def Readable (leaf : Comparison) : Prop :=
  leaf.op.isPattern = true → ∃ source p, leaf.literal = .text source ∧ Pattern.ofText source = .ok p

/-- Whether a comparison can be carried out: its column has a position, and a pattern operator has a
pattern. -/
@[mk_iff]
structure Performable (ix : NameIndex) (leaf : Comparison) : Prop where
  column : ∃ position, ix.find? leaf.column = some position
  readable : Readable leaf

/-- Why a comparison cannot be carried out. -/
inductive Faulty (ix : NameIndex) (leaf : Comparison) : QueryError → Prop
  | column : ix.find? leaf.column = none → Faulty ix leaf (.undefinedColumn leaf.column)
  | noText {position : Nat} : ix.find? leaf.column = some position → leaf.op.isPattern = true →
      (∀ source, leaf.literal ≠ .text source) →
      Faulty ix leaf (.typeError (.notPattern leaf.op leaf.literal))
  | noPattern {position : Nat} {source : String} {fault : Pattern.Fault} :
      ix.find? leaf.column = some position → leaf.op.isPattern = true →
      leaf.literal = .text source → Pattern.ofText source = .error fault →
      Faulty ix leaf (.invalidRegex source fault)

/-- The fault of a comparison that cannot be carried out. -/
def leafFault? (ix : NameIndex) (leaf : Comparison) : Option QueryError :=
  match ix.find? leaf.column with
  | none => some (.undefinedColumn leaf.column)
  | some _ =>
    if leaf.op.isPattern then
      match literalPattern leaf.op leaf.literal with
      | .error e => some e
      | .ok _ => none
    else none

theorem literalPattern_eq_ok {op : Operator} {literal : Value} {p : Pattern} :
    literalPattern op literal = .ok p ↔
      ∃ source, literal = .text source ∧ Pattern.ofText source = .ok p := by
  cases literal with
  | text source =>
    cases h : Pattern.ofText source <;> simp [literalPattern, h]
  | _ => simp [literalPattern]

theorem readable_iff {leaf : Comparison} : Readable leaf ↔
    (leaf.op.isPattern = true → ∃ p, literalPattern leaf.op leaf.literal = .ok p) := by
  simp only [literalPattern_eq_ok]
  exact imp_congr_right fun _ => exists_comm

theorem leafFault?_eq_none {ix : NameIndex} {leaf : Comparison} :
    leafFault? ix leaf = none ↔ Performable ix leaf := by
  rw [performable_iff, readable_iff, leafFault?]
  cases ix.find? leaf.column with
  | none => simp
  | some position =>
    by_cases hop : leaf.op.isPattern = true
    · cases literalPattern leaf.op leaf.literal <;> simp [hop]
    · simp [hop]

theorem leafFault?_eq_some {ix : NameIndex} {leaf : Comparison} {e : QueryError} :
    leafFault? ix leaf = some e ↔ Faulty ix leaf e := by
  constructor
  · obtain ⟨op, column, literal⟩ := leaf
    rw [leafFault?]
    cases hcolumn : ix.find? column with
    | none =>
      rintro ⟨⟩
      exact .column hcolumn
    | some position =>
      cases hop : op.isPattern with
      | false => exact nofun
      | true =>
        cases literal with
        | text source =>
          cases hpattern : Pattern.ofText source with
          | ok p => simp [literalPattern, hpattern]
          | error fault =>
            simp only [literalPattern, hpattern, if_true, Option.some.injEq]
            rintro rfl
            exact .noPattern hcolumn hop rfl hpattern
        | _ =>
          rintro ⟨⟩
          exact .noText hcolumn hop nofun
  · rintro (hcolumn | ⟨hcolumn, hop, htext⟩ | ⟨hcolumn, hop, hsource, hpattern⟩)
    · simp [leafFault?, hcolumn]
    · cases hliteral : leaf.literal with
      | text source => exact absurd hliteral (htext source)
      | _ => simp [leafFault?, hcolumn, hop, literalPattern, hliteral]
    · simp [leafFault?, hcolumn, hop, literalPattern, hsource, hpattern]

/-- The values of a row by the names of an index. -/
def readRow (ix : NameIndex) (row : Row) (name : String) : Value :=
  ((ix.find? name).map (cell row)).getD .null

theorem compileComparison_eq (ix : NameIndex) (leaf : Comparison) :
    compileComparison ix leaf.op leaf.column leaf.literal =
      match leafFault? ix leaf with
      | some e => .error e
      | none => .ok fun row => leaf.op.test (readRow ix row leaf.column) leaf.literal := by
  unfold compileComparison leafFault?
  cases hpos : ix.find? leaf.column with
  | none => rfl
  | some position =>
    by_cases hop : leaf.op.isPattern = true
    · cases hpat : literalPattern leaf.op leaf.literal with
      | error e => simp [hop]
      | ok p => simp [hop, Query.Operator.test, hpat, readRow, hpos]
    · simp [hop, Query.Operator.test, readRow, hpos]

mutual

/-- A condition compiles to its truth on the rows, unless a comparison has a fault; the first fault
from the left is reported. -/
theorem compile_eq (ix : NameIndex) : ∀ c : Condition, compile ix c =
    match c.leaves.findSome? (leafFault? ix) with
    | some e => .error e
    | none => .ok fun row => c.eval (readRow ix row)
  | .comparison op column literal => by
    rw [compile, compileComparison_eq ix ⟨op, column, literal⟩, Condition.leaves]
    cases h : leafFault? ix ⟨op, column, literal⟩ <;> simp [List.findSome?, h, Condition.eval]
  | .junction op children => by
    rw [compile, compileAll_eq ix children, Condition.leaves]
    cases h : (Condition.leavesOf children).findSome? (leafFault? ix) with
    | some e => simp
    | none =>
      cases op with
      | and => simp [Condition.eval, Condition.evalEach_eq_map, List.all_map, Function.comp_def]
      | or => simp [Condition.eval, Condition.evalEach_eq_map, List.any_map, Function.comp_def]
  | .negation child => by
    rw [compile, compile_eq ix child, Condition.leaves]
    cases h : child.leaves.findSome? (leafFault? ix) <;> simp [Condition.eval]

theorem compileAll_eq (ix : NameIndex) : ∀ cs : List Condition, compileAll ix cs =
    match (Condition.leavesOf cs).findSome? (leafFault? ix) with
    | some e => .error e
    | none => .ok (cs.map fun c row => c.eval (readRow ix row))
  | [] => rfl
  | child :: children => by
    rw [compileAll, compile_eq ix child, compileAll_eq ix children, Condition.leavesOf,
      List.findSome?_append]
    cases child.leaves.findSome? (leafFault? ix) with
    | some e => rfl
    | none => cases (Condition.leavesOf children).findSome? (leafFault? ix) <;> rfl

end

/-- What a compiled condition tests. -/
theorem eval_of_compile {ix : NameIndex} {c : Condition} {test : Row → Bool}
    (h : compile ix c = .ok test) : test = fun row => c.eval (readRow ix row) := by
  rw [compile_eq] at h
  split at h
  · cases h
  · exact (Except.ok.inj h).symm

/-- A condition compiles exactly when each of its comparisons can be carried out. -/
theorem exists_compile_iff {ix : NameIndex} {c : Condition} :
    (∃ test, compile ix c = .ok test) ↔ ∀ leaf ∈ c.leaves, Performable ix leaf := by
  have noFault : c.leaves.findSome? (leafFault? ix) = none ↔
      ∀ leaf ∈ c.leaves, Performable ix leaf := by
    rw [List.findSome?_eq_none_iff]
    exact forall₂_congr fun _ _ => leafFault?_eq_none
  rw [← noFault, compile_eq]
  cases c.leaves.findSome? (leafFault? ix) <;> simp

/-- A condition fails to compile for the first of its comparisons from the left that cannot be
carried out. -/
theorem compile_eq_error {ix : NameIndex} {c : Condition} {e : QueryError} :
    compile ix c = .error e ↔ ∃ before leaf after, c.leaves = before ++ leaf :: after ∧
      (∀ earlier ∈ before, Performable ix earlier) ∧ Faulty ix leaf e := by
  have firstFault : compile ix c = .error e ↔ c.leaves.findSome? (leafFault? ix) = some e := by
    rw [compile_eq]
    cases c.leaves.findSome? (leafFault? ix) <;> simp
  rw [firstFault, List.findSome?_eq_some_iff]
  simp only [leafFault?_eq_none, leafFault?_eq_some, and_comm]

/-- A condition fails to compile for the fault of one of its comparisons. -/
theorem exists_fault_of_compile {ix : NameIndex} {c : Condition} {e : QueryError}
    (h : compile ix c = .error e) : ∃ leaf ∈ c.leaves, Faulty ix leaf e := by
  obtain ⟨before, leaf, after, hleaves, -, hfault⟩ := compile_eq_error.mp h
  exact ⟨leaf, by simp [hleaves], hfault⟩

end Filter

end ProfileQuery
