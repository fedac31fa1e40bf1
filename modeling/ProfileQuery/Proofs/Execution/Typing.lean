import ProfileQuery.Execution
import ProfileQuery.Proofs.Plan.Refusal
import ProfileQuery.Proofs.Query.RoundTrip
import ProfileQuery.Proofs.Query.Typing
import ProfileQuery.Proofs.Selection.Filter
import ProfileQuery.Proofs.Selection.Outcome

/-!
# Queries never fail for a type

Neither planning nor joining nor projecting compares any value (`Untyped`), and the patterns of a
well-typed condition are texts, also after its columns were resolved. So a query that was read never
fails for a type, whatever is stored (`Database.query_typed`).
-/

namespace ProfileQuery

open Calendar (DateTime)
open Outcome (FailsOnly)
open Plan (JoinStep)
open Query (Condition Operator Select Typed)

/-- An error that is not about types. -/
def Untyped (e : QueryError) : Prop := ∀ fault, e ≠ .typeError fault

/-! ## Planning -/

/-- What is wrong with a name is not about types. -/
theorem Refused.untyped {e : QueryError} (h : Refused e) : Untyped e := by
  cases h <;> simp [Untyped]

namespace Query.Condition

variable {P : QueryError → Prop} {rename : String → Except QueryError String}

mutual

/-- Renaming fails as the renaming of a column does. -/
theorem mapColumns_failsOnly (h : ∀ name, FailsOnly P (rename name)) :
    ∀ c : Condition, FailsOnly P (c.mapColumns rename)
  | comparison _ column _ => (h column).bind fun _ _ => .ok _
  | junction _ children => (mapChildren_failsOnly h children).bind fun _ _ => .ok _
  | negation child => (mapColumns_failsOnly h child).bind fun _ _ => .ok _

theorem mapChildren_failsOnly (h : ∀ name, FailsOnly P (rename name)) :
    ∀ cs : List Condition, FailsOnly P (mapChildren rename cs)
  | [] => .ok []
  | child :: children => (mapColumns_failsOnly h child).bind fun _ _ =>
    (mapChildren_failsOnly h children).bind fun _ _ => .ok _

end

theorem mapChildren_eq_mapM (cs : List Condition) :
    mapChildren rename cs = cs.mapM (mapColumns rename) := by
  induction cs with
  | nil => rfl
  | cons c cs ih =>
    rw [mapChildren, List.mapM_cons, ih]

/-- A condition with other columns is formed of comparisons with the same operators and literals. -/
theorem Formed.mapColumns {leaf leaf' : Operator → String → Value → Prop} {c renamed : Condition}
    (h : c.Formed leaf) (hrenamed : c.mapColumns rename = .ok renamed)
    (hleaf : ∀ op column column' literal, leaf op column literal → leaf' op column' literal) :
    renamed.Formed leaf' := by
  induction h generalizing renamed with
  | comparison h =>
    obtain ⟨column', -, heq⟩ := Outcome.bind_eq_ok.mp hrenamed
    obtain rfl := Except.ok.inj heq
    exact .comparison (hleaf _ _ _ _ h)
  | junction hlen _ ih =>
    obtain ⟨children', hchildren, heq⟩ := Outcome.bind_eq_ok.mp hrenamed
    obtain rfl := Except.ok.inj heq
    rw [mapChildren_eq_mapM] at hchildren
    refine .junction ((Outcome.mapM_eq_ok.mp hchildren).length_eq ▸ hlen) fun child' hchild' => ?_
    obtain ⟨child, hmem, hchild⟩ := Outcome.mem_of_mapM hchildren hchild'
    exact ih child hmem hchild
  | negation _ ih =>
    obtain ⟨child', hchild, heq⟩ := Outcome.bind_eq_ok.mp hrenamed
    obtain rfl := Except.ok.inj heq
    exact .negation (ih hchild)

theorem leavesOf_eq_flatMap (cs : List Condition) : leavesOf cs = cs.flatMap leaves := by
  induction cs with
  | nil => rfl
  | cons c cs ih => rw [leavesOf, ih, List.flatMap_cons]

/-- The comparisons that a condition is formed of. -/
theorem Formed.leaf {leaf : Operator → String → Value → Prop} {c : Condition} (h : c.Formed leaf) :
    ∀ l ∈ c.leaves, leaf l.op l.column l.literal := by
  induction h with
  | comparison h =>
    intro l hl
    obtain rfl := List.mem_singleton.mp hl
    exact h
  | junction _ _ ih =>
    intro l hl
    rw [leaves, leavesOf_eq_flatMap] at hl
    obtain ⟨child, hchild, hl⟩ := List.mem_flatMap.mp hl
    exact ih child hchild l hl
  | negation _ ih => exact ih

end Query.Condition

namespace Plan

variable {s : Schema}

theorem resolveFilter_untyped (q : Select) : FailsOnly Untyped (resolveFilter q s) := by
  unfold resolveFilter
  split
  · exact .ok _
  · next condition _ =>
    have hcondition : FailsOnly Untyped (resolveCondition s q.relations condition) :=
      (condition.mapColumns_failsOnly fun name =>
        (resolve_refused name).mono fun _ => Refused.untyped).bind fun _ _ => .ok _
    exact hcondition.bind fun _ _ => .ok _

theorem orderSteps_untyped (map : KeyMap) (keys : Option (List String)) (steps : List JoinStep) :
    FailsOnly Untyped (orderSteps map keys steps) := by
  fun_induction orderSteps map keys steps with
  | case1 => exact .ok []
  | case2 => exact .error (by simp [Untyped])
  | case3 keys steps hne possible step hfind joined e herror ih => exact .error (ih e herror)
  | case4 => exact .ok _

theorem ofSelect_untyped (q : Select) (s : Schema) : FailsOnly Untyped (ofSelect q s) := by
  refine ((resolveProjection_refused q).mono fun _ => Refused.untyped).bind fun projection _ => ?_
  refine (resolveFilter_untyped q).bind fun (condition, columns) _ => ?_
  have hjoins : FailsOnly Untyped (planJoins s projection columns q.relations) := fun e h => by
    rcases planJoins_eq_error h with hrefused | ⟨draft, pivots, -, -, -, horder⟩
    · exact hrefused.untyped
    · exact orderSteps_untyped _ _ _ e horder
  exact hjoins.bind fun joins _ => .ok _

/-- The condition of a plan has the operators and literals of the query. -/
theorem formed_of_ofSelect {q : Select} {plan : SelectPlan} (hq : q.WellTyped)
    (h : ofSelect q s = .ok plan) :
    ∀ c, plan.condition = some c → c.Formed fun op _ literal => op.Fits literal := by
  obtain ⟨projection, -, h⟩ := Outcome.bind_eq_ok.mp h
  obtain ⟨⟨condition, columns⟩, hfilter, h⟩ := Outcome.bind_eq_ok.mp h
  obtain ⟨joins, -, h⟩ := Outcome.bind_eq_ok.mp h
  obtain rfl := Except.ok.inj h
  rintro c rfl
  unfold resolveFilter at hfilter
  split at hfilter
  · cases hfilter
  · next asked hasked =>
    obtain ⟨⟨resolved, names⟩, hresolved, heq⟩ := Outcome.bind_eq_ok.mp hfilter
    obtain ⟨renamed, hrenamed, heq'⟩ := Outcome.bind_eq_ok.mp hresolved
    cases heq
    cases heq'
    exact (hq.condition asked hasked).mapColumns hrenamed fun _ _ _ _ h => h.literal

end Plan

/-! ## Carrying out a plan -/

namespace Filter

/-- The literals of a condition that fit their operators are patterns where there have to be some. -/
theorem compile_untyped {c : Condition} (h : c.Formed fun op _ literal => op.Fits literal)
    (ix : NameIndex) : FailsOnly Untyped (compile ix c) := by
  intro e herror
  obtain ⟨leaf, hleaf, hfault⟩ := exists_fault_of_compile herror
  cases hfault with
  | column | noPattern => simp [Untyped]
  | noText _ hpattern htext =>
    obtain ⟨source, hsource⟩ := (h.leaf leaf hleaf).pattern hpattern
    exact absurd hsource (htext source)

end Filter

namespace Selection

variable {s : Selection}

theorem joinFault?_untyped {schema : Schema} {relation : String} {columns : List String}
    {e : QueryError} (h : s.joinFault? schema relation columns = some e) : Untyped e := by
  unfold joinFault? at h
  split at h
  · exact Option.some.inj h ▸ by simp [Untyped]
  · split at h
    · exact Option.some.inj h ▸ by simp [Untyped]
    · split at h
      · exact Option.some.inj h ▸ by simp [Untyped]
      · split at h
        · exact Option.some.inj h ▸ by simp [Untyped]
        · cases h

theorem join_untyped (s : Selection) (db : Database) (relation : String) (columns : List String)
    (mode : JoinMode) : FailsOnly Untyped (s.join db relation columns mode) := by
  cases hfault : s.joinFault? db.schema relation columns with
  | some e =>
    rw [join_of_fault hfault]
    exact .error (joinFault?_untyped hfault)
  | none =>
    obtain ⟨t, -, -, hjoin⟩ := join_of_no_fault hfault mode
    rw [hjoin]
    exact .ok _

theorem project_untyped (s : Selection) (names : List String) :
    FailsOnly Untyped (s.project names) := by
  have hpositions : FailsOnly Untyped (s.positions names) := .mapM fun name _ => by
    split
    · exact .ok _
    · exact .error (by simp [Untyped])
  exact hpositions.bind fun _ _ => .ok _

end Selection

namespace Database

theorem execute_untyped {q : Select} (hq : q.WellTyped) (db : Database) (mode : JoinMode) :
    FailsOnly Untyped (db.execute q mode) := by
  refine (Plan.ofSelect_untyped q db.schema).bind fun plan hplan => ?_
  have hjoins : FailsOnly Untyped (db.joinSteps mode .empty plan.joins) :=
    .foldlM (fun s step _ => s.join_untyped db step.relation step.columns mode) _
  refine hjoins.bind fun joined _ => ?_
  have hfilter : FailsOnly Untyped (filterRows joined plan.condition) := by
    cases hcondition : plan.condition with
    | none => exact .ok joined
    | some c =>
      exact (Filter.compile_untyped (Plan.formed_of_ofSelect hq hplan c hcondition) _).bind
        fun _ _ => .ok _
  exact hfilter.bind fun filtered _ => filtered.project_untyped plan.projection

theorem answer_untyped {outcome : Except Query.SyntaxError Select}
    (h : ∀ q, outcome = .ok q → q.WellTyped) (db : Database) (mode : JoinMode) :
    FailsOnly Untyped (db.answer mode outcome) := by
  cases outcome with
  | error e => exact .error (by simp [Untyped])
  | ok q => exact execute_untyped (h q rfl) db mode

/-- Whatever a text says, the query that is read of it is well typed, and answering it never fails
for a type. -/
theorem query_typed (now : DateTime) (text : String) :
    (∀ q, Select.ofBody now text = .ok q → q.WellTyped) ∧
    (∀ q, Select.ofText now text = .ok q → q.WellTyped) ∧
    ∀ (db : Database) (mode : JoinMode) (fault : TypeFault),
      db.query now text ≠ .error (.typeError fault) ∧
      db.select now text mode ≠ .error (.typeError fault) := by
  have hbody : ∀ q, Select.ofBody now text = .ok q → q.WellTyped :=
    fun _ => Query.wellTyped_of_ofBody
  have htext : ∀ q, Select.ofText now text = .ok q → q.WellTyped :=
    fun _ => Query.wellTyped_of_ofText
  refine ⟨hbody, htext, fun db mode fault => ⟨fun h => ?_, fun h => ?_⟩⟩
  · exact answer_untyped htext db .inner _ h fault rfl
  · exact answer_untyped hbody db mode _ h fault rfl

/-- A query with a pattern. -/
theorem query_typed_pattern :
    Select.ofBody Query.leapDay "word where word ~ 'run'" =
        .ok ⟨.columns ["word"], [], some (.comparison .matched "word" (.text "run"))⟩ ∧
      Select.WellTyped ⟨.columns ["word"], [], some (.comparison .matched "word" (.text "run"))⟩ := by
  have hread : Select.ofBody Query.leapDay "word where word ~ 'run'" =
      .ok ⟨.columns ["word"], [], some (.comparison .matched "word" (.text "run"))⟩ := by cbv
  exact ⟨hread, (query_typed Query.leapDay "word where word ~ 'run'").1 _ hread⟩

end Database

end ProfileQuery
