import ProfileQuery.Plan.Basic
import ProfileQuery.Query.Reader
import ProfileQuery.Selection.Filter
import ProfileQuery.Selection.Join

/-!
# Answering queries

A query is answered by joining the relations of its plan one after another, filtering the joined
rows by its condition, and showing the columns that it asks for.
-/

namespace ProfileQuery

open Calendar (DateTime)
open Plan (JoinStep SelectPlan)
open Query (Condition Select)

namespace Database

/-- The selection with the relations of some steps joined, in order. -/
def joinSteps (db : Database) (mode : JoinMode) (s : Selection) (steps : List JoinStep) :
    Except QueryError Selection :=
  steps.foldlM (fun s step => s.join db step.relation step.columns mode) s

/-- The rows of a selection that satisfy the condition of a plan. -/
def filterRows (s : Selection) : Option Condition → Except QueryError Selection
  | none => .ok s
  | some condition => do
    let test ← Filter.compile s.index condition
    return s.filter test

/-- Carries out a plan. -/
def runPlan (db : Database) (plan : SelectPlan) (mode : JoinMode) :
    Except QueryError Selection := do
  let joined ← db.joinSteps mode .empty plan.joins
  let filtered ← filterRows joined plan.condition
  filtered.project plan.projection

/-- Answers a query. -/
def execute (db : Database) (q : Select) (mode : JoinMode) : Except QueryError Selection := do
  let plan ← Plan.ofSelect q db.schema
  db.runPlan plan mode

/-- Answers a query that was read, or reports why it could not be. -/
def answer (db : Database) (mode : JoinMode) : Except Query.SyntaxError Select →
    Except QueryError Selection
  | .error e => .error (.syntaxError e)
  | .ok q => db.execute q mode

/-- Answers the text of a query by inner joins. -/
def query (db : Database) (now : DateTime) (text : String) : Except QueryError Selection :=
  db.answer .inner (Select.ofText now text)

/-- Answers the text of a query without its leading word. -/
def select (db : Database) (now : DateTime) (body : String) (mode : JoinMode) :
    Except QueryError Selection :=
  db.answer mode (Select.ofBody now body)

end Database

end ProfileQuery
