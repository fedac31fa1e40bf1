import ProfileQuery.Selection.Join

/-!
# Changes of a selection

A join as a sequence of changes that are made to a selection in place. The rows are taken out of the
selection before they are extended, and are put back after the new fields were added. A change that
fails leaves behind what was changed before it failed.
-/

namespace ProfileQuery

/-- A computation that may change a selection. What it has changed stays when it fails. -/
abbrev Change := ExceptT QueryError (StateM Selection)

namespace Change

variable {α : Type}

/-- What a change of a selection returns, and the selection after it. -/
def runOn (change : Change α) (s : Selection) : Except QueryError α × Selection :=
  StateT.run (ExceptT.run change) s

/-- The computation that has a given outcome and changes nothing. -/
def ofOutcome (outcome : Except QueryError α) : Change α :=
  ExceptT.mk (pure outcome)

/-- Adds the fields of a relation with their names; `shared` names its columns that were there before.
-/
def addFields (relation : String) (shared : List String) (fields : List Field) : Change Unit :=
  modify fun s => s.merge relation shared fields s.data

/-- Puts rows in the place of those that are there. -/
def setData (data : List Row) : Change Unit :=
  modify fun s => { s with data }

/-- Takes all rows out. -/
def takeData : Change (List Row) :=
  modifyGet fun s => (s.data, { s with data := [] })

/-- Joins a relation to a selection that has joins already. -/
def joinNext (db : Database) (relation : String) (fields : List Field) (mode : JoinMode) :
    Change Unit := do
  let shared := (← get).sharedKeys fields
  if shared.isEmpty then
    throw (.noSharedKeys relation)
  let added := fields.filter fun f => !shared.contains f.name
  let keys ← ofOutcome (db.selectFrom relation shared)
  let rows ← ofOutcome (db.selectFrom relation (added.map (·.name)))
  let ix := KeyIndex.ofRows (keys.zip rows)
  let positions ← ofOutcome ((← get).positions shared)
  let taken ← takeData
  let data := taken.flatMap fun row =>
    Selection.extendRow mode added.length row (ix.find (Row.select positions row))
  addFields relation shared added
  setData data

/-- Joins the given columns of a relation. The first relation is taken as it is. -/
def join (db : Database) (relation : String) (columns : List String) (mode : JoinMode) :
    Change Unit := do
  if (← get).isJoined relation then
    throw (.duplicateJoin relation)
  let r ← ofOutcome (db.schema.relation relation)
  let fields ← ofOutcome (Selection.requestedFields r columns)
  if (← get).hasJoins then
    joinNext db relation fields mode
  else
    let data ← ofOutcome (db.selectFrom relation columns)
    addFields relation [] fields
    setData data

end Change

end ProfileQuery
