import RecordRules.Constraint.Apply
import RecordRules.Numeric.Natural
import RecordRules.Sheet

/-
  Batches: the constraints of fields on every row of a sheet.

  Main declarations:
    * `LogEntry`, one change or message
    * `RowOutcome`, and `Batch.checkRow`
    * `Batch.Outcome`, and `Batch.run`
    * `Batch.Summary`, counts over a batch
-/

namespace RecordRules

open Text

------------------------------------------------------------
-- Log entries
------------------------------------------------------------

/- What an entry of a log says. -/
inductive LogAction where
  | setValue
  | addError
  | addInfo
deriving DecidableEq

/- The name of what an entry says. -/
def LogAction.name : LogAction → String
  | setValue => "set_value"
  | addError => "add_error"
  | addInfo => "add_info"

/-
  A change or a message: its batch, row and field, the values before
  and after as texts, the message and the families of rules.
-/
structure LogEntry where
  job : String
  row : Nat
  field : String
  action : LogAction
  before : Option String
  after : Option String
  message : Option String
  validators : String
deriving DecidableEq

namespace Batch

/- The most characters of a value in a log. -/
def longestText : Nat :=
  200

/- A value as a log shows it. -/
def logText (v : Value) : Except Failure (Option String) :=
  match v with
  | .null => .ok none
  | v => do return some (String.ofList ((← v.print).take longestText))

/- The families of rules of a field, each named once. -/
def validatorNames (constraints : List Constraint) : String :=
  String.intercalate ","
    (constraints.map (·.validator.name)).eraseDups

------------------------------------------------------------
-- Rows
------------------------------------------------------------

/- A row after its constraints: the record and its verdicts. -/
structure RowOutcome where
  initial : Entries Value
  record : Record
  verdicts : Entries Bool
deriving DecidableEq

/- The constraints of all fields on a row. -/
def checkRow
    (context : Context)
    (plan : Constraint.Plan)
    (row : Entries Value) : Except Failure RowOutcome :=
  let run := Constraint.applyAll context plan
  match run.run (.ofValues row) with
  | (.ok verdicts, record) => .ok ⟨row, record, verdicts⟩
  | (.error failure, _) => .error failure

namespace RowOutcome

/- The value of a field at the start. -/
def before
    (outcome : RowOutcome)
    (field : String) : Value :=
  (outcome.initial.get? field).getD .null

/- The value of a field at the end. -/
def after
    (outcome : RowOutcome)
    (field : String) : Value :=
  (outcome.record.values.get? field).getD .null

/- The errors of a field. -/
def errors
    (outcome : RowOutcome)
    (field : String) : List String :=
  (outcome.record.errors.get? field).getD []

/- The infos of a field. -/
def infos
    (outcome : RowOutcome)
    (field : String) : List String :=
  (outcome.record.infos.get? field).getD []

/- Whether a field has changed. -/
def hasChanged
    (outcome : RowOutcome)
    (field : String) : Bool :=
  outcome.before field != outcome.after field

/- Whether a row has no errors and good verdicts only. -/
def isGood (outcome : RowOutcome) : Bool :=
  outcome.record.isValid && outcome.verdicts.all (·.2)

/- What is to be logged about a field, in order. -/
def events
    (outcome : RowOutcome)
    (field : String) : List (LogAction × Option String) :=
  (if outcome.hasChanged field then [(.setValue, none)] else []) ++
    (outcome.errors field).map (fun text => (.addError, some text)) ++
    (outcome.infos field).map fun text => (.addInfo, some text)

/- The entries about a field. -/
def fieldLog
    (outcome : RowOutcome)
    (job : String)
    (row : Nat)
    (field : String)
    (constraints : List Constraint) : Except Failure (List LogEntry) :=
  (outcome.events field).mapM fun (action, message) => do
    let before ← logText (outcome.before field)
    let after ← logText (outcome.after field)
    return {
      job := job
      row := row
      field := field
      action := action
      before := before
      after := after
      message := message
      validators := validatorNames constraints }

/- The entries about a row, field by field. -/
def rowLog
    (outcome : RowOutcome)
    (job : String)
    (row : Nat)
    (plan : Constraint.Plan) : Except Failure (List LogEntry) := do
  let parts ← plan.mapM fun (field, constraints) =>
    outcome.fieldLog job row field constraints
  return parts.flatten

/- The row with the values that the record has for some fields. -/
def shownRow
    (outcome : RowOutcome)
    (plan : Constraint.Plan) : Entries Value :=
  plan.foldl
    (fun row entry =>
      if outcome.hasChanged entry.1 then
        Entries.put row entry.1 (outcome.after entry.1)
      else
        row)
    outcome.initial

end RowOutcome

------------------------------------------------------------
-- Summaries
------------------------------------------------------------

/- Counts over the rows of a batch. -/
structure Summary where
  processed : Nat := 0
  good : Nat := 0
  bad : Nat := 0
  changed : Nat := 0
  errors : Nat := 0
  infos : Nat := 0
deriving DecidableEq

/- The counts with a further row. -/
def Summary.add
    (plan : Constraint.Plan)
    (summary : Summary)
    (outcome : RowOutcome) : Summary :=
  let sumOf (f : String → Nat) : Nat :=
    Numeric.total (plan.map fun entry => f entry.1)
  { processed := summary.processed + 1
    good := summary.good + outcome.isGood.toNat
    bad := summary.bad + (!outcome.isGood).toNat
    changed := summary.changed +
      sumOf fun field => (outcome.hasChanged field).toNat
    errors := summary.errors +
      sumOf fun field => (outcome.errors field).length
    infos := summary.infos +
      sumOf fun field => (outcome.infos field).length }

------------------------------------------------------------
-- Batches
------------------------------------------------------------

/- The rows of a batch after their constraints, and the log. -/
structure Outcome where
  plan : Constraint.Plan
  rows : List RowOutcome
  log : List LogEntry
deriving DecidableEq

namespace Outcome

/- The counts over a batch. -/
def summary (outcome : Outcome) : Summary :=
  outcome.rows.foldl (Summary.add outcome.plan) {}

/- The sheet of a batch at the end. -/
def frame (outcome : Outcome) : List (Entries Value) :=
  outcome.rows.map (·.shownRow outcome.plan)

end Outcome

/- The rows from a given index on, one after the other. -/
def runRows
    (context : Context)
    (job : String)
    (plan : Constraint.Plan)
    (logging : Bool) :
    Nat → List (Entries Value) →
      Except Failure (List (RowOutcome × List LogEntry))
  | _, [] => .ok []
  | index, row :: rest => do
    let outcome ← checkRow context plan row
    let log ← if logging then outcome.rowLog job index plan else pure []
    return (outcome, log) ::
      (← runRows context job plan logging (index + 1) rest)

/-
  The constraints of fields on every record. Columns for all of the
  fields are made, and a failure in any row is one of the batch.
-/
def run
    (context : Context)
    (job : String)
    (plan : Constraint.Plan)
    (logging : Bool)
    (records : List (Entries Value)) : Except Failure Outcome := do
  let sheet ← Sheet.ofRecords records
  let whole := sheet.withColumns (plan.map (·.1))
  let rows ← runRows context job plan logging 0 whole.rowsShown
  return {
    plan := plan
    rows := rows.map (·.1)
    log := rows.flatMap (·.2) }

end Batch

end RecordRules
