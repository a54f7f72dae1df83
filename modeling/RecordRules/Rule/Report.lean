import RecordRules.Record
import RecordRules.Rule.Options

/-
  What rules leave on a record besides their verdict.

  Main declarations:
    * `Rule.report`, an error for a failure
    * `Rule.noteChange`, an info about a change
    * `Rule.store`, a formatted value
-/

namespace RecordRules

namespace Rule

open Edit

/- A message of one's own unless it is empty, or a standard one. -/
def messageOr
    (own : Option String)
    (standard : String) : String :=
  match own with
  | none => standard
  | some text => if text == "" then standard else text

/-
  Reports a failure. An absent value is reported on demand only,
  and a detached record takes no reports.
-/
def report
    (options : RuleOptions)
    (field : String)
    (present valid : Bool)
    (standard : String) : Edit Unit := do
  let wanted := (present || options.validateOnEmpty) && !valid
  if wanted && options.addError && (← isLinked) then
    annotate .error field (messageOr options.errorMessage standard)

/- A text that says from what a value was changed. -/
def changeText
    (before : String)
    (v : Value) : Except Failure String := do
  return before ++ String.ofList (← v.print)

/- Notes a change that is written to a linked record, on demand. -/
def noteChange
    (options : RuleOptions)
    (field : String)
    (message : Except Failure String) : Edit Unit := do
  if options.addInfo && options.setRecord && (← isLinked) then
    annotate .info field (← ofResult message)

/- Writes a formatted text to a linked record, where allowed. -/
def store
    (options : RuleOptions)
    (field : String)
    (text : List Char) : Edit Unit := do
  if options.setRecord && (← isLinked) then
    setField field (.text (String.ofList text))

/- A message of one's own unless it is empty, or about a change. -/
def changeMessage
    (options : RuleOptions)
    (before : String)
    (v : Value) : Except Failure String :=
  match options.infoMessage with
  | none => changeText before v
  | some text => if text == "" then changeText before v else .ok text

------------------------------------------------------------
-- Arguments
------------------------------------------------------------

/- A single argument: the first of a list, or the value itself. -/
def singleArgument : Value → Value
  | .list [] => .null
  | .list (v :: _) => v
  | v => v

/- Two arguments: those of a list of two. -/
def twoArguments : Value → Value × Value
  | .list [v, w] => (v, w)
  | _ => (.null, .null)

end Rule

end RecordRules
