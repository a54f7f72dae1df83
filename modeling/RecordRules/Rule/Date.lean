import RecordRules.Date.Expression
import RecordRules.Date.Layout
import RecordRules.Rule.Report

/-
  Rules for dates.

  Main declarations:
    * `DateRule`, and `DateRule.ofArguments`
    * `DateRule.check`, the verdict of a rule
    * `DateRule.format`, the format step
    * `DateRule.evaluate`, the one followed by the other
-/

namespace RecordRules

open Edit Rule

/- What a date has to be. -/
inductive DateRule where
  | anyDate
  | before (bound : Value)
  | after (bound : Value)
  | between (start stop : Value)

namespace DateRule

/- The rule of a given type; other types ask for a date only. -/
def ofArguments
    (type arguments : Value) : DateRule :=
  match type with
  | .text "before" => before (singleArgument arguments)
  | .text "after" => after (singleArgument arguments)
  | .text "between" =>
    let pair := twoArguments arguments
    between pair.1 pair.2
  | _ => anyDate

------------------------------------------------------------
-- Formats
------------------------------------------------------------

/- A format unless it is empty. -/
def proper? (format : Option String) : Option String :=
  format.filter (· != "")

/- The international format. -/
def isoFormat : String :=
  "yyyy-mm-dd"

/- An instant in a format, the international one without any. -/
def formatted
    (format : Option String)
    (t : Instant) : List Char :=
  Date.format t.day (some ((proper? format).getD isoFormat))

/- A bound as messages show it. -/
def boundText
    (format : Option String)
    (resolved : Option Instant)
    (bound : Value) : Except Failure (List Char) :=
  match resolved with
  | none => bound.print
  | some t =>
    match proper? format with
    | some pattern => .ok (Date.format t.day (some pattern))
    | none => .ok t.milliText

------------------------------------------------------------
-- Verdicts
------------------------------------------------------------

/-
  The instant of a value that is compared. A relative date is at
  once written to a linked record if there is a format for it.
-/
def resolveCompared
    (context : Context)
    (field : String)
    (format : Option String)
    (v : Value) : Edit (Option Instant) := do
  if ← ofResult (Date.isDate context v) then
    ofResult (Date.parse context v)
  else
    let resolved ← ofResult (Date.parseRelative context v)
    match resolved, proper? format with
    | some t, some pattern =>
      if ← isLinked then
        setField field
          (.text (String.ofList (Date.format t.day (some pattern))))
    | _, _ => pure ()
    return resolved

/- Whether a field is a date; one that is is written formatted. -/
def checkValid
    (context : Context)
    (options : RuleOptions)
    (field : String)
    (format : Option String) : Edit Bool := do
  let v ← getField field
  let resolved ←
    if v.isEmpty then
      pure none
    else
      ofResult (Date.resolveValue context v)
  match resolved with
  | some t => setField field (.text (String.ofList (formatted format t)))
  | none => pure ()
  let standard :=
    match proper? format with
    | some pattern =>
      "Please enter a valid date in the format " ++ pattern
    | none => "Please enter a valid date"
  report options field (!v.isEmpty) resolved.isSome standard
  return resolved.isSome

/- Whether an instant comes before another one. -/
def comesBefore : Option Instant → Option Instant → Bool
  | some s, some t => s.before t
  | _, _ => false

/- Whether a field is a date on the right side of a bound. -/
def checkBound
    (context : Context)
    (options : RuleOptions)
    (field : String)
    (format : Option String)
    (side : String)
    (holds : Option Instant → Option Instant → Bool)
    (bound : Value) : Edit Bool := do
  let v ← getField field
  let (limit, valid) ←
    if v.isEmpty then
      pure (none, false)
    else do
      let limit ← ofResult (Date.resolveBound context bound)
      let input ← resolveCompared context field format v
      pure (limit, holds input limit)
  let text ← ofResult (boundText format limit bound)
  report options field (!v.isEmpty) valid
    ("Please enter a valid date " ++ side ++ " " ++ String.ofList text)
  return valid

/- Whether a field is a date strictly between two bounds. -/
def checkBetween
    (context : Context)
    (options : RuleOptions)
    (field : String)
    (format : Option String)
    (start stop : Value) : Edit Bool := do
  let v ← getField field
  let (low, high, valid) ←
    if v.isEmpty then
      pure (none, none, false)
    else do
      let low ← ofResult (Date.resolveBound context start)
      let high ← ofResult (Date.resolveBound context stop)
      let input ← resolveCompared context field format v
      pure (low, high, comesBefore low input && comesBefore input high)
  let lowText ← ofResult (boundText format low start)
  let highText ← ofResult (boundText format high stop)
  report options field (!v.isEmpty) valid
    ("Please enter a valid date between " ++ String.ofList lowText ++
      " and " ++ String.ofList highText)
  return valid

/- The verdict of a rule on a field. -/
def check
    (context : Context)
    (options : RuleOptions)
    (field : String)
    (format : Option String) : DateRule → Edit Bool
  | anyDate => checkValid context options field format
  | before bound =>
    checkBound context options field format "before" comesBefore bound
  | after bound =>
    checkBound context options field format "after"
      (fun input limit => comesBefore limit input) bound
  | between start stop =>
    checkBetween context options field format start stop

------------------------------------------------------------
-- Formatting
------------------------------------------------------------

/-
  Writes a field in a format and gives the text; what is no date
  stays as it is.
-/
def format
    (context : Context)
    (options : RuleOptions)
    (field : String)
    (pattern : Option String) : Edit (Option (List Char)) := do
  let v ← getField field
  if v.isEmpty then
    return none
  match ← ofResult (Date.resolveValue context v) with
  | none => return none
  | some t =>
    let text := formatted pattern t
    noteChange options field
      (changeMessage options "Value has been formatted from " v)
    store options field text
    return some text

/-
  The verdict of a rule, followed by formatting if it is good or if
  failures are to be formatted too.
-/
def evaluate
    (context : Context)
    (options : RuleOptions)
    (field : String)
    (pattern : Option String)
    (rule : DateRule) : Edit Bool := do
  let valid ← rule.check context options field pattern
  if valid || options.formatOnError then
    let _ ← format context options field pattern
  return valid

end DateRule

end RecordRules
