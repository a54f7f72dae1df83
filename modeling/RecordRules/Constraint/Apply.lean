import RecordRules.Constraint
import RecordRules.Rule.Date
import RecordRules.Rule.Number
import RecordRules.Rule.Text

/-
  Constraints at work on a record.

  Main declarations:
    * `Constraint.apply`, one constraint on one field
    * `Constraint.applyAll`, every constraint on its field
-/

namespace RecordRules

open Edit

namespace Constraint

------------------------------------------------------------
-- One constraint
------------------------------------------------------------

/- The options of the rule of a constraint. -/
def options (c : Constraint) : GivenOptions :=
  c.config.options.getD RuleOptions.standard

/- The type of the rule of a constraint. -/
def ruleType (c : Constraint) : Value :=
  .text c.config.ruleType

/- The options of the format of a constraint. -/
def formatObject (c : Constraint) : Value :=
  .object (c.config.formatOptions.getD [])

/- A constraint on a date. -/
def applyDate
    (context : Context)
    (field : String)
    (c : Constraint) : Edit Bool :=
  let rule := DateRule.ofArguments c.ruleType c.config.arguments
  let options := c.options.value
  match c.config.mode with
  | .format => do
    let text ← DateRule.format context options field c.config.format
    return text.isSome
  | .validate => rule.check context options field c.config.format
  | _ => rule.evaluate context options field c.config.format

/- A constraint on a number. -/
def applyNumber
    (field : String)
    (c : Constraint) : Edit Bool := do
  let layout ← ofResult (NumberFormat.read c.formatObject).toExcept
  let options := c.options.value
  match c.config.mode with
  | .format =>
    let text ← NumberRule.format options field layout.value
    return text.isSome
  | mode =>
    let rule ←
      ofResult (NumberRule.ofArguments c.ruleType c.config.arguments)
    if mode = .validate then
      rule.check options field
    else
      rule.evaluate options field layout.value

/-
  How a constraint on a text formats: with a format given, phone
  numbers in the style of that name, and social security numbers
  with hyphens.
-/
inductive TextRoute where
  | plain
  | phone (style : String)
  | ssn
deriving DecidableEq

/- The way in which a constraint on a text formats. -/
def textRoute (c : Constraint) : TextRoute :=
  match c.config.format with
  | none => .plain
  | some format =>
    if format == "" then
      .plain
    else if c.config.ruleType == "isPhone" then
      .phone format
    else if c.config.ruleType == "isSSN" then
      .ssn
    else
      .plain

/- The format step of a constraint on a text. -/
def formatText
    (context : Context)
    (field : String)
    (layout : TextFormat)
    (region : Option String)
    (c : Constraint) : Edit Unit :=
  match c.textRoute with
  | .phone style => do
    let _ ← TextRule.formatPhone context c.options.value field
      (some style) region
  | .ssn => do
    let _ ← TextRule.formatSsn c.options.value field
  | .plain => do
    let _ ← TextRule.format c.options field layout

/- The verdict of a constraint on a text, followed by formatting. -/
def evaluateText
    (context : Context)
    (field : String)
    (layout : TextFormat)
    (region : Option String)
    (c : Constraint) : Edit Bool :=
  match c.textRoute with
  | .phone style =>
    TextRule.evaluatePhone context c.options.value field (some style)
      region
  | .ssn => TextRule.evaluateSsn context c.options.value field
  | .plain => do
    let rule ←
      ofResult (TextRule.ofArguments c.ruleType c.config.arguments)
    rule.evaluate context c.options field layout

/- A constraint on a text. -/
def applyText
    (context : Context)
    (field : String)
    (c : Constraint) : Edit Bool := do
  let layout ← ofResult (TextFormat.read c.formatObject).toExcept
  let region ← ofResult (TextRule.regionOf c.config.arguments)
  match c.config.mode with
  | .normalizePhone =>
    TextRule.normalizePhone field (Rule.messageOr region context.region)
  | .format =>
    formatText context field layout.value region c
    return true
  | .validate =>
    let rule ←
      ofResult (TextRule.ofArguments c.ruleType c.config.arguments)
    rule.check context c.options.value field
  | .evaluateAndFormat =>
    evaluateText context field layout.value region c

/- A constraint on a field. -/
def apply
    (context : Context)
    (field : String)
    (c : Constraint) : Edit Bool :=
  match c.validator with
  | .date => c.applyDate context field
  | .text => c.applyText context field
  | .number => c.applyNumber field

------------------------------------------------------------
-- All constraints
------------------------------------------------------------

/- Every constraint of a field; all of them have to hold. -/
def applyEach
    (context : Context)
    (field : String) : List Constraint → Edit Bool
  | [] => return true
  | c :: rest => do
    let valid ← c.apply context field
    let others ← applyEach context field rest
    return valid && others

/- Every constraint on its field, with the verdicts of the fields. -/
def applyAll
    (context : Context) : Plan → Edit (Entries Bool)
  | [] => return []
  | (field, constraints) :: rest => do
    let verdict ← applyEach context field constraints
    return (field, verdict) :: (← applyAll context rest)

end Constraint

end RecordRules
