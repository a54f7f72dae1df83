import RecordRules.Amount.Format
import RecordRules.Amount.Reading
import RecordRules.Rule.Limit
import RecordRules.Rule.Report

/-
  Rules for numbers.

  Main declarations:
    * `NumberRule`, and `NumberRule.ofArguments`
    * `NumberRule.check`, the verdict of a rule
    * `NumberRule.format`, the format step
    * `NumberRule.evaluate`, the one followed by the other
    * `NumberRule.run`, a rule with options that are not yet read
-/

namespace RecordRules

open Edit Rule

/- What a number has to be. -/
inductive NumberRule where
  | anyNumber
  | positive
  | negative
  | whole
  | atLeast (limit : Value)
  | atMost (limit : Value)
  | within (least most : Value)

namespace NumberRule

/- The number of an argument as a limit, null if it has none. -/
def limitOf (v : Value) : Except Failure Value := do
  match ← Amount.parse v with
  | some x => return .float x
  | none => return .null

/- The rule of a given type; other types ask for a number only. -/
def ofArguments
    (type arguments : Value) : Except Failure NumberRule :=
  match type with
  | .text "isPositive" => .ok positive
  | .text "isNegative" => .ok negative
  | .text "isInteger" => .ok whole
  | .text "min" => do
    return atLeast (← limitOf (singleArgument arguments))
  | .text "max" => do
    return atMost (← limitOf (singleArgument arguments))
  | .text "between" => do
    let pair := twoArguments arguments
    let least ← limitOf pair.1
    return within least (← limitOf pair.2)
  | _ => .ok anyNumber

/- Whether a number is what a rule asks for. -/
def holds
    (rule : NumberRule)
    (x : Binary64) : Except Failure Bool :=
  match rule with
  | anyNumber => .ok true
  | positive => .ok (x.compareInt? 0 == some .gt)
  | negative => .ok (x.compareInt? 0 == some .lt)
  | whole => .ok x.isWhole
  | atLeast limit => Limit.isAtLeast (.number x) limit
  | atMost limit => Limit.isAtMost (.number x) limit
  | within least most => Limit.isWithin (.number x) least most

/- What is said when a number is not what a rule asks for. -/
def message : NumberRule → Except Failure String
  | anyNumber => .ok "Please enter a valid number"
  | positive => .ok "Value must be a positive number"
  | negative => .ok "Value must be a negative number"
  | whole => .ok "Value must be a whole number"
  | atLeast limit => do
    return "Value must be at least " ++
      String.ofList (← Amount.display limit)
  | atMost limit => do
    return "Value must not exceed " ++
      String.ofList (← Amount.display limit)
  | within least most => do
    let low ← Amount.display least
    let high ← Amount.display most
    return "Value must be between " ++ String.ofList low ++ " and " ++
      String.ofList high

/- The verdict of a rule on a field. -/
def check
    (options : RuleOptions)
    (field : String)
    (rule : NumberRule) : Edit Bool := do
  let standard ← ofResult rule.message
  let v ← getField field
  let valid ←
    if v.isEmpty then
      pure false
    else do
      match ← ofResult (Amount.parse v) with
      | some x => ofResult (rule.holds x)
      | none => pure false
  report options field (!v.isEmpty) valid standard
  return valid

/-
  Writes a field in a format and gives the text; what is no number
  stays as it is.
-/
def format
    (options : RuleOptions)
    (field : String)
    (layout : NumberFormat) : Edit (Option (List Char)) := do
  let v ← getField field
  if v.isEmpty then
    return none
  match ← ofResult (Amount.parse v) with
  | none => return none
  | some x =>
    let text ← ofResult (layout.render x)
    noteChange options field
      (changeMessage options "Value has been formatted from " v)
    store options field text
    return some text

/-
  The verdict of a rule, followed by formatting if it is good or if
  failures are to be formatted too.
-/
def evaluate
    (options : RuleOptions)
    (field : String)
    (layout : NumberFormat)
    (rule : NumberRule) : Edit Bool := do
  let valid ← rule.check options field
  if valid || options.formatOnError then
    let _ ← format options field layout
  return valid

/- A rule of a given type; its arguments are read before options. -/
def run
    (field : String)
    (type arguments options : Value) : Edit Bool := do
  let rule ← ofResult (ofArguments type arguments)
  let given ← ofResult (RuleOptions.resolve options)
  rule.check given.value field

end NumberRule

end RecordRules
