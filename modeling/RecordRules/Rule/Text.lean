import RecordRules.Date.Expression
import RecordRules.Email
import RecordRules.Phone.Reading
import RecordRules.Rule.Limit
import RecordRules.Rule.Report
import RecordRules.SocialSecurity
import RecordRules.TextFormat

/-
  Rules for texts.

  Main declarations:
    * `TextRule`, and `TextRule.ofArguments`
    * `TextRule.check`, the verdict of a rule
    * `TextRule.format`, `TextRule.formatSsn` and
      `TextRule.formatPhone`, the format steps
    * `TextRule.evaluate` and its two kin, a verdict followed by
      formatting
    * `TextRule.normalizePhone`
    * `TextRule.run`, a rule with options that are not yet read
-/

namespace RecordRules

open Edit Rule Text

/- What a text has to be. -/
inductive TextRule where
  | present
  | email
  | phone (region : Option String)
  | ssn
  | pattern (source : Value)
  | length (least most : Value)
  | atLeast (limit : Value)
  | atMost (limit : Value)

namespace TextRule

------------------------------------------------------------
-- Arguments
------------------------------------------------------------

/- The integer part of a number; the infinite ones have none. -/
def wholePart (x : Binary64) : Except Failure Value :=
  match x with
  | .nan => .ok .null
  | .infinite _ => .error .infiniteLength
  | x => .ok (.int x.truncate)

/- A value as a length, null if it cannot be read as one. -/
def lengthOf (v : Value) : Except Failure Value :=
  match v with
  | .int n => .ok (.int n)
  | .float x => wholePart x
  | .text s =>
    match Numeric.readInteger s.toList with
    | .ok n => .ok (.int n)
    | .error _ => .ok .null
  | _ => .ok .null

/- An argument as a length; a list has to hold one value. -/
def asLength (arguments : Value) : Except Failure Value :=
  match arguments with
  | .list [v] => lengthOf v
  | .list _ => .ok .null
  | v => lengthOf v

/- Whether a value counts as given, as a region has to. -/
def isGiven : Value → Bool
  | .null => false
  | .bool b => b
  | .int n => n != 0
  | .float x => x.isNaN || x.compareInt? 0 != some .eq
  | .text s => s != ""
  | .list items => !items.isEmpty
  | .object entries => !entries.isEmpty
  | .stamp _ => true
  | .day _ => true

/- The region that an argument names, in capitals. -/
def regionOf (arguments : Value) : Except Failure (Option String) :=
  match arguments with
  | .object entries =>
    match Entries.get? entries "region" with
    | none => .ok none
    | some v =>
      if isGiven v then do
        return some (String.ofList (upper (← v.print)))
      else
        .ok none
  | _ => .ok none

/- The rule of a given type; other types ask for a value only. -/
def ofArguments
    (type arguments : Value) : Except Failure TextRule :=
  match type with
  | .text "isEmail" => .ok email
  | .text "isPhone" => do return phone (← regionOf arguments)
  | .text "isSSN" => .ok ssn
  | .text "matchesPattern" => .ok (pattern (singleArgument arguments))
  | .text "hasLength" => do
    let pair := twoArguments arguments
    let least ← asLength pair.1
    return length least (← asLength pair.2)
  | .text "min" => do return atLeast (← asLength arguments)
  | .text "max" => do return atMost (← asLength arguments)
  | _ => .ok present

------------------------------------------------------------
-- Verdicts
------------------------------------------------------------

/- A value as a text, the empty one for an absent value. -/
def textOf (v : Value) : Except Failure (List Char) :=
  if v.isEmpty then .ok [] else v.print

/- The number in a text, read in a region or where one is by default. -/
def phoneNumber?
    (context : Context)
    (region : Option String)
    (cs : List Char) : Option Phone.Number :=
  Phone.Number.read? (messageOr region context.region) cs

/- The valid number in a text. -/
def validPhone?
    (context : Context)
    (region : Option String)
    (cs : List Char) : Option Phone.Number :=
  (phoneNumber? context region cs).filter (·.isValid)

/- Whether a pattern occurs in a text; a malformed one does not. -/
def occurs
    (source : Value)
    (cs : List Char) : Except Failure Bool :=
  match source with
  | .null => .ok false
  | source => do
    match Pattern.compile (← source.print) with
    | .ok compiled => return (compiled.search? cs.toArray).isSome
    | .error (.malformed _ _) => return false
    | .error fault => throw (.ofFault fault)

/- Whether a text that is not empty is what a rule asks for. -/
def holds
    (context : Context)
    (rule : TextRule)
    (cs : List Char) : Except Failure Bool :=
  match rule with
  | present => .ok true
  | email => .ok (Email.isAddress cs)
  | phone region => .ok (validPhone? context region cs).isSome
  | ssn => .ok (SocialSecurity.isValid cs)
  | pattern source => occurs source cs
  | length least most => Limit.isWithin (.length cs.length) least most
  | atLeast limit => Limit.isAtLeast (.length cs.length) limit
  | atMost limit => Limit.isAtMost (.length cs.length) limit

/- What is said when a text is not what a rule asks for. -/
def message : TextRule → Except Failure String
  | present => .ok ""
  | email => .ok "Please enter a valid email address"
  | phone _ => .ok "Please enter a valid phone number"
  | ssn => .ok "Please enter a valid Social Security Number"
  | pattern _ => .ok "Value does not match the required pattern"
  | length least most => do
    let low ← least.print
    let high ← most.print
    return "Value must be between " ++ String.ofList low ++ " and " ++
      String.ofList high ++ " characters"
  | atLeast limit => do
    return "Value must be at least " ++ String.ofList (← limit.print) ++
      " characters"
  | atMost limit => do
    return "Value must not exceed " ++ String.ofList (← limit.print) ++
      " characters"

/-
  The verdict of a rule on a field. That a value is there is never
  reported.
-/
def check
    (context : Context)
    (options : RuleOptions)
    (field : String)
    (rule : TextRule) : Edit Bool := do
  let v ← getField field
  match rule with
  | present => return v != .null
  | rule =>
    let cs ← ofResult (textOf v)
    let valid ←
      if cs.isEmpty then
        pure false
      else
        ofResult (rule.holds context cs)
    let standard ← ofResult rule.message
    report options field (!cs.isEmpty) valid standard
    return valid

------------------------------------------------------------
-- Formatting
------------------------------------------------------------

/-
  Writes a field in a format and gives the new value; an absent
  value stays as it is unless the options say otherwise.
-/
def format
    (options : GivenOptions)
    (field : String)
    (layout : TextFormat) : Edit Value := do
  let v ← getField field
  if v.isEmpty && !options.value.formatOnEmpty then
    return v
  let cs ← ofResult (textOf v)
  let text ← ofResult (layout.apply cs)
  if options.notesText && (← isLinked) then
    annotate .info field
      (messageOr options.value.infoMessage "String has been formatted")
  store options.value field text
  return .text (String.ofList text)

/- A social security number with hyphens, and what stands for none. -/
def formatSsn
    (options : RuleOptions)
    (field : String) : Edit (List Char) := do
  let v ← getField field
  let cs ← ofResult (textOf v)
  if cs.isEmpty && !options.formatOnEmpty then
    return cs
  if SocialSecurity.isValid cs then
    let text := SocialSecurity.grouped (SocialSecurity.digits cs)
    let change := "Value changed from " ++ String.ofList cs
    noteChange options field
      (.ok (options.infoMessage.getD change))
    store options field text
    return text
  else if options.setRecord then
    let text := "Invalid SSN".toList
    store options field text
    return text
  else
    return cs

/- The style that a name stands for, in letters of any case. -/
def styleOf (name : Option String) : Phone.Style :=
  Phone.Style.ofName (String.ofList (upper (name.getD "").toList))

/- A phone number in a style, and what stands for none. -/
def formatPhone
    (context : Context)
    (options : RuleOptions)
    (field : String)
    (style region : Option String) : Edit (List Char) := do
  let v ← getField field
  let cs ← ofResult (textOf v)
  if cs.isEmpty && !options.formatOnEmpty then
    return cs
  match validPhone? context region cs with
  | some number =>
    let text := number.render (styleOf style)
    let change := "Value changed from " ++ String.ofList cs
    noteChange options field
      (.ok (messageOr options.infoMessage change))
    store options field text
    return text
  | none =>
    if options.setRecord then
      let text := "Invalid Phone Number".toList
      store options field text
      return text
    else
      return cs

------------------------------------------------------------
-- Verdicts with formatting
------------------------------------------------------------

/-
  The verdict of a rule, followed by formatting if it is good, if
  failures are to be formatted too, or if the record is detached.
-/
def evaluate
    (context : Context)
    (options : GivenOptions)
    (field : String)
    (layout : TextFormat)
    (rule : TextRule) : Edit Bool := do
  let valid ← rule.check context options.value field
  if valid || options.value.formatOnError || !(← isLinked) then
    let _ ← format options field layout
  return valid

/- The same for social security numbers. -/
def evaluateSsn
    (context : Context)
    (options : RuleOptions)
    (field : String) : Edit Bool := do
  let valid ← ssn.check context options field
  if valid || options.formatOnError then
    let _ ← formatSsn options field
  return valid

/- The same for phone numbers. -/
def evaluatePhone
    (context : Context)
    (options : RuleOptions)
    (field : String)
    (style region : Option String) : Edit Bool := do
  let valid ← (phone region).check context options field
  if valid || options.formatOnError then
    let _ ← formatPhone context options field style region
  return valid

------------------------------------------------------------
-- Import of phone numbers
------------------------------------------------------------

/- Why a text is refused as a phone number, if it is. -/
def refusal? : Option Phone.Number → Option String
  | none => some "Invalid phone number (error)"
  | some number =>
    if !number.isPossible then
      some "Invalid phone number (impossible)"
    else if !number.isValid then
      some "Invalid phone number (invalid)"
    else
      none

/-
  Writes a phone number without spaces, with its calling code. What
  is no number is reported, and an absent value passes.
-/
def normalizePhone
    (field region : String) : Edit Bool := do
  let v ← getField field
  let cs ← ofResult (textOf v)
  if cs.isEmpty then
    return true
  let number := Phone.Number.read? region cs
  match number, refusal? number with
  | some number, none =>
    setField field (.text (String.ofList (number.render .compact)))
    return true
  | _, reason =>
    if ← isLinked then
      annotate .error field (reason.getD "")
    return false

/-
  A rule of a given type. Its arguments are read before options,
  which the rule that only asks for a value does without.
-/
def run
    (context : Context)
    (field : String)
    (type arguments options : Value) : Edit Bool := do
  let rule ← ofResult (ofArguments type arguments)
  match rule with
  | present => present.check context {} field
  | rule =>
    let given ← ofResult (RuleOptions.resolve options)
    rule.check context given.value field

end TextRule

end RecordRules
