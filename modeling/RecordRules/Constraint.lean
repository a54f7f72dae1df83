import RecordRules.Rule.Options
import RecordRules.Schema.Formats

/-
  Constraints on fields, as configurations describe them.

  Main declarations:
    * `Validator`, `Mode` and `Constraint`
    * `Constraint.read`, a constraint in a configuration
    * `Constraint.parseAll`, the constraints of all fields
-/

namespace RecordRules

open Schema

------------------------------------------------------------
-- Constraints
------------------------------------------------------------

/- The families of rules. -/
inductive Validator where
  | date
  | text
  | number
deriving DecidableEq

/- The name of a family. -/
def Validator.name : Validator → String
  | date => "DateValidator"
  | text => "StringValidator"
  | number => "NumberValidator"

/- What is done: a verdict, formatting, both, or a phone import. -/
inductive Mode where
  | evaluateAndFormat
  | validate
  | format
  | normalizePhone
deriving DecidableEq

/- The name of a mode. -/
def Mode.name : Mode → String
  | evaluateAndFormat => "evaluateAndFormat"
  | validate => "validate"
  | format => "format"
  | normalizePhone => "normalizePhone"

/-
  How a constraint works: its mode, the type of its rule with the
  arguments, a format, the options of a format and those of the
  rule.
-/
structure ConstraintConfig where
  mode : Mode := .evaluateAndFormat
  ruleType : String := "validate"
  format : Option String := none
  formatOptions : Option (Entries Value) := none
  arguments : Value := .null
  options : Option GivenOptions := none
deriving DecidableEq

/- A family of rules and how it is used on a field. -/
structure Constraint where
  validator : Validator
  config : ConstraintConfig
deriving DecidableEq

------------------------------------------------------------
-- Reading
------------------------------------------------------------

/- One of some values with names. -/
def Schema.readChoice
    {α : Type}
    (choices : List α)
    (name : α → String) : Value → Checked α
  | .text s =>
    match choices.find? fun a => name a == s with
    | some a => .accepted a
    | none => .problem .choice
  | _ => .problem .choice

/- A family of rules. -/
def Validator.read : Value → Checked Validator :=
  readChoice [date, text, number] name

/- A mode. -/
def Mode.read : Value → Checked Mode :=
  readChoice [evaluateAndFormat, validate, format, normalizePhone] name

/- How a constraint works. -/
def ConstraintConfig.read
    (otherwise : Kind)
    (v : Value) : Checked ConstraintConfig :=
  (readObject otherwise v).andThen fun entries =>
    ConstraintConfig.mk
      <$> field entries "type" Mode.read .evaluateAndFormat
      <*> field entries "validation_type" readText "validate"
      <*> field entries "format" (optional readText) none
      <*> field entries "format_options"
        (optional (readObject .objectType)) none
      <*> field entries "validation_args" .accepted .null
      <*> field entries "options"
        (optional (RuleOptions.read otherwise)) none

namespace Constraint

/- Whether the options of the format are fit for a family. -/
def checkFormat
    (validator : Validator)
    (formatOptions : Entries Value) : Checked Unit :=
  if formatOptions.isEmpty then
    .accepted ()
  else
    match validator with
    | .text => (TextFormat.read (.object formatOptions)).map fun _ => ()
    | .number =>
      (NumberFormat.read (.object formatOptions)).map fun _ => ()
    | .date => .accepted ()

/- A constraint whose parts fit together. -/
def checkParts (c : Constraint) : Checked Constraint :=
  if c.config.mode = .normalizePhone ∧ c.validator ≠ .text then
    .problem .refused
  else
    (checkFormat c.validator (c.config.formatOptions.getD [])).map
      fun _ => c

/-
  A constraint in a configuration. What should be an object and is
  none is the given kind of problem.
-/
def read
    (otherwise : Kind)
    (v : Value) : Checked Constraint :=
  (readObject otherwise v).andThen fun entries =>
    let whole : Checked Constraint :=
      Constraint.mk
        <$> required entries "validator" Validator.read
        <*> field entries "config" (ConstraintConfig.read otherwise) {}
    whole.andThen checkParts

------------------------------------------------------------
-- All constraints
------------------------------------------------------------

/- The constraints of every field, in order. -/
abbrev Plan :=
  Entries (List Constraint)

/- The items of a value that holds several. -/
def itemsOf : Value → Except Failure (List Value)
  | .list items => .ok items
  | .object entries => .ok (entries.map fun entry => .text entry.1)
  | .text s => .ok (s.toList.map fun c => .text (String.ofList [c]))
  | _ => .error .notIterable

/- The constraints of one field; the first problem counts. -/
def parseField (v : Value) : Except Failure (List Constraint) := do
  let items ← itemsOf v
  items.mapM fun item => (read .modelType item).toExcept

/- The constraints of all fields; the first problem counts. -/
def parseAll (v : Value) : Except Failure Plan :=
  match v with
  | .object entries =>
    entries.mapM fun (name, items) => do
      return (name, ← parseField items)
  | _ => .error .notAMapping

end Constraint

end RecordRules
