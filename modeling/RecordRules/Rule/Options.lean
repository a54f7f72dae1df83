import RecordRules.Schema.Object

/-
  Options of rules.

  Main declarations:
    * `RuleOptions`
    * `RuleOptions.read`, options in a configuration
    * `RuleOptions.resolve`, options that may be left out
-/

namespace RecordRules

open Schema

/-
  What a rule does besides giving its verdict: whether it reports
  failures, also of absent values, with which message; whether it
  writes to the record; whether it says what it changed, with which
  message; and whether it formats in spite of a failure or of an
  absent value.
-/
structure RuleOptions where
  addError : Bool := true
  validateOnEmpty : Bool := false
  errorMessage : Option String := none
  setRecord : Bool := true
  addInfo : Bool := false
  infoMessage : Option String := none
  formatOnError : Bool := false
  formatOnEmpty : Bool := false
deriving DecidableEq

namespace RuleOptions

/- The fields of options. -/
def fieldNames : List String :=
  [ "add_error", "validate_on_empty", "error_msg", "set_record"
  , "add_info", "info_msg", "format_on_error", "format_on_empty" ]

/-
  Options in a configuration. What is no object is the given kind
  of problem.
-/
def read
    (otherwise : Kind)
    (v : Value) : Checked (Given RuleOptions) :=
  (readObject otherwise v).andThen fun entries =>
    withGiven entries fieldNames <|
      RuleOptions.mk
        <$> field entries "add_error" readBool true
        <*> field entries "validate_on_empty" readBool false
        <*> field entries "error_msg" (optional readText) none
        <*> field entries "set_record" readBool true
        <*> field entries "add_info" readBool false
        <*> field entries "info_msg" (optional readText) none
        <*> field entries "format_on_error" readBool false
        <*> field entries "format_on_empty" readBool false

/- Options without anything given. -/
def standard : Given RuleOptions :=
  ⟨{}, []⟩

/- Options, or the standard ones for null. -/
def resolve (v : Value) : Except Failure (Given RuleOptions) :=
  match v with
  | .null => .ok standard
  | v => (read .modelType v).toExcept

end RuleOptions

/- Options of a rule with what was given. -/
abbrev GivenOptions :=
  Given RuleOptions

namespace GivenOptions

/-
  Whether the formatting of texts is to be noted: it is unless this
  was turned off expressly.
-/
def notesText (options : GivenOptions) : Bool :=
  options.value.addInfo || !options.names.contains "add_info"

end GivenOptions

end RecordRules
