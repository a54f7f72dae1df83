import RecordRules.Schema.Scalar
import RecordRules.Text.Case

/-
  Settings, from the environment of a process.

  Main declarations:
    * `Settings`
    * `Settings.read`
-/

namespace RecordRules

open Schema Text

/- What can be set from outside. -/
structure Settings where
  databaseUrl : String
  dateDayFirst : Bool
  defaultPhoneRegion : String
  logLevel : String
  debug : Bool
deriving DecidableEq

namespace Settings

/- The value of a variable; letter case is not told apart. -/
def lookup?
    (environment : Entries String)
    (name : String) : Option String :=
  (environment.reverse.find? fun entry =>
    lower entry.1.toList == lower name.toList).map (·.2)

/- A text from a variable, or a value for when it is not set. -/
def text
    (environment : Entries String)
    (name default : String) : Checked String :=
  .accepted ((lookup? environment name).getD default)

/- A truth value from a variable, false when it is not set. -/
def flag
    (environment : Entries String)
    (name : String) : Checked Bool :=
  match lookup? environment name with
  | some s => (readBoolText s).under name
  | none => .accepted false

/- The settings that an environment gives. -/
def read (environment : Entries String) : Checked Settings :=
  Settings.mk
    <$> text environment "DATABASE_URL" "sqlite:///./fieldguard.db"
    <*> flag environment "DATE_DAYFIRST"
    <*> text environment "DEFAULT_PHONE_REGION" "US"
    <*> text environment "LOG_LEVEL" "INFO"
    <*> flag environment "DEBUG"

end Settings

end RecordRules
