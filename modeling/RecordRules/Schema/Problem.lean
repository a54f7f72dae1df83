/-
  What is wrong with a configuration that does not fit its shape.

  Main declarations:
    * `Schema.Kind`, the kinds of problem with their codes
    * `Schema.Problem`, a kind at a place in the configuration
    * `Schema.message`, problems as one text
-/

namespace RecordRules

namespace Schema

/- The kinds of problem. -/
inductive Kind where
  | missing
  | boolType
  | boolParsing
  | intType
  | intParsing
  | intParsingSize
  | intFromFloat
  | finiteNumber
  | stringType
  | choice
  | modelType
  | modelAttributesType
  | objectType
  | listType
  | refused
  | malformedBody
deriving DecidableEq

/- The code under which a kind of problem is reported. -/
def Kind.code : Kind → String
  | missing => "missing"
  | boolType => "bool_type"
  | boolParsing => "bool_parsing"
  | intType => "int_type"
  | intParsing => "int_parsing"
  | intParsingSize => "int_parsing_size"
  | intFromFloat => "int_from_float"
  | finiteNumber => "finite_number"
  | stringType => "string_type"
  | choice => "enum"
  | modelType => "model_type"
  | modelAttributesType => "model_attributes_type"
  | objectType => "dict_type"
  | listType => "list_type"
  | refused => "value_error"
  | malformedBody => "json_invalid"

/-
  A problem, and the keys and indices that lead to its place, the
  outermost first.
-/
structure Problem where
  path : List String
  kind : Kind
deriving DecidableEq

/- The same problem seen from one level further out. -/
def Problem.under
    (key : String)
    (problem : Problem) : Problem :=
  { problem with path := key :: problem.path }

/- A problem as a text: its place, a colon and its code. -/
def Problem.message (problem : Problem) : String :=
  String.intercalate "." problem.path ++ ": " ++ problem.kind.code

/- Problems in order, as one text. -/
def message (problems : List Problem) : String :=
  String.intercalate "; " (problems.map Problem.message)

end Schema

end RecordRules
