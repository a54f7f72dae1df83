import RecordRules.Amount.Format
import RecordRules.Schema.Object
import RecordRules.TextFormat

/-
  Formats in configurations.

  Main declarations:
    * `NumberFormat.read`
    * `TextFormat.read`
-/

namespace RecordRules

open Schema

/- The fields of a format for numbers. -/
def NumberFormat.fieldNames : List String :=
  ["decimals", "thousands_separator", "prefix", "suffix"]

/- A format for numbers. -/
def NumberFormat.read (v : Value) : Checked (Given NumberFormat) :=
  (readObject .modelType v).andThen fun entries =>
    withGiven entries fieldNames <|
      NumberFormat.mk
        <$> field entries "decimals" (optional readInt) none
        <*> field entries "thousands_separator" readBool false
        <*> field entries "prefix" (optional readText) none
        <*> field entries "suffix" (optional readText) none

/- A replacement. -/
def Replacement.read (v : Value) : Checked Replacement :=
  (readObject .modelType v).andThen fun entries =>
    Replacement.mk
      <$> required entries "search" readText
      <*> required entries "replace" readText
      <*> field entries "regex" readBool false

/- The fields of a format for texts. -/
def TextFormat.fieldNames : List String :=
  [ "case", "trim", "pad_start", "pad_end", "pad_char", "truncate"
  , "replace", "prefix", "suffix" ]

/- A format for texts. -/
def TextFormat.read (v : Value) : Checked (Given TextFormat) :=
  (readObject .modelType v).andThen fun entries =>
    withGiven entries fieldNames <|
      TextFormat.mk
        <$> field entries "case" (optional readText) none
        <*> field entries "trim" readBool false
        <*> field entries "pad_start" (optional readInt) none
        <*> field entries "pad_end" (optional readInt) none
        <*> field entries "pad_char" (optional readText) none
        <*> field entries "truncate" (optional readInt) none
        <*> field entries "replace" (optional Replacement.read) none
        <*> field entries "prefix" (optional readText) none
        <*> field entries "suffix" (optional readText) none

end RecordRules
