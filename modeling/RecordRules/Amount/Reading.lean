import RecordRules.Amount.Currency
import RecordRules.Amount.Grouping
import RecordRules.Value.Printed

/-
  The numbers that values stand for.

  Main declarations:
    * `Amount.plain`, a text without currency, spaces and groups
    * `Amount.read?`, the number in a text
    * `Amount.parse`, the number of a value
    * `Amount.display`, a number as messages show it
-/

namespace RecordRules

namespace Amount

open Text Numeric

/- A number if it is finite. -/
def finite? (x : Binary64) : Option Binary64 :=
  if x.isFinite then some x else none

/- A text with its grouping taken out and a decimal point. -/
def withoutMarks (cs : List Char) : List Char :=
  if hasDecimalComma cs then withDecimalPoint cs else ungroup cs

/- A text without sign as a plain decimal text. -/
def plain (cs : List Char) : List Char :=
  withoutMarks ((splitCurrency cs).2.filter (· != ' '))

/- The finite number in a text without a sign in front of it all. -/
def readUnsigned? (cs : List Char) : Option Binary64 := do
  finite? (← Decimal.read? (plain cs)).toBinary64

/-
  The finite number in a text, which may start with a minus and
  may have a currency, groups and either decimal mark.
-/
def read? (cs : List Char) : Option Binary64 :=
  match strip cs with
  | [] => none
  | '-' :: rest => (readUnsigned? (strip rest)).map (-·)
  | text => readUnsigned? text

/-
  The finite number of a value. Truth values have none, and an
  integer too large for the number format is a failure.
-/
def parse (v : Value) : Except Failure (Option Binary64) :=
  match v with
  | .null | .bool _ => .ok none
  | .float x => .ok (finite? x)
  | .int n =>
    let x := Binary64.ofInt n
    if x.isFinite then .ok (some x) else .error .numberTooLarge
  | v => do return read? (← v.print)

/- A value as messages show it: whole numbers have no decimals. -/
def display (v : Value) : Except Failure (List Char) :=
  match v with
  | .float x =>
    if x.isWhole then .ok (intDigits x.truncate) else v.print
  | v => v.print

end Amount

end RecordRules
