import RecordRules.Text.Digit

/-
  Marks inside numbers: the commas between groups of three digits,
  and the comma that some write for the decimal point.

  Main declarations:
    * `Amount.ungroup`, a text without its grouping commas
    * `Amount.hasDecimalComma`, whether the comma is the decimal
      mark of a text
    * `Amount.withDecimalPoint`, such a text with a point instead
-/

namespace RecordRules

namespace Amount

open Text

------------------------------------------------------------
-- Groups of three
------------------------------------------------------------

/- Whether a text starts with three digits. -/
def startsWithGroup : List Char → Bool
  | a :: b :: c :: _ => isDecimal a && isDecimal b && isDecimal c
  | _ => false

/-
  A text put before one without grouping commas: a comma at its
  start goes if digits surround it, one before and three after.
-/
def joinGroup
    (c : Char) : List Char → List Char
  | ',' :: rest =>
    if isDecimal c && startsWithGroup rest then
      c :: rest
    else
      c :: ',' :: rest
  | rest => c :: rest

/-
  A text without its grouping commas. A comma that goes can bring
  three digits together for the comma before it, so the text is
  worked from its end.
-/
def ungroup (cs : List Char) : List Char :=
  cs.foldr joinGroup []

------------------------------------------------------------
-- Decimal commas
------------------------------------------------------------

/- Whether one or two digits, and at most a line end, are left. -/
def isShortFraction : List Char → Bool
  | [a] => isDecimal a
  | [a, b] => isDecimal a && (isDecimal b || b == '\n')
  | [a, b, c] => isDecimal a && isDecimal b && c == '\n'
  | _ => false

/- Whether a text is digits, a comma and one or two more digits. -/
def isCommaDecimal (cs : List Char) : Bool :=
  match cs.dropWhile isDecimal with
  | ',' :: rest => !(cs.takeWhile isDecimal).isEmpty && isShortFraction rest
  | _ => false

/- The last point or comma of a text. -/
def lastMark? (cs : List Char) : Option Char :=
  cs.reverse.find? fun c => c == '.' || c == ','

/-
  Whether the comma is the decimal mark: next to points it is when
  it comes last, and on its own when one or two digits follow it.
-/
def hasDecimalComma (cs : List Char) : Bool :=
  if cs.contains '.' && cs.contains ',' then
    lastMark? cs == some ','
  else
    isCommaDecimal cs

/- A text without points, with points for its commas. -/
def withDecimalPoint (cs : List Char) : List Char :=
  (cs.filter (· != '.')).map fun c => if c == ',' then '.' else c

end Amount

end RecordRules
