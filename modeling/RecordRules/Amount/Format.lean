import RecordRules.Failure
import RecordRules.Numeric.Natural
import RecordRules.Numeric.Printed
import RecordRules.Value

/-
  Numbers in a given format.

  Main declarations:
    * `NumberFormat`, decimals, groups and affixes
    * `NumberFormat.body`, a number without affixes
    * `NumberFormat.render`
-/

namespace RecordRules

open Text Numeric

/-
  How a number is written: its decimals, whether thousands are set
  apart, and the texts that go before and after it.
-/
structure NumberFormat where
  decimals : Option Int := none
  groups : Bool := false
  lead : Option String := none
  tail : Option String := none
deriving DecidableEq

namespace NumberFormat

/- The most decimals that a number is ever written with. -/
def mostDecimals : Int :=
  (twoPow 31 : Nat) - 1

/- The largest count of decimals that can be asked for at all. -/
def largestCount : Int :=
  (twoPow 63 : Nat) - 1

/- A count of decimals, if numbers can be written with it. -/
def decimalCount (decimals : Int) : Except Failure Nat :=
  if tenPow maxDigits ≤ decimals.natAbs then
    .error .numberTooLong
  else if decimals < 0 then
    .error .noPrecision
  else if largestCount < decimals then
    .error .precisionTooLong
  else if mostDecimals < decimals then
    .error .precisionTooLarge
  else
    .ok decimals.toNat

/-
  A number without affixes: with the given decimals, or else whole
  numbers without any and other numbers in their shortest text.
-/
def body
    (format : NumberFormat)
    (x : Binary64) : Except Failure (List Char) :=
  match format.decimals with
  | some decimals => do
    return x.fixedText format.groups (← decimalCount decimals)
  | none =>
    if x.isWhole then
      .ok (intText format.groups x.truncate)
    else
      .ok (x.shortText format.groups)

/- A text between the affixes of a format. -/
def affixed
    (format : NumberFormat)
    (cs : List Char) : List Char :=
  (format.lead.getD "").toList ++ cs ++ (format.tail.getD "").toList

/- A number in a format. -/
def render
    (format : NumberFormat)
    (x : Binary64) : Except Failure (List Char) := do
  return format.affixed (← format.body x)

/-
  An integer in a format. One that the number format cannot hold
  is a failure, whether or not it has to be rounded.
-/
def renderInt
    (format : NumberFormat)
    (n : Int) : Except Failure (List Char) := do
  let x := Binary64.ofInt n
  match format.decimals with
  | some decimals =>
    let count ← decimalCount decimals
    if !x.isFinite then
      throw .numberTooLarge
    return format.affixed (x.fixedText format.groups count)
  | none =>
    if !x.isFinite then
      throw .numberTooLarge
    return format.affixed (intText format.groups n)

/- A value in a format; only numbers and truth values have one. -/
def renderValue
    (format : NumberFormat)
    (v : Value) : Except Failure (List Char) :=
  match v with
  | .float x => format.render x
  | .int n => format.renderInt n
  | .bool b => format.renderInt b.toNat
  | _ => .error .notFormattable

end NumberFormat

end RecordRules
