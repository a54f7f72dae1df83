import RecordRules.Numeric.Shortest
import RecordRules.Text.Digit

/-
  Numbers as text.

  Main declarations:
    * `Numeric.grouped`, digits with a comma before every third
    * `Binary64.shortText`, the shortest text that reads back
    * `Binary64.fixedText`, a text with a given number of decimals
-/

namespace RecordRules

namespace Numeric

open Text

------------------------------------------------------------
-- Groups of three
------------------------------------------------------------

/- Digits from the right, with a comma after every third. -/
def groupReversed : List Char → List Char
  | a :: b :: c :: d :: rest =>
    a :: b :: c :: ',' :: groupReversed (d :: rest)
  | short => short

/- Digits in groups of three from the right. -/
def grouped (digits : List Char) : List Char :=
  (groupReversed digits.reverse).reverse

/- Digits, grouped where groups are wanted. -/
def groupedIf
    (groups : Bool)
    (digits : List Char) : List Char :=
  if groups then grouped digits else digits

/- An integer, grouped where groups are wanted. -/
def intText
    (groups : Bool)
    (n : Int) : List Char :=
  let digits := groupedIf groups (natDigits n.natAbs)
  if n < 0 then '-' :: digits else digits

------------------------------------------------------------
-- Shortest text
------------------------------------------------------------

/-
  Numbers whose decimal point stands at most this far right of
  their first digit are written without an exponent.
-/
def widestPoint : Int :=
  16

/-
  Numbers smaller than one are written without an exponent while
  fewer than this many zeros follow the point.
-/
def widestZeros : Int :=
  4

/- An exponent with its sign and at least two digits. -/
def exponentText (exponent : Int) : List Char :=
  let sign := if exponent < 0 then '-' else '+'
  'e' :: sign :: paddedDigits 2 exponent.natAbs

/-
  The digits of `coefficient * 10 ^ place`: positional in the
  middle range, with at least one decimal, and otherwise with an
  exponent after the first digit.
-/
def layout
    (groups : Bool)
    (coefficient : Nat)
    (place : Int) : List Char :=
  let digits := natDigits coefficient
  let point := digits.length + place
  if point ≤ -widestZeros ∨ widestPoint < point then
    let lead := digits.take 1
    let rest := digits.drop 1
    let fraction := if rest.isEmpty then [] else '.' :: rest
    lead ++ fraction ++ exponentText (point - 1)
  else if point ≤ 0 then
    '0' :: '.' :: List.replicate (-point).toNat '0' ++ digits
  else
    let whole := digits.take point.toNat
    let filled := whole ++ List.replicate (point.toNat - digits.length) '0'
    let rest := digits.drop point.toNat
    let fraction := if rest.isEmpty then ['0'] else rest
    groupedIf groups filled ++ '.' :: fraction

------------------------------------------------------------
-- Fixed decimals
------------------------------------------------------------

/-
  A quotient rounded to `decimals` places, ties to even; without
  places there is no point.
-/
def fixedLayout
    (groups : Bool)
    (decimals : Nat)
    (num den : Nat) : List Char :=
  let coefficient := nearest (num * tenPow decimals) den
  let digits := paddedDigits (decimals + 1) coefficient
  let whole := digits.take (digits.length - decimals)
  let fraction := digits.drop (digits.length - decimals)
  let tail := if decimals = 0 then [] else '.' :: fraction
  groupedIf groups whole ++ tail

end Numeric

namespace Binary64

open Numeric

/- A text after the sign of a number. -/
def signed
    (negative : Bool)
    (body : List Char) : List Char :=
  if negative then '-' :: body else body

/-
  The shortest text from which the number reads back, its whole
  part in groups where they are wanted.
-/
def shortText
    (groups : Bool) : Binary64 → List Char
  | nan => ['n', 'a', 'n']
  | infinite negative => signed negative ['i', 'n', 'f']
  | finite negative mantissa exponent _ =>
    if mantissa = 0 then
      signed negative ['0', '.', '0']
    else
      let decimal := shortestDecimal mantissa exponent
      signed negative (layout groups decimal.1 decimal.2)

/-
  The text with a given number of decimals, correctly rounded from
  the exact value.
-/
def fixedText
    (groups : Bool)
    (decimals : Nat) : Binary64 → List Char
  | nan => ['n', 'a', 'n']
  | infinite negative => signed negative ['i', 'n', 'f']
  | finite negative mantissa exponent _ =>
    signed negative
      (fixedLayout groups decimals
        (mantissa * twoPow exponent.toNat) (twoPow (-exponent).toNat))

end Binary64

end RecordRules
