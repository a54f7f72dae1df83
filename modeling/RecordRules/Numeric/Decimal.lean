import RecordRules.Numeric.Binary64
import RecordRules.Text.Blank
import RecordRules.Text.Digit

/-
  Decimal texts.

  Main declarations:
    * `Decimal`, a coefficient with a power of ten
    * `Decimal.toBinary64`, the nearest double-precision number
    * `Decimal.read?`, plain and scientific decimal notation
    * `Numeric.readInteger`, whole numbers with underscores
-/

namespace RecordRules

open Text

------------------------------------------------------------
-- Decimals
------------------------------------------------------------

/- The number `± coefficient * 10 ^ exponent`. -/
structure Decimal where
  negative : Bool
  coefficient : Nat
  exponent : Int
deriving DecidableEq

namespace Decimal

/-
  The nearest double-precision number. Decimals whose first digit
  lies far outside the range of the format are settled without
  working out their power of ten.
-/
def toBinary64 (d : Decimal) : Binary64 :=
  let size : Int := (natDigits d.coefficient).length
  if d.coefficient = 0 ∨ size + d.exponent < -330 then
    .signedZero d.negative
  else if 330 < size + d.exponent then
    .infinite d.negative
  else
    .ofRatio d.negative
      (d.coefficient * Numeric.tenPow d.exponent.toNat)
      (Numeric.tenPow (-d.exponent).toNat)

end Decimal

------------------------------------------------------------
-- Reading decimals
------------------------------------------------------------

namespace Numeric

/- The longest run of decimal digits, as values, and the rest. -/
def takeDigits : List Char → List Nat × List Char
  | [] => ([], [])
  | c :: rest =>
    match digitValue? c with
    | some d =>
      let more := takeDigits rest
      (d :: more.1, more.2)
    | none => ([], c :: rest)

/- An optional sign: whether it is a minus, and the rest. -/
def takeSign : List Char → Bool × List Char
  | '-' :: rest => (true, rest)
  | '+' :: rest => (false, rest)
  | rest => (false, rest)

/- An exponent mark with digits, or nothing at all. -/
def takeExponent : List Char → Int × List Char
  | [] => (0, [])
  | c :: rest =>
    if c == 'e' || c == 'E' then
      let sign := takeSign rest
      let digits := takeDigits sign.2
      if digits.1.isEmpty then
        (0, c :: rest)
      else
        let size : Int := digitsValue digits.1
        (if sign.1 then -size else size, digits.2)
    else
      (0, c :: rest)

/- The decimals after a point, where there is one. -/
def takeFraction : List Char → List Nat × List Char
  | '.' :: rest => takeDigits rest
  | rest => ([], rest)

end Numeric

namespace Decimal

open Numeric

/-
  Reads a whole text as a decimal: an optional sign, digits with at
  most one point and at least one digit, and an optional exponent.
-/
def read? (cs : List Char) : Option Decimal :=
  let sign := takeSign cs
  let whole := takeDigits sign.2
  let fraction := takeFraction whole.2
  let exponent := takeExponent fraction.2
  if (whole.1 ++ fraction.1).isEmpty || !exponent.2.isEmpty then
    none
  else
    some
      { negative := sign.1
        coefficient := digitsValue (whole.1 ++ fraction.1)
        exponent := exponent.1 - fraction.1.length }

end Decimal

------------------------------------------------------------
-- Whole numbers
------------------------------------------------------------

namespace Numeric

/- The most digits a whole number may have in a text. -/
def maxDigits : Nat :=
  4300

/- Why a text is no whole number. -/
inductive IntegerFault where
  | malformed
  | tooLong (digits : Nat)
deriving DecidableEq

/-
  Digits with single underscores between them. The flag says that
  a digit comes next, as at the start and after an underscore.
-/
def takeNumeral
    (digitNext : Bool) : List Char → Option (List Nat)
  | [] => if digitNext then none else some []
  | '_' :: rest =>
    if digitNext then none else takeNumeral true rest
  | c :: rest =>
    match digitValue? c with
    | some d => (takeNumeral false rest).map (d :: ·)
    | none => none

/-
  Reads a whole number: padding around it, an optional sign, and
  digits that single underscores may separate.
-/
def readInteger (cs : List Char) : Except IntegerFault Int :=
  let sign := takeSign (trimmed cs)
  match takeNumeral true sign.2 with
  | none => .error .malformed
  | some digits =>
    if maxDigits < digits.length then
      .error (.tooLong digits.length)
    else
      let size : Int := digitsValue digits
      .ok (if sign.1 then -size else size)

end Numeric

end RecordRules
