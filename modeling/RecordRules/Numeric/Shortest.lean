import RecordRules.Numeric.Binary64

/-
  The shortest decimal digits that determine a number.

  Main declarations:
    * `Numeric.Span`, the quotients that round to a number
    * `Numeric.shortestDecimal`, the fewest digits of a decimal in
      the span, and of those the nearest
-/

namespace RecordRules

namespace Numeric

------------------------------------------------------------
-- Spans
------------------------------------------------------------

/-
  A number `value / den` with the ends `low / den` and `high / den`
  of the quotients that round to it. The ends belong to the span
  where the mantissa is even.
-/
structure Span where
  low : Nat
  value : Nat
  high : Nat
  den : Nat
  closed : Bool

/-
  The span of a positive number. The gap below the least mantissa
  of an exponent is half as wide as the gap above it.
-/
def Span.of
    (mantissa : Nat)
    (exponent : Int) : Span :=
  let below :=
    if mantissa = twoPow 52 ∧ exponent ≠ -1074 then 1 else 2
  let up := twoPow exponent.toNat
  { low := (4 * mantissa - below) * up
    value := 4 * mantissa * up
    high := (4 * mantissa + 2) * up
    den := 4 * twoPow (-exponent).toNat
    closed := mantissa % 2 = 0 }

/-
  Whether `coefficient * 10 ^ place` lies in a span.
-/
def Span.holds
    (span : Span)
    (coefficient : Nat)
    (place : Int) : Bool :=
  let left := coefficient * tenPow place.toNat * span.den
  let shift := tenPow (-place).toNat
  if span.closed then
    span.low * shift ≤ left && left ≤ span.high * shift
  else
    span.low * shift < left && left < span.high * shift

------------------------------------------------------------
-- Digits
------------------------------------------------------------

/-
  The number of decimal digits before the point of a quotient of
  at least one, and otherwise the negated number of zeros after
  it. The loop raises an estimate that is never too high.
-/
def decimalPoint
    (num den : Nat)
    (estimate : Int) : Nat → Int
  | 0 => estimate
  | fuel + 1 =>
    if num * tenPow (-estimate).toNat < tenPow estimate.toNat * den then
      estimate
    else
      decimalPoint num den (estimate + 1) fuel

/- The position of the decimal point of a positive quotient. -/
def pointOf (num den : Nat) : Int :=
  let bits : Int := (num.log2 : Int) - den.log2
  decimalPoint num den (bits * 30103 / 100000 - 2) 8

/-
  The neighbours of the value among the multiples of
  `10 ^ place`: the one that lies in the span, and of two the
  nearer, a tie going to the even one.
-/
def Span.neighbour?
    (span : Span)
    (place : Int) : Option Nat :=
  let num := span.value * tenPow (-place).toNat
  let den := span.den * tenPow place.toNat
  let lower := num / den
  let upper := lower + 1
  match span.holds lower place, span.holds upper place with
  | true, true => some (nearest num den)
  | true, false => some lower
  | false, true => some upper
  | false, false => none

/- The first grid, from coarse to fine, with a point in the span. -/
def Span.search
    (span : Span)
    (point : Int)
    (count : Nat) : Nat → Nat × Int
  | 0 => (0, point)
  | fuel + 1 =>
    match span.neighbour? (point - count) with
    | some coefficient => (coefficient, point - count)
    | none => span.search point (count + 1) fuel

/-
  A coefficient without the zeros at its end, with its place.
-/
def dropZeros
    (coefficient : Nat)
    (place : Int) : Nat → Nat × Int
  | 0 => (coefficient, place)
  | fuel + 1 =>
    if coefficient ≠ 0 ∧ coefficient % 10 = 0 then
      dropZeros (coefficient / 10) (place + 1) fuel
    else
      (coefficient, place)

/-
  The shortest decimal `coefficient * 10 ^ place` that rounds to a
  positive number. Seventeen digits always suffice.
-/
def shortestDecimal
    (mantissa : Nat)
    (exponent : Int) : Nat × Int :=
  let span := Span.of mantissa exponent
  let found := span.search (pointOf span.value span.den) 1 17
  dropZeros found.1 found.2 17

end Numeric

end RecordRules
