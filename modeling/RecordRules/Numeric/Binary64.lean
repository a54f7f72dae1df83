import RecordRules.Numeric.Natural
import RecordRules.Numeric.Rounding

/-
  Double-precision numbers, kept exactly as a mantissa and a power
  of two.

  Main declarations:
    * `Binary64.Canonical`, the pairs that have a place in the
      format
    * `Binary64`, finite numbers, the two infinities and the value
      that is no number
    * `Binary64.ofRatio`, the number nearest to a quotient
    * `Binary64.ofInt`
    * `Binary64.unitsOf`, a finite number counted in the smallest
      positive one
    * `Binary64.compare?` and `Binary64.compareInt?`
    * `Binary64.isWhole` and `Binary64.truncate`
-/

namespace RecordRules

open Numeric

/-
  A mantissa below `2 ^ 53` and an exponent in range. Only numbers
  at the lowest exponent may have a mantissa below `2 ^ 52`, so
  each number has one such pair.
-/
def Binary64.Canonical
    (mantissa : Nat)
    (exponent : Int) : Prop :=
  mantissa < twoPow 53 ∧ -1074 ≤ exponent ∧ exponent ≤ 971 ∧
    (twoPow 52 ≤ mantissa ∨ exponent = -1074)

instance
    (mantissa : Nat)
    (exponent : Int) :
    Decidable (Binary64.Canonical mantissa exponent) := by
  unfold Binary64.Canonical
  infer_instance

/- A double-precision number. -/
inductive Binary64 where
  | nan
  | infinite (negative : Bool)
  | finite
      (negative : Bool)
      (mantissa : Nat)
      (exponent : Int)
      (canonical : Binary64.Canonical mantissa exponent)
deriving DecidableEq

namespace Binary64

------------------------------------------------------------
-- Nearest numbers
------------------------------------------------------------

/- Zero with a sign. -/
def signedZero (negative : Bool) : Binary64 :=
  finite negative 0 (-1074) (by decide)

instance : Inhabited Binary64 :=
  ⟨signedZero false⟩

/- The quotient `num / den / 2 ^ exponent` as a pair. -/
def scaled
    (num den : Nat)
    (exponent : Int) : Nat × Nat :=
  if 0 ≤ exponent then
    (num, den * twoPow exponent.toNat)
  else
    (num * twoPow (-exponent).toNat, den)

/-
  The exponent at which a positive quotient has a mantissa of 53
  bits, or the lowest exponent for a quotient too small for that.
-/
def exponentOf (num den : Nat) : Int :=
  let estimate := max ((num.log2 : Int) - den.log2 - 53) (-1074)
  let pair := scaled num den estimate
  if twoPow 53 ≤ pair.1 / pair.2 then
    estimate + 1
  else
    estimate

/- The mantissa and exponent nearest to a positive quotient. -/
def nearestPair (num den : Nat) : Nat × Int :=
  let exponent := exponentOf num den
  let pair := scaled num den exponent
  let mantissa := Numeric.nearest pair.1 pair.2
  if mantissa = twoPow 53 then
    (twoPow 52, exponent + 1)
  else
    (mantissa, exponent)

/-
  The number nearest to `num / den`, ties to the even mantissa; a
  quotient beyond the largest number gives the infinite one.
-/
def ofRatio
    (negative : Bool)
    (num den : Nat) : Binary64 :=
  if num = 0 then
    signedZero negative
  else
    let pair := nearestPair num den
    if canonical : Canonical pair.1 pair.2 then
      finite negative pair.1 pair.2 canonical
    else
      infinite negative

/- The number nearest to an integer. -/
def ofInt (n : Int) : Binary64 :=
  ofRatio (decide (n < 0)) n.natAbs 1

------------------------------------------------------------
-- Classes and signs
------------------------------------------------------------

/- Whether the value is a number other than the infinite ones. -/
def isFinite : Binary64 → Bool
  | finite .. => true
  | _ => false

/- Whether the value is no number. -/
def isNaN : Binary64 → Bool
  | nan => true
  | _ => false

/- The number with the other sign. -/
def neg : Binary64 → Binary64
  | nan => nan
  | infinite negative => infinite (!negative)
  | finite negative mantissa exponent canonical =>
    finite (!negative) mantissa exponent canonical

instance : Neg Binary64 :=
  ⟨neg⟩

------------------------------------------------------------
-- Order
------------------------------------------------------------

/-
  How many times the smallest positive number, `2 ^ (-1074)`, goes
  into a finite number of this mantissa and exponent.
-/
def unitsOf
    (negative : Bool)
    (mantissa : Nat)
    (exponent : Int) : Int :=
  let size : Int :=
    (mantissa * twoPow (exponent + 1074).toNat : Nat)
  if negative then -size else size

/- One in smallest positive numbers. -/
def oneUnits : Int :=
  (twoPow 1074 : Nat)

/- A number against a count of smallest positive numbers. -/
def compareUnits?
    (x : Binary64)
    (n : Int) : Option Ordering :=
  match x with
  | nan => none
  | infinite true => some .lt
  | infinite false => some .gt
  | finite negative mantissa exponent _ =>
    some (compare (unitsOf negative mantissa exponent) n)

/- The order of two numbers; what is no number has none. -/
def compare? (x y : Binary64) : Option Ordering :=
  match y with
  | nan => none
  | infinite negative =>
    match x with
    | nan => none
    | infinite other =>
      some (compare other.toNat negative.toNat).swap
    | finite .. => some (if negative then .gt else .lt)
  | finite negative mantissa exponent _ =>
    x.compareUnits? (unitsOf negative mantissa exponent)

/- The order of a number and an integer. -/
def compareInt?
    (x : Binary64)
    (n : Int) : Option Ordering :=
  x.compareUnits? (n * oneUnits)

------------------------------------------------------------
-- Whole numbers
------------------------------------------------------------

/- Whether a number is an integer. -/
def isWhole : Binary64 → Bool
  | finite _ mantissa exponent _ =>
    mantissa % twoPow (-exponent).toNat == 0
  | _ => false

/- The integer part of a finite number, towards zero. -/
def truncate : Binary64 → Int
  | finite negative mantissa exponent _ =>
    let size : Int :=
      (mantissa * twoPow exponent.toNat /
        twoPow (-exponent).toNat : Nat)
    if negative then -size else size
  | _ => 0

end Binary64

end RecordRules
