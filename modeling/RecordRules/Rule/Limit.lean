import RecordRules.Failure
import RecordRules.Value

/-
  Numbers against limits that may be any value.

  Main declarations:
    * `Limit.Measure`, a number or a length
    * `Limit.isAtLeast` and `Limit.isAtMost`
    * `Limit.isWithin`
-/

namespace RecordRules

namespace Limit

/- What is compared with a limit. -/
inductive Measure where
  | number (x : Binary64)
  | length (n : Nat)

/-
  The order of a measure and a limit; a number that is none has no
  order, and only numbers and truth values can be limits.
-/
def order
    (m : Measure)
    (limit : Value) : Except Failure (Option Ordering) :=
  match m, limit with
  | .number x, .float y => .ok (x.compare? y)
  | .number x, .int n => .ok (x.compareInt? n)
  | .number x, .bool b => .ok (x.compareInt? b.toNat)
  | .length n, .float y =>
    .ok ((y.compareInt? n).map Ordering.swap)
  | .length n, .int k => .ok (some (compare (n : Int) k))
  | .length n, .bool b => .ok (some (compare n b.toNat))
  | _, _ => .error .notComparable

/- Whether a measure is a limit or more; no limit is not enough. -/
def isAtLeast
    (m : Measure)
    (limit : Value) : Except Failure Bool :=
  match limit with
  | .null => .ok false
  | limit => do
    let order ← order m limit
    return order == some .gt || order == some .eq

/- Whether a measure is a limit or less; no limit is not enough. -/
def isAtMost
    (m : Measure)
    (limit : Value) : Except Failure Bool :=
  match limit with
  | .null => .ok false
  | limit => do
    let order ← order m limit
    return order == some .lt || order == some .eq

/-
  Whether a measure is within two limits, both included; the upper
  one is looked at only if the lower one is met.
-/
def isWithin
    (m : Measure)
    (least most : Value) : Except Failure Bool :=
  if least = .null ∨ most = .null then
    .ok false
  else do
    if ← isAtLeast m least then
      isAtMost m most
    else
      return false

end Limit

end RecordRules
