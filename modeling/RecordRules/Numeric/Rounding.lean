/-
  Rounding a quotient of natural numbers to the nearest one.

  Main declarations:
    * `Numeric.nearest`, where a tie goes to the even neighbour
-/

namespace RecordRules

namespace Numeric

/-
  The natural number nearest to `num / den`. A quotient halfway
  between two numbers goes to the even one.
-/
def nearest (num den : Nat) : Nat :=
  let q := num / den
  let r := num % den
  if 2 * r < den then
    q
  else if den < 2 * r then
    q + 1
  else
    q + q % 2

end Numeric

end RecordRules
