/-
  Powers and sums of natural numbers.

  Main declarations:
    * `Numeric.twoPow` and `Numeric.tenPow`
    * `Numeric.total`
-/

namespace RecordRules

namespace Numeric

/- A power of two. -/
abbrev twoPow (n : Nat) : Nat :=
  Nat.pow 2 n

/- A power of ten. -/
abbrev tenPow (n : Nat) : Nat :=
  Nat.pow 10 n

/- The sum of some numbers. -/
def total : List Nat → Nat
  | [] => 0
  | n :: rest => n + total rest

end Numeric

end RecordRules
