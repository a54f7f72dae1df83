/-
  Sets of characters given by closed ranges of code points.

  Main declarations:
    * `Text.RangeTable`, increasing disjoint ranges
    * `Text.RangeTable.contains`, membership by bisection
-/

namespace RecordRules

namespace Text

/-
  A set of characters as closed ranges of code points, in
  increasing order and pairwise apart.
-/
structure RangeTable where
  ranges : Array (Nat × Nat)

/-
  Membership among the ranges whose indices lie from `low` up to,
  and not including, `high`.
-/
def RangeTable.search
    (table : RangeTable)
    (point : Nat)
    (low high : Nat) : Bool :=
  if _h : low < high then
    let middle := (low + high) / 2
    match table.ranges[middle]? with
    | none => false
    | some (first, last) =>
      if point < first then
        table.search point low middle
      else if last < point then
        table.search point (middle + 1) high
      else
        true
  else
    false
termination_by high - low
decreasing_by all_goals omega

/- Whether a code point lies in one of the ranges. -/
def RangeTable.contains
    (table : RangeTable)
    (point : Nat) : Bool :=
  table.search point 0 table.ranges.size

end Text

end RecordRules
