/-
  Blank characters and trimming.

  Main declarations:
    * `Text.isBlank`, the white space of Unicode 14 together with
      the four information separators
    * `Text.strip`, a text without blanks at either end
    * `Text.isPadding`, the blanks that may stand around a numeral,
      and `Text.trimmed`
-/

namespace RecordRules

namespace Text

/-
  White space: the ASCII controls from tab to carriage return, the
  four information separators, the space, the next-line control
  and the spaces and line ends of Unicode 14.
-/
def isBlank (c : Char) : Bool :=
  let n := c.toNat
  (9 ≤ n && n ≤ 13) || (28 ≤ n && n ≤ 32) || n == 0x85 || n == 0xa0
    || n == 0x1680 || (0x2000 ≤ n && n ≤ 0x200a) || n == 0x2028
    || n == 0x2029 || n == 0x202f || n == 0x205f || n == 0x3000

/- A text without the blanks at its start. -/
def stripStart (cs : List Char) : List Char :=
  cs.dropWhile isBlank

/- A text without the blanks at its end. -/
def stripEnd (cs : List Char) : List Char :=
  (cs.reverse.dropWhile isBlank).reverse

/- A text without blanks at either end. -/
def strip (cs : List Char) : List Char :=
  stripEnd (stripStart cs)

/- Blanks, of which separators of information are none here. -/
def isPadding (c : Char) : Bool :=
  isBlank c && !(28 ≤ c.toNat && c.toNat ≤ 31)

/- A text without such blanks at either end. -/
def trimmed (cs : List Char) : List Char :=
  ((cs.dropWhile isPadding).reverse.dropWhile isPadding).reverse

end Text

end RecordRules
