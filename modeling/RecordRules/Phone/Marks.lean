import RecordRules.Text.Case
import RecordRules.Text.Digit

/-
  The characters of phone numbers.

  Main declarations:
    * `Phone.isPlus` and `Phone.isSeparator`
    * `Phone.keypadDigit?`, the key of a letter
    * `Phone.dialled`, the digits that a text stands for
-/

namespace RecordRules

namespace Phone

open Text

/- The plus sign, also in its wide form. -/
def isPlus (c : Char) : Bool :=
  c == '+' || c.toNat == 0xff0b

/- The characters besides hyphens and spaces that set digits apart. -/
def separatorPoints : List Nat :=
  [ 0xa0, 0xad, 0x200b, 0x2053, 0x2060, 0x2212, 0x223c, 0x3000
  , 0x30fc, 0xff08, 0xff09, 0xff3b, 0xff3d, 0xff5e ]

/-
  Characters that may set the digits of a number apart: hyphens and
  dashes, spaces, brackets, points, slashes, tildes and the letter
  x.
-/
def isSeparator (c : Char) : Bool :=
  let n := c.toNat
  "-xX ().[]/~".toList.contains c ||
    (0x2010 ≤ n && n ≤ 0x2015) || (0xff0d ≤ n && n ≤ 0xff0f) ||
    separatorPoints.contains n

------------------------------------------------------------
-- Keypads
------------------------------------------------------------

/- The keys of a keypad with the letters on them. -/
def keypad : List (Nat × String) :=
  [ (2, "ABC"), (3, "DEF"), (4, "GHI"), (5, "JKL"), (6, "MNO")
  , (7, "PQRS"), (8, "TUV"), (9, "WXYZ") ]

/- The key of a letter or an ASCII digit. -/
def keypadDigit? (c : Char) : Option Nat :=
  match upperChar c with
  | [capital] =>
    (asciiDigit? capital).or
      ((keypad.find? fun key => key.2.toList.contains capital).map
        (·.1))
  | _ => none

/- Whether a text has letters that are meant to be dialled. -/
def isLettered (cs : List Char) : Bool :=
  3 ≤ cs.countP isAsciiLetter

/-
  The digits that a text stands for. Three letters or more are
  dialled on the keypad, fewer are passed over.
-/
def dialled (cs : List Char) : List Nat :=
  if isLettered cs then
    cs.filterMap keypadDigit?
  else
    cs.filterMap digitValue?

end Phone

end RecordRules
