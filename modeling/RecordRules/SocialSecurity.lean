import RecordRules.Text.Digit

/-
  Social security numbers.

  Main declarations:
    * `SocialSecurity.digits`, the digits of a text
    * `SocialSecurity.isIssuable`, whether digits can be a number
    * `SocialSecurity.isValid`, the same for a whole text
    * `SocialSecurity.grouped`, digits as area, group and serial
-/

namespace RecordRules

namespace SocialSecurity

open Text

/- The decimal digits of a text, of any script. -/
def digits (cs : List Char) : List Char :=
  cs.filter isDecimal

/- Areas that are not issued. -/
def isReservedArea : List Char → Bool
  | ['0', '0', '0'] => true
  | ['6', '6', '6'] => true
  | '9' :: _ => true
  | _ => false

/-
  Whether nine digits are an area, a group and a serial that are
  issued; groups and serials have to differ from zero.
-/
def isIssuable : List Char → Bool
  | [a, b, c, d, e, f, g, h, i] =>
    !isReservedArea [a, b, c] && [d, e] != ['0', '0'] &&
      [f, g, h, i] != ['0', '0', '0', '0']
  | _ => false

/- Whether the digits of a text can be a number. -/
def isValid (cs : List Char) : Bool :=
  isIssuable (digits cs)

/- Digits with hyphens around the group. -/
def grouped (digits : List Char) : List Char :=
  digits.take 3 ++ '-' :: (digits.drop 3).take 2 ++
    '-' :: digits.drop 5

end SocialSecurity

end RecordRules
