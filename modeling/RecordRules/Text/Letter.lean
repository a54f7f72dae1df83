import RecordRules.Text.Digit
import RecordRules.Text.LetterTable

/-
  Letters, word characters and identifiers.

  Main declarations:
    * `Text.isAsciiLetter` and `Text.isAsciiLetterForm`
    * `Text.isLetter`
    * `Text.isWordChar`, letters, numerals and the underscore
    * `Text.isIdentifier`, the texts that may name something
-/

namespace RecordRules

namespace Text

/- Whether a character is an ASCII letter. -/
def isAsciiLetter (c : Char) : Bool :=
  (65 ≤ c.toNat && c.toNat ≤ 90) || (97 ≤ c.toNat && c.toNat ≤ 122)

/-
  Whether a character is an ASCII letter or a form of one: the
  dotted and the dotless i, the long s and the Kelvin sign.
-/
def isAsciiLetterForm (c : Char) : Bool :=
  isAsciiLetter c || [0x130, 0x131, 0x17f, 0x212a].contains c.toNat

/- Whether a character is a letter of some script. -/
def isLetter (c : Char) : Bool :=
  if c.toNat < 128 then
    isAsciiLetter c
  else
    letters.contains c.toNat

/- Whether a character is a letter or a numeral of some script. -/
def isLetterOrNumeral (c : Char) : Bool :=
  if c.toNat < 128 then
    isAsciiLetter c || (asciiDigit? c).isSome
  else
    letters.contains c.toNat || numerals.contains c.toNat

/- Letters, numerals and the underscore make up words. -/
def isWordChar (c : Char) : Bool :=
  c == '_' || isLetterOrNumeral c

/- Whether a name may start with the character. -/
def startsIdentifier (c : Char) : Bool :=
  c == '_' ||
    (isLetter c && !lettersOutsideNames.contains c.toNat) ||
    letterNumerals.contains c.toNat

/- Whether a name may go on with the character. -/
def continuesIdentifier (c : Char) : Bool :=
  c == '_' ||
    (isLetterOrNumeral c && !outsideIdentifiers.contains c.toNat) ||
    joiners.contains c.toNat

/- Whether a text is a name. -/
def isIdentifier : List Char → Bool
  | [] => false
  | c :: rest => startsIdentifier c && rest.all continuesIdentifier

end Text

end RecordRules
