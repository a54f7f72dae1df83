import RecordRules.Text.Digit
import RecordRules.Text.PrintableTable

/-
  Quoted texts.

  Main declarations:
    * `Text.isPrintable`
    * `Text.quoted`, a text between quotation marks, with every
      character that has no visible form shown by its number
-/

namespace RecordRules

namespace Text

/- Whether a character is shown as itself. -/
def isPrintable (c : Char) : Bool :=
  32 ≤ c.toNat && !unprintable.contains c.toNat

/- A number in small hexadecimal digits, `width` of them at least. -/
def hexDigits
    (width : Nat)
    (n : Nat) : List Char :=
  let digits := Nat.toDigits 16 n
  List.replicate (width - digits.length) '0' ++ digits

/- One character inside quotation marks of the given kind. -/
def quotedChar
    (mark : Char)
    (c : Char) : List Char :=
  if c == mark || c == '\\' then
    ['\\', c]
  else if c == '\t' then
    ['\\', 't']
  else if c == '\n' then
    ['\\', 'n']
  else if c == '\r' then
    ['\\', 'r']
  else if isPrintable c then
    [c]
  else if c.toNat < 0x100 then
    '\\' :: 'x' :: hexDigits 2 c.toNat
  else if c.toNat < 0x10000 then
    '\\' :: 'u' :: hexDigits 4 c.toNat
  else
    '\\' :: 'U' :: hexDigits 8 c.toNat

/-
  A text between single marks, or between double ones where it
  holds single marks only.
-/
def quoted (cs : List Char) : List Char :=
  let mark :=
    if cs.contains '\x27' && !cs.contains '\x22' then '\x22' else '\x27'
  mark :: cs.flatMap (quotedChar mark) ++ [mark]

end Text

end RecordRules
