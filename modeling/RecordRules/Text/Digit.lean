import RecordRules.Text.DigitTable

/-
  Digits of every script.

  Main declarations:
    * `Text.digitValue?`, the value of a decimal digit
    * `Text.isDecimal`, the characters that have such a value
    * `Text.isDigitForm`, the wider class with superscripts and
      circled digits
    * `Text.digitChar`, the ASCII digit of a value below ten
    * `Text.valueOf`, the number that digits to a base stand for
-/

namespace RecordRules

namespace Text

/- The value of an ASCII digit. -/
def asciiDigit? (c : Char) : Option Nat :=
  if 48 ≤ c.toNat ∧ c.toNat ≤ 57 then
    some (c.toNat - 48)
  else
    none

/-
  The value of a decimal digit of any script: its distance from
  the zero of its run.
-/
def digitValue? (c : Char) : Option Nat :=
  if c.toNat < 128 then
    asciiDigit? c
  else
    (decimalZeros.find? fun start =>
      start ≤ c.toNat && c.toNat < start + 10).map
        fun start => c.toNat - start

/- Whether a character is a decimal digit of some script. -/
def isDecimal (c : Char) : Bool :=
  (digitValue? c).isSome

/- Whether a character stands for one digit in any form. -/
def isDigitForm (c : Char) : Bool :=
  if c.toNat < 128 then
    (asciiDigit? c).isSome
  else
    digitForms.contains c.toNat

/- The ASCII digit of a value below ten. -/
def digitChar (d : Nat) : Char :=
  Char.ofNat (48 + d)

/- The value of a list of digit values, most significant first. -/
def digitsValue (digits : List Nat) : Nat :=
  digits.foldl (fun value d => 10 * value + d) 0

/- The ASCII decimal digits of a number. -/
def natDigits (n : Nat) : List Char :=
  Nat.toDigits 10 n

/- A number with at least `width` ASCII digits, zeros first. -/
def paddedDigits
    (width : Nat)
    (n : Nat) : List Char :=
  let digits := natDigits n
  List.replicate (width - digits.length) '0' ++ digits

/- The ASCII decimal text of an integer. -/
def intDigits (n : Int) : List Char :=
  if n < 0 then
    '-' :: natDigits n.natAbs
  else
    natDigits n.natAbs

/- The value of a hexadecimal digit. -/
def hexValue? (c : Char) : Option Nat :=
  let n := c.toNat
  if 48 ≤ n ∧ n ≤ 57 then
    some (n - 48)
  else if 97 ≤ n ∧ n ≤ 102 then
    some (n - 87)
  else if 65 ≤ n ∧ n ≤ 70 then
    some (n - 55)
  else
    none

/- The value of digits to a base. -/
def valueOf
    (base : Nat)
    (digits : List Char) : Nat :=
  digits.foldl (fun n c => base * n + (hexValue? c).getD 0) 0

end Text

end RecordRules
