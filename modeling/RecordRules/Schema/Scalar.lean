import RecordRules.Numeric.Decimal
import RecordRules.Numeric.Natural
import RecordRules.Schema.Checked
import RecordRules.Text.Blank
import RecordRules.Value

/-
  Scalars in configurations, read leniently.

  Main declarations:
    * `Schema.readBool`, truth values, also as numbers and words
    * `Schema.readInt`, integers, also as numbers and texts
    * `Schema.readText`
    * `Schema.optional`, the same with null allowed
-/

namespace RecordRules

namespace Schema

open Text Numeric

------------------------------------------------------------
-- Truth values
------------------------------------------------------------

/- A text in small ASCII letters. -/
def lowerAscii (s : String) : String :=
  s.map Char.toLower

/- The words for what is false. -/
def noWords : List String :=
  ["0", "f", "n", "no", "off", "false"]

/- The words for what is true. -/
def yesWords : List String :=
  ["1", "t", "y", "yes", "on", "true"]

/- A word for a truth value, in letters of any case. -/
def readBoolText (s : String) : Checked Bool :=
  if noWords.contains (lowerAscii s) then
    .accepted false
  else if yesWords.contains (lowerAscii s) then
    .accepted true
  else
    .problem .boolParsing

/- Numbers whose size is this or more are not told apart further. -/
def wordSize : Int :=
  (twoPow 63 : Nat)

/- Zero and one as truth values. -/
def readBoolInt (n : Int) : Checked Bool :=
  if n = 0 then
    .accepted false
  else if n = 1 then
    .accepted true
  else
    .problem .boolParsing

/- Whether an integer is one of moderate size. -/
def isWord (n : Int) : Bool :=
  -wordSize ≤ n && n < wordSize

/- A truth value, or a number or a word that stands for one. -/
def readBool : Value → Checked Bool
  | .bool b => .accepted b
  | .text s => readBoolText s
  | .int n => if isWord n then readBoolInt n else .problem .boolType
  | .float x =>
    if x.isWhole && x.truncate.natAbs < wordSize.natAbs then
      readBoolInt x.truncate
    else
      .problem .boolType
  | _ => .problem .boolType

------------------------------------------------------------
-- Integers
------------------------------------------------------------

/- The ASCII digits of a numeral with single underscores. -/
def readNumeral (cs : List Char) : Option (List Nat) :=
  if cs.all (·.toNat < 128) then takeNumeral true cs else none

/- A text up to a point that only zeros follow. -/
def withoutZeroDecimals (cs : List Char) : List Char :=
  match cs.dropWhile (· != '.') with
  | '.' :: decimals =>
    if decimals.all (· == '0') then
      cs.takeWhile (· != '.')
    else
      cs
  | _ => cs

/- An integer in decimal notation; decimals have to be zeros. -/
def readIntText (s : String) : Checked Int :=
  let sign := takeSign (trimmed s.toList)
  match readNumeral (withoutZeroDecimals sign.2) with
  | none => .problem .intParsing
  | some digits =>
    if maxDigits < digits.length then
      .problem .intParsingSize
    else
      let size : Int := digitsValue digits
      .accepted (if sign.1 then -size else size)

/- A number without decimals. -/
def readIntFloat (x : Binary64) : Checked Int :=
  if !x.isFinite then
    .problem .finiteNumber
  else if !x.isWhole then
    .problem .intFromFloat
  else if wordSize.natAbs ≤ x.truncate.natAbs then
    .problem .intParsingSize
  else
    .accepted x.truncate

/- An integer, or a value that stands for one. -/
def readInt : Value → Checked Int
  | .bool b => .accepted b.toNat
  | .int n => .accepted n
  | .float x => readIntFloat x
  | .text s => readIntText s
  | _ => .problem .intType

------------------------------------------------------------
-- Texts and absent values
------------------------------------------------------------

/- A text. -/
def readText : Value → Checked String
  | .text s => .accepted s
  | _ => .problem .stringType

/- A value, or null for none. -/
def optional
    {α : Type}
    (read : Value → Checked α) : Value → Checked (Option α)
  | .null => .accepted none
  | v => (read v).map some

end Schema

end RecordRules
