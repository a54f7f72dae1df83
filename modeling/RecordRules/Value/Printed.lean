import RecordRules.Calendar.IsoText
import RecordRules.Failure
import RecordRules.Numeric.Natural
import RecordRules.Numeric.Printed
import RecordRules.Text.Quoted
import RecordRules.Value

/-
  Values as text.

  Main declarations:
    * `Value.quoted`, the text of a value within a list or object
    * `Value.print`, the text of a value on its own
-/

namespace RecordRules

open Text Numeric

/- An integer as text; it may not have too many digits. -/
def Numeric.printInt (n : Int) : Except Failure (List Char) :=
  if tenPow maxDigits ≤ n.natAbs then
    .error .numberTooLong
  else
    .ok (intDigits n)

/- Texts with a comma and a space between them. -/
def Text.commaSeparated : List (List Char) → List Char
  | [] => []
  | [cs] => cs
  | cs :: rest => cs ++ ',' :: ' ' :: commaSeparated rest

------------------------------------------------------------
-- Days and instants
------------------------------------------------------------

/- Numbers with commas between them. -/
def Text.numberList (ns : List Nat) : List Char :=
  commaSeparated (ns.map natDigits)

/- A day within a list. -/
def Day.quoted (d : Day) : List Char :=
  "datetime.date(".toList ++ numberList [d.year, d.month, d.day] ++
    [')']

/- The parts of an instant, without seconds that are zero. -/
def Instant.parts (t : Instant) : List Nat :=
  let base :=
    [t.day.year, t.day.month, t.day.day, t.time.hour, t.time.minute]
  if t.time.micro ≠ 0 then
    base ++ [t.time.second, t.time.micro]
  else if t.time.second ≠ 0 then
    base ++ [t.time.second]
  else
    base

/- An offset from UTC within a list. -/
def Stamp.quotedOffset (seconds : Int) : List Char :=
  if seconds = 0 then
    "datetime.timezone.utc".toList
  else
    let days := seconds / 86400
    let rest := (seconds % 86400).toNat
    let dayPart :=
      if days = 0 then
        []
      else
        "days=".toList ++ intDigits days ++
          (if rest = 0 then [] else [',', ' '])
    let restPart :=
      if rest = 0 then [] else "seconds=".toList ++ natDigits rest
    "datetime.timezone(datetime.timedelta(".toList ++ dayPart ++
      restPart ++ [')', ')']

/- A stamp within a list. -/
def Stamp.quoted (s : Stamp) : List Char :=
  "datetime.datetime(".toList ++ numberList s.instant.parts ++
    (match s.offset with
      | none => []
      | some seconds =>
        ", tzinfo=".toList ++ Stamp.quotedOffset seconds) ++
    [')']

------------------------------------------------------------
-- Values
------------------------------------------------------------

namespace Value

/- A truth value as text. -/
def printBool (b : Bool) : List Char :=
  if b then "True".toList else "False".toList

mutual

/- The text of a value within a list or an object. -/
def quoted : Value → Except Failure (List Char)
  | null => .ok "None".toList
  | bool b => .ok (printBool b)
  | int n => printInt n
  | float x => .ok (x.shortText false)
  | text s => .ok (Text.quoted s.toList)
  | stamp s => .ok s.quoted
  | day d => .ok d.quoted
  | list items => do
    return '[' :: commaSeparated (← quotedItems items) ++ [']']
  | object entries => do
    return '\x7b' :: commaSeparated (← quotedEntries entries) ++
      ['\x7d']

/- The texts of the values of a list. -/
def quotedItems : List Value → Except Failure (List (List Char))
  | [] => .ok []
  | v :: rest => do
    let first ← v.quoted
    return first :: (← quotedItems rest)

/- The texts of the entries of an object. -/
def quotedEntries :
    List (String × Value) → Except Failure (List (List Char))
  | [] => .ok []
  | (name, v) :: rest => do
    let first ← v.quoted
    let entry := Text.quoted name.toList ++ ':' :: ' ' :: first
    return entry :: (← quotedEntries rest)

end

/-
  The text of a value on its own: texts stand for themselves, days
  and instants are written in the international notation.
-/
def print : Value → Except Failure (List Char)
  | text s => .ok s.toList
  | stamp s => .ok (s.isoText ' ')
  | day d => .ok d.isoText
  | v => v.quoted

end Value

end RecordRules
