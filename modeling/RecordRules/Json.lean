import RecordRules.Numeric.Decimal
import RecordRules.Value

/-
  Values in JSON notation. Texts consist of whole characters: half
  of a surrogate pair without the other half, which an escape can
  write, is read as the replacement character U+FFFD.

  Main declarations:
    * `Json.Fault`, why a text is no JSON
    * `Json.readString`, the inside of a text in quotes
    * `Json.readNumber`
    * `Json.readValue` and `Json.read`
-/

namespace RecordRules

namespace Json

open Text Numeric

------------------------------------------------------------
-- Results
------------------------------------------------------------

/-
  Why a text is no JSON: the fault is where so many characters are
  left, or an integer has too many digits.
-/
inductive Fault where
  | malformed (left : Nat)
  | numberTooLong
deriving DecidableEq

/- A fault in front of the given rest. -/
def faultAt
    {α : Type}
    (rest : List Char)
    (back : Nat) : Except Fault α :=
  .error (.malformed (rest.length + back))

/- A text without the white space at its start. -/
def skipSpace (cs : List Char) : List Char :=
  cs.dropWhile fun c => c == ' ' || c == '\t' || c == '\n' || c == '\r'

------------------------------------------------------------
-- Texts
------------------------------------------------------------

/-
  Four hexadecimal digits. Something has to follow them, and a fault
  is at the letter in front of them.
-/
def readHex (cs : List Char) : Except Fault (Nat × List Char) :=
  match cs with
  | a :: b :: c :: d :: e :: rest =>
    match hexValue? a, hexValue? b, hexValue? c, hexValue? d with
    | some w, some x, some y, some z =>
      .ok (((w * 16 + x) * 16 + y) * 16 + z, e :: rest)
    | _, _, _, _ => faultAt cs 1
  | _ => faultAt cs 1

/- The character of a simple escape. -/
def escaped? (c : Char) : Option Char :=
  if c == '\x22' || c == '\\' || c == '/' then
    some c
  else if c == 'b' then
    some '\x08'
  else if c == 'f' then
    some '\x0c'
  else if c == 'n' then
    some '\n'
  else if c == 'r' then
    some '\r'
  else if c == 't' then
    some '\t'
  else
    none

/- The character of a code unit; a lone half of a pair is replaced. -/
def unitChar (unit : Nat) : Char :=
  if 0xd800 ≤ unit ∧ unit < 0xe000 then
    Char.ofNat 0xfffd
  else
    Char.ofNat unit

/-
  The character after a backslash and the letter u, with a second
  half after a first one.
-/
def readUnit (cs : List Char) : Except Fault (Char × List Char) := do
  let (high, rest) ← readHex cs
  if 0xd800 ≤ high ∧ high < 0xdc00 then
    match rest with
    | '\\' :: 'u' :: more =>
      if more.length < 5 then
        return (unitChar high, rest)
      let (low, after) ← readHex more
      if 0xdc00 ≤ low ∧ low < 0xe000 then
        let point := 0x10000 + (high - 0xd800) * 1024 + (low - 0xdc00)
        return (Char.ofNat point, after)
      else
        return (unitChar high, rest)
    | _ => return (unitChar high, rest)
  else
    return (unitChar high, rest)

/- The character after a backslash. -/
def readEscape
    (whole : Nat)
    (cs : List Char) : Except Fault (Char × List Char) :=
  match cs with
  | [] => .error (.malformed whole)
  | 'u' :: rest => readUnit rest
  | c :: rest =>
    match escaped? c with
    | some d => .ok (d, rest)
    | none => faultAt cs 1

/-
  The inside of a text in quotes, up to the closing quote. `whole`
  is how much was left at the opening quote, and `done` what was
  read, the last character first.
-/
def readString
    (whole : Nat)
    (done : List Char)
    (cs : List Char) : Nat → Except Fault (String × List Char)
  | 0 => .error (.malformed whole)
  | fuel + 1 =>
    match cs with
    | [] => .error (.malformed whole)
    | '\x22' :: rest => .ok (String.ofList done.reverse, rest)
    | '\\' :: rest =>
      match readEscape whole rest with
      | .ok (c, more) => readString whole (c :: done) more fuel
      | .error fault => .error fault
    | c :: rest =>
      if c.toNat < 32 then
        faultAt cs 0
      else
        readString whole (c :: done) rest fuel

------------------------------------------------------------
-- Numbers
------------------------------------------------------------

/- The longest run of ASCII digits at the start of a text. -/
def digitRun (cs : List Char) : List Char :=
  cs.takeWhile fun c => (asciiDigit? c).isSome

/- The whole part of a number: zero, or digits without one. -/
def wholePart (cs : List Char) : List Char :=
  match cs with
  | '0' :: _ => ['0']
  | cs => digitRun cs

/- A point with digits after it, or nothing. -/
def fractionPart (cs : List Char) : List Char :=
  match cs with
  | '.' :: rest =>
    let digits := digitRun rest
    if digits.isEmpty then [] else '.' :: digits
  | _ => []

/- The mark of an exponent with digits after it, or nothing. -/
def exponentPart (cs : List Char) : List Char :=
  match cs with
  | [] => []
  | mark :: rest =>
    if mark == 'e' || mark == 'E' then
      let sign := (rest.take 1).filter fun c => c == '+' || c == '-'
      let digits := digitRun (rest.drop sign.length)
      if digits.isEmpty then [] else mark :: (sign ++ digits)
    else
      []

/- An integer or, with a fraction or an exponent, a number. -/
def numberValue
    (negative : Bool)
    (whole fraction exponent : List Char) : Except Fault Value :=
  let sign := if negative then ['-'] else []
  if fraction.isEmpty && exponent.isEmpty then
    match readInteger (sign ++ whole) with
    | .ok n => .ok (.int n)
    | .error _ => .error .numberTooLong
  else
    match Decimal.read? (sign ++ whole ++ fraction ++ exponent) with
    | some d => .ok (.float d.toBinary64)
    | none => .error .numberTooLong

/- A number. -/
def readNumber (cs : List Char) : Except Fault (Value × List Char) := do
  let negative := cs.head? == some '-'
  let start := if negative then cs.drop 1 else cs
  let whole := wholePart start
  if whole.isEmpty then
    faultAt cs 0
  let afterWhole := start.drop whole.length
  let fraction := fractionPart afterWhole
  let afterFraction := afterWhole.drop fraction.length
  let exponent := exponentPart afterFraction
  let v ← numberValue negative whole fraction exponent
  return (v, afterFraction.drop exponent.length)

------------------------------------------------------------
-- Values
------------------------------------------------------------

/- The words for values, with the values that are no number. -/
def words : List (String × Value) :=
  [ ("null", .null), ("true", .bool true), ("false", .bool false)
  , ("NaN", .float .nan), ("Infinity", .float (.infinite false))
  , ("-Infinity", .float (.infinite true)) ]

/- A word for a value. -/
def readWord? (cs : List Char) : Option (Value × List Char) :=
  words.findSome? fun (word, v) =>
    if word.toList.isPrefixOf cs then
      some (v, cs.drop word.length)
    else
      none

mutual

/- A value, read in at most so many steps. -/
def readValue (cs : List Char) : Nat → Except Fault (Value × List Char)
  | 0 => faultAt cs 0
  | fuel + 1 =>
    match cs with
    | [] => faultAt cs 0
    | '\x22' :: rest => do
      let (s, rest) ←
        readString cs.length [] rest (rest.length + 1)
      return (.text s, rest)
    | '[' :: rest =>
      match skipSpace rest with
      | ']' :: rest => .ok (.list [], rest)
      | rest => readItems [] rest fuel
    | '\x7b' :: rest =>
      match skipSpace rest with
      | '\x7d' :: rest => .ok (.object [], rest)
      | rest => readEntries [] rest fuel
    | cs =>
      match readWord? cs with
      | some found => .ok found
      | none => readNumber cs

/- The items of a list after those already read, last first. -/
def readItems
    (done : List Value)
    (cs : List Char) : Nat → Except Fault (Value × List Char)
  | 0 => faultAt cs 0
  | fuel + 1 => do
    let (v, rest) ← readValue cs fuel
    match skipSpace rest with
    | ']' :: rest => return (.list (v :: done).reverse, rest)
    | ',' :: rest => readItems (v :: done) (skipSpace rest) fuel
    | rest => faultAt rest 0

/-
  The entries of an object after those already read, last first. A
  later value for a key replaces an earlier one.
-/
def readEntries
    (done : List (String × Value))
    (cs : List Char) : Nat → Except Fault (Value × List Char)
  | 0 => faultAt cs 0
  | fuel + 1 =>
    match cs with
    | '\x22' :: rest => do
      let (key, rest) ← readString cs.length [] rest (rest.length + 1)
      match skipSpace rest with
      | ':' :: rest =>
        let (v, rest) ← readValue (skipSpace rest) fuel
        let done := (key, v) :: done
        match skipSpace rest with
        | '\x7d' :: rest =>
          return (.object (Entries.ofList done.reverse), rest)
        | ',' :: rest => readEntries done (skipSpace rest) fuel
        | rest => faultAt rest 0
      | rest => faultAt rest 0
    | cs => faultAt cs 0

end

/- A whole text as a value. -/
def read (cs : List Char) : Except Fault Value := do
  let (v, rest) ← readValue (skipSpace cs) (2 * cs.length + 2)
  match skipSpace rest with
  | [] => return v
  | rest => faultAt rest 0

/- The place of a fault, counted from the start of a text. -/
def Fault.place
    (cs : List Char)
    (left : Nat) : Nat :=
  cs.length - left

end Json

end RecordRules
