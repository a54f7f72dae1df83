import RecordRules.Numeric.Decimal
import RecordRules.Pattern.Expr
import RecordRules.Text.Name

/-
  Reading a pattern or a replacement token by token.

  Main declarations:
    * `Pattern.Token`, a character or an escaped character
    * `Pattern.Scan`, the text still to be read with the groups and
      flags met so far
    * `Pattern.Reading`, steps that may fail with a fault
    * `Pattern.readUntil`, names up to a closing mark
    * `Pattern.readCodePoint?`, the escapes that give a number
-/

namespace RecordRules

namespace Pattern

open Text Numeric

------------------------------------------------------------
-- Tokens
------------------------------------------------------------

/- A character, or a character after a backslash. -/
inductive Token where
  | plain (c : Char)
  | escaped (c : Char)
deriving DecidableEq

/- The characters of a token. -/
def Token.text : Token → List Char
  | plain c => [c]
  | escaped c => ['\\', c]

/- Settings that a pattern can make. -/
structure Flags where
  ignoreCase : Bool
  multiline : Bool
  dotAll : Bool
  verbose : Bool
  asciiOnly : Bool
  anyScript : Bool
  template : Bool
deriving DecidableEq

/- No settings made. -/
def Flags.unset : Flags :=
  ⟨false, false, false, false, false, false, false⟩

/- How letter case is told apart under the settings. -/
def Flags.fold (flags : Flags) : Fold :=
  if !flags.ignoreCase then
    .exact
  else if flags.asciiOnly then
    .ascii
  else
    .everywhere

------------------------------------------------------------
-- Steps
------------------------------------------------------------

/-
  What is still to be read, and what has been met: the names of
  groups, the width of each closed group, the number of groups
  before the look behind that is being read, and the first place
  of each condition on a group by number.
-/
structure Scan where
  source : List Char
  rest : List Char
  flags : Flags
  names : List (List Char × Nat)
  widths : List (Option Width)
  lookbehind : Option Nat
  conditions : List (Nat × Nat)

/- A scan of a text from its start. -/
def Scan.start (source : List Char) : Scan :=
  { source
    rest := source
    flags := .unset
    names := []
    widths := []
    lookbehind := none
    conditions := [] }

/- Steps of reading that may fail. -/
abbrev Reading :=
  StateT Scan (Except Fault)

/- The offset of the next token. -/
def offset : Reading Nat := do
  let scan ← get
  return scan.source.length - scan.rest.length

/- Fails at a given offset. -/
def failAt
    {α : Type}
    (cause : Cause)
    (place : Nat) : Reading α := do
  throw (.malformed cause (some (Place.of (← get).source place)))

/- Fails a number of characters before the next token. -/
def failBefore
    {α : Type}
    (cause : Cause)
    (back : Nat) : Reading α := do
  failAt cause ((← offset) - back)

/- Refuses a backslash with nothing after it. -/
def checkEscape : Reading Unit := do
  let scan ← get
  if scan.rest = ['\\'] then
    failAt .escapeAtEnd (scan.source.length - 1)

/- The next token. -/
def peek : Reading (Option Token) := do
  match (← get).rest with
  | [] => return none
  | '\\' :: c :: _ => return some (.escaped c)
  | c :: _ => return some (.plain c)

/- Takes the next token. -/
def next : Reading (Option Token) := do
  let token ← peek
  let taken := token.elim 0 (·.text.length)
  modify fun scan => { scan with rest := scan.rest.drop taken }
  checkEscape
  return token

/- Takes the next token if it is the given character. -/
def accept (c : Char) : Reading Bool := do
  if (← peek) = some (.plain c) then
    let _ ← next
    return true
  else
    return false

/- Takes up to a number of characters of a kind. -/
def takeWhileUpTo (kind : Char → Bool) : Nat → Reading (List Char)
  | 0 => return []
  | count + 1 => do
    match ← peek with
    | some (.plain c) =>
      if kind c then
        let _ ← next
        return c :: (← takeWhileUpTo kind count)
      else
        return []
    | _ => return []

/- Takes the characters of a kind that come next. -/
def takeAll (kind : Char → Bool) : Reading (List Char) := do
  takeWhileUpTo kind (← get).rest.length

/- Takes a name up to a closing mark, given its characters so far. -/
def readUntilAfter
    (mark : Char)
    (what : String)
    (name : List Char) : Nat → Reading (List Char)
  | 0 => failBefore (.missing what) 0
  | fuel + 1 => do
    match ← next with
    | none =>
      if name.isEmpty then
        failBefore (.missing what) 0
      else
        failBefore (.unterminatedName mark) name.length
    | some token =>
      if token = .plain mark then
        if name.isEmpty then failBefore (.missing what) 1 else return name
      else
        readUntilAfter mark what (name ++ token.text) fuel

/- Takes a name up to a closing mark. -/
def readUntil
    (mark : Char)
    (what : String) : Reading (List Char) := do
  readUntilAfter mark what [] ((← get).rest.length + 1)

------------------------------------------------------------
-- Numbers
------------------------------------------------------------

/- Whether a character is an ASCII digit. -/
def isPlainDigit (c : Char) : Bool :=
  (asciiDigit? c).isSome

/- Whether a character is an octal digit. -/
def isOctal (c : Char) : Bool :=
  48 ≤ c.toNat && c.toNat ≤ 55

/-
  A number within a pattern, in ASCII digits. No more digits are
  read than a whole number may have.
-/
def numberOf (digits : List Char) : Reading Nat := do
  if maxDigits < digits.length then
    throw (.numberTooLong digits.length)
  return valueOf 10 digits

/-
  A hexadecimal escape: the mark after the backslash, and exactly
  so many digits.
-/
def readHex
    (mark : Char)
    (count : Nat) : Reading Nat := do
  let digits ← takeWhileUpTo (fun c => (hexValue? c).isSome) count
  let escape := '\\' :: mark :: digits
  if digits.length < count then
    failBefore (.incompleteEscape escape) escape.length
  let value := valueOf 16 digits
  if 0x10ffff < value then
    failBefore (.badEscape escape) escape.length
  return value

/- A character given by name between braces. -/
def readNamed : Reading Nat := do
  if !(← accept '\x7b') then
    failBefore (.missing "\x7b") 0
  let name ← readUntil '\x7d' "character name"
  match characterNamed? name with
  | some value => return value
  | none =>
    failBefore (.unknownCharacterName name) (name.length + 4)

/- The characters that a letter after a backslash stands for. -/
def controlOf? (c : Char) : Option Nat :=
  match c with
  | 'a' => some 7
  | 'b' => some 8
  | 'f' => some 12
  | 'n' => some 10
  | 'r' => some 13
  | 't' => some 9
  | 'v' => some 11
  | '\\' => some 92
  | _ => none

/- The escapes for one character that do not depend on context. -/
def readCodePoint? (c : Char) : Reading (Option Nat) := do
  match c with
  | 'x' => return some (← readHex 'x' 2)
  | 'u' => return some (← readHex 'u' 4)
  | 'U' => return some (← readHex 'U' 8)
  | 'N' => return some (← readNamed)
  | _ => return none

/- An octal escape, refused when it exceeds one byte. -/
def octalValue (digits : List Char) : Reading Nat := do
  let value := valueOf 8 digits
  if 0o377 < value then
    let escape := '\\' :: digits
    failBefore (.octalTooLarge escape) escape.length
  return value

end Pattern

end RecordRules
