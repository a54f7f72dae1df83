import RecordRules.Text.Blank
import RecordRules.Text.Digit
import RecordRules.Text.Letter

/-
  Mail addresses.

  Main declarations:
    * `Email.isLocal`, what may stand before the at sign
    * `Email.isDomain`, what may stand after it
    * `Email.isAddress`
-/

namespace RecordRules

namespace Email

open Text

------------------------------------------------------------
-- Before the at sign
------------------------------------------------------------

/- The marks that have no place outside quotes. -/
def isReserved (c : Char) : Bool :=
  "<>()[]\\.,;:@\x22".toList.contains c

/- Whether a character may be part of an atom. -/
def isAtomChar (c : Char) : Bool :=
  !isReserved c && !isBlank c

/- Whether a text is an atom. -/
def isAtom (cs : List Char) : Bool :=
  !cs.isEmpty && cs.all isAtomChar

/- The pieces of a text between points. -/
def splitAtPoints (cs : List Char) : List (List Char) :=
  cs.splitOn '.'

/- Whether a text is in quotes, on one line and not empty. -/
def isQuotedText : List Char → Bool
  | '\x22' :: rest =>
    match rest.reverse with
    | '\x22' :: inner => !inner.isEmpty && !inner.contains '\n'
    | _ => false
  | _ => false

/- Atoms with points between them, or any text in quotes. -/
def isLocal (cs : List Char) : Bool :=
  (splitAtPoints cs).all isAtom || isQuotedText cs

------------------------------------------------------------
-- After the at sign
------------------------------------------------------------

/- Whether a text is a label of a domain. -/
def isLabel (cs : List Char) : Bool :=
  !cs.isEmpty && cs.all fun c =>
    isAsciiLetterForm c || (asciiDigit? c).isSome || c == '-'

/- Whether a text can be the last part of a domain. -/
def isTopLabel (cs : List Char) : Bool :=
  2 ≤ cs.length && cs.all isAsciiLetterForm

/- Whether a text is a part of a numeric address. -/
def isOctet (cs : List Char) : Bool :=
  1 ≤ cs.length && cs.length ≤ 3 &&
    cs.all fun c => (asciiDigit? c).isSome

/- Whether a text is a numeric address in brackets. -/
def isNumericDomain : List Char → Bool
  | '[' :: rest =>
    match rest.reverse with
    | ']' :: inner =>
      let parts := splitAtPoints inner.reverse
      parts.length == 4 && parts.all isOctet
    | _ => false
  | _ => false

/- Whether a text is labels with points between them. -/
def isNamedDomain (cs : List Char) : Bool :=
  match (splitAtPoints cs).reverse with
  | top :: label :: labels =>
    isTopLabel top && (label :: labels).all isLabel
  | _ => false

/- Labels with points between them, or a numeric address. -/
def isDomain (cs : List Char) : Bool :=
  isNumericDomain cs || isNamedDomain cs

------------------------------------------------------------
-- Addresses
------------------------------------------------------------

/- A text without the line end that may close it. -/
def withoutLineEnd (cs : List Char) : List Char :=
  match cs.reverse with
  | '\n' :: rest => rest.reverse
  | _ => cs

/-
  The two sides of the last at sign. Domains have none, so what is
  before the last one is the local part.
-/
def splitAtSign?
    (cs : List Char) : Option (List Char × List Char) :=
  let back := cs.reverse
  match back.dropWhile (· != '@') with
  | [] => none
  | _ :: before =>
    some (before.reverse, (back.takeWhile (· != '@')).reverse)

/- Whether a text, less a line end that closes it, is an address. -/
def isAddress (cs : List Char) : Bool :=
  match splitAtSign? (withoutLineEnd cs) with
  | none => false
  | some (before, after) => isLocal before && isDomain after

end Email

end RecordRules
