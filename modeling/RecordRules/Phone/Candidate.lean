import RecordRules.Phone.Marks

/-
  The part of a text that can be a phone number.

  Main declarations:
    * `Phone.extracted`, a text from its first digit or plus sign
    * `Phone.context?`, the context that a number may carry
    * `Phone.candidate?`
-/

namespace RecordRules

namespace Phone

open Text

------------------------------------------------------------
-- Searching
------------------------------------------------------------

/- The text before the first occurrence of a mark, and after it. -/
def splitAtFirst?
    (mark : List Char)
    (cs : List Char) : Option (List Char × List Char) :=
  if mark.isPrefixOf cs then
    some ([], cs.drop mark.length)
  else
    match cs with
    | [] => none
    | c :: rest =>
      (splitAtFirst? mark rest).map fun parts =>
        (c :: parts.1, parts.2)

------------------------------------------------------------
-- Plain texts
------------------------------------------------------------

/- Whether a character can end a number. -/
def isNumberEnd (c : Char) : Bool :=
  c == '#' || (isWordChar c && c != '_')

/- Whether a text starts with a slash before a further number. -/
def startsSecondNumber : List Char → Bool
  | c :: rest =>
    (c == '/' || c == '\\') &&
      (rest.dropWhile (· == ' ')).head? == some 'x'
  | [] => false

/- A text up to the slash before a further number. -/
def beforeSecondNumber : List Char → List Char
  | [] => []
  | c :: rest =>
    if startsSecondNumber (c :: rest) then
      []
    else
      c :: beforeSecondNumber rest

/-
  A text from its first digit or plus sign to its last character
  that can end a number, and without a further number.
-/
def extracted (cs : List Char) : List Char :=
  let start := cs.dropWhile fun c => !(isPlus c || isDecimal c)
  let trimmed := (start.reverse.dropWhile (!isNumberEnd ·)).reverse
  beforeSecondNumber trimmed

------------------------------------------------------------
-- Contexts
------------------------------------------------------------

/- Letters and digits of names in a context. -/
def isNameChar (c : Char) : Bool :=
  isAsciiLetter c || isDecimal c

/- Whether a text is a part of a domain name. -/
def isNameLabel (cs : List Char) : Bool :=
  cs.head?.any isNameChar && cs.getLast?.any isNameChar &&
    cs.all fun c => isNameChar c || c == '-'

/- Whether a text is a domain name, perhaps with a final point. -/
def isDomainName (cs : List Char) : Bool :=
  match (cs.splitOn '.').reverse with
  | [] => false
  | [top] => isNameLabel top && top.head?.any isAsciiLetter
  | last :: top :: rest =>
    let labels := if last.isEmpty then top :: rest else last :: top :: rest
    labels.all isNameLabel &&
      (labels.head?.bind List.head?).any isAsciiLetter

/- Whether a text is a plus sign with digits and marks. -/
def isGlobalNumber : List Char → Bool
  | '+' :: rest =>
    rest.any isDecimal &&
      rest.all fun c => isDecimal c || "-.()".toList.contains c
  | _ => false

/- The context of a number, up to the next parameter. -/
def context? (cs : List Char) : Option (List Char) :=
  (splitAtFirst? ";phone-context=".toList cs).map fun parts =>
    parts.2.takeWhile (· != ';')

/- The text after the mark of a phone link, where there is one. -/
def linkStart (cs : List Char) : Nat :=
  match splitAtFirst? "tel:".toList cs with
  | some parts => parts.1.length + 4
  | none => 0

/-
  A number before its context. A context that is a number itself
  goes in front, one that is a domain name is passed over.
-/
def withContext?
    (cs : List Char)
    (context : List Char) : Option (List Char) :=
  let before :=
    match splitAtFirst? ";phone-context=".toList cs with
    | some parts => parts.1
    | none => cs
  let number := before.drop (linkStart cs)
  if isGlobalNumber context then
    some (context ++ number)
  else if isDomainName context then
    some number
  else
    none

/- A text without a subaddress, unless nothing comes before it. -/
def withoutSubaddress (cs : List Char) : List Char :=
  match splitAtFirst? ";isub=".toList cs with
  | some ([], _) => cs
  | some (before, _) => before
  | none => cs

/- The part of a text that can be a number. -/
def candidate? (cs : List Char) : Option (List Char) :=
  let found :=
    match context? cs with
    | some context => withContext? cs context
    | none => some (extracted cs)
  found.map withoutSubaddress

end Phone

end RecordRules
