import RecordRules.Pattern.CharTest
import RecordRules.Phone.Marks

/-
  Extensions of phone numbers.

  Main declarations:
    * `Phone.Introduction`, what may come before the digits of an
      extension
    * `Phone.extension?`, the digits of a text that is an extension
    * `Phone.isViable`, whether a text can be a phone number
    * `Phone.splitExtension`, a number and its extension
-/

namespace RecordRules

namespace Phone

open Text

------------------------------------------------------------
-- Introductions
------------------------------------------------------------

/- Whether two characters differ in letter case at most. -/
def sameLetter (c d : Char) : Bool :=
  let fold := Pattern.Fold.everywhere
  (fold.members (fold.key c)).contains d

/- What is left of a text after a label in any letter case. -/
def afterLabel?
    (label : List Char)
    (cs : List Char) : Option (List Char) :=
  match label, cs with
  | [], cs => some cs
  | _ :: _, [] => none
  | d :: label, c :: rest =>
    if sameLetter c d then afterLabel? label rest else none

/- Spaces and tabs. -/
def isGap (c : Char) : Bool :=
  c == ' ' || c == '\t' || c.toNat == 0xa0

/- Whether a text may stand between a label and its digits. -/
def isLabelEnd (cs : List Char) : Bool :=
  let loose (c : Char) : Bool := isGap c || c == ',' || c == '-'
  match cs with
  | [] => true
  | c :: rest =>
    (loose c || c == ':' || c == '.' || c.toNat == 0xff0e) &&
      rest.all loose

/- The middle parts of the word for an extension. -/
def extensionMiddles : List String :=
  ["", "ensio", "ensio\u0301", "ensi\u00f3"]

/- The words that announce an extension. -/
def extensionWords : List String :=
  let plain :=
    ["xt", "ext"].flatMap fun start =>
      extensionMiddles.flatMap fun middle =>
        [start ++ middle, start ++ middle ++ "n"]
  plain ++
    [ "\uff58\uff54", "\uff45\uff58\uff54", "\uff58\uff54\uff4e"
    , "\uff45\uff58\uff54\uff4e", "\u0434\u043e\u0431", "anexo" ]

/- The signs that may announce an extension. -/
def extensionSigns : List String :=
  [ "x", "\uff58", "#", "\uff03", "~", "\uff5e", "int"
  , "\uff49\uff4e\uff54" ]

/- Whether a text is one of some labels with its surroundings. -/
def isLabelled
    (labels : List String)
    (cs : List Char) : Bool :=
  let text := cs.dropWhile fun c => isGap c || c == ','
  labels.any fun label =>
    match afterLabel? label.toList text with
    | some rest => isLabelEnd rest
    | none => false

/- What may come before the digits of an extension. -/
inductive Introduction where
  | parameter
  | word
  | sign
  | hyphens
  | pause
  | commas
deriving DecidableEq

namespace Introduction

/- Every kind of introduction. -/
def all : List Introduction :=
  [parameter, word, sign, hyphens, pause, commas]

/- The most digits of an extension after an introduction. -/
def mostDigits : Introduction → Nat
  | parameter | word => 20
  | pause => 15
  | sign | commas => 9
  | hyphens => 6

/- Whether a text is an introduction of a kind. -/
def covers
    (kind : Introduction)
    (cs : List Char) : Bool :=
  match kind with
  | parameter => afterLabel? ";ext=".toList cs == some []
  | word => isLabelled extensionWords cs
  | sign => isLabelled extensionSigns cs
  | hyphens => !cs.isEmpty && cs.all fun c => c == '-' || c == ' '
  | pause =>
    match cs.dropWhile isGap with
    | ',' :: ',' :: rest => isLabelEnd rest
    | ';' :: rest => isLabelEnd rest
    | _ => false
  | commas =>
    match cs.dropWhile isGap with
    | ',' :: rest => isLabelEnd (rest.dropWhile (· == ','))
    | _ => false

/-
  Whether a number sign may close an extension after an
  introduction of a kind; after hyphens alone it has to.
-/
def allowsEnd
    (kind : Introduction)
    (closed : Bool) : Bool :=
  match kind with
  | parameter => !closed
  | hyphens => closed
  | _ => true

end Introduction

------------------------------------------------------------
-- Extensions
------------------------------------------------------------

/- The decimal digits that end a text. -/
def finalDigits (cs : List Char) : List Char :=
  (cs.reverse.takeWhile isDecimal).reverse

/-
  The digits of a text that is an extension as a whole: an
  introduction, digits, and perhaps a number sign.
-/
def extension? (cs : List Char) : Option (List Char) :=
  let closed := cs.getLast? == some '#'
  let body := if closed then cs.dropLast else cs
  let digits := finalDigits body
  let lead := body.take (body.length - digits.length)
  let fits (kind : Introduction) : Bool :=
    digits.length ≤ kind.mostDigits && kind.allowsEnd closed &&
      kind.covers lead
  if !digits.isEmpty && Introduction.all.any fits then
    some digits
  else
    none

------------------------------------------------------------
-- Numbers
------------------------------------------------------------

/- Separators, stars and digits. -/
def isNumberChar (c : Char) : Bool :=
  isSeparator c || c == '*' || isDecimal c

/-
  Whether a text can be a number without extension: plus signs,
  three digits with separators around them, then also letters.
-/
def isNumberBody (cs : List Char) : Bool :=
  let text := cs.dropWhile isPlus
  3 ≤ (text.takeWhile isNumberChar).countP isDecimal &&
    text.all fun c => isNumberChar c || isAsciiLetterForm c

/- Whether a text can be a number, perhaps with an extension. -/
def isViable (cs : List Char) : Bool :=
  (cs.length == 2 && cs.all isDecimal) ||
    (List.range (cs.length + 1)).any fun count =>
      let tail := cs.drop count
      isNumberBody (cs.take count) &&
        (tail.isEmpty || (extension? tail).isSome)

/-
  The number and the extension of a text. The extension is the
  longest end of the text that can be one, and stands only after
  what can be a number.
-/
def splitExtension
    (cs : List Char) : List Char × Option (List Char) :=
  let found :=
    (List.range (cs.length + 1)).findSome? fun count =>
      (extension? (cs.drop count)).map (cs.take count, ·)
  match found with
  | some (number, digits) =>
    if isViable number then (number, some digits) else (cs, none)
  | none => (cs, none)

end Phone

end RecordRules
