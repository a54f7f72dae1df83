import RecordRules.Failure
import RecordRules.Numeric.Natural
import RecordRules.Pattern.Substitution
import RecordRules.Text.Case

/-
  Texts in a given format.

  Main declarations:
    * `Replacement` and `TextFormat`
    * `Text.replaceFirst`, a text with one occurrence replaced
    * `Text.truncated`, a text cut to a length
    * `Text.padStart` and `Text.padEnd`
    * `TextFormat.apply`, the steps in their order
-/

namespace RecordRules

open Text

------------------------------------------------------------
-- Formats
------------------------------------------------------------

/- What is replaced by what, by pattern or literally. -/
structure Replacement where
  search : String
  replacement : String
  isPattern : Bool := false
deriving DecidableEq

/- What is done to a text, step by step. -/
structure TextFormat where
  letterCase : Option String := none
  trim : Bool := false
  padStart : Option Int := none
  padEnd : Option Int := none
  padChar : Option String := none
  truncate : Option Int := none
  replace : Option Replacement := none
  lead : Option String := none
  tail : Option String := none
deriving DecidableEq

------------------------------------------------------------
-- Single steps
------------------------------------------------------------

namespace Text

/- A text with the first occurrence of another one replaced. -/
def replaceFirst
    (search replacement : List Char)
    (cs : List Char) : List Char :=
  if search.isPrefixOf cs then
    replacement ++ cs.drop search.length
  else
    match cs with
    | [] => []
    | c :: rest => c :: replaceFirst search replacement rest

/-
  The start of a text: a positive length is how many characters
  stay, a negative one how many go, and zero leaves all.
-/
def truncated
    (length : Int)
    (cs : List Char) : List Char :=
  if length = 0 then
    cs
  else if length < 0 then
    cs.take (cs.length - length.natAbs)
  else
    cs.take length.toNat

/- A text filled from the left up to a width. -/
def padStart
    (width : Int)
    (c : Char)
    (cs : List Char) : List Char :=
  List.replicate (width - cs.length).toNat c ++ cs

/- A text filled from the right up to a width. -/
def padEnd
    (width : Int)
    (c : Char)
    (cs : List Char) : List Char :=
  cs ++ List.replicate (width - cs.length).toNat c

end Text

------------------------------------------------------------
-- Formatting
------------------------------------------------------------

namespace TextFormat

/- A text in the case with a given name; other names leave it. -/
def withCase
    (letterCase : Option String)
    (cs : List Char) : List Char :=
  match letterCase with
  | some "upper" => upper cs
  | some "lower" => lower cs
  | some "title" => toTitleCase cs
  | _ => cs

/- A text after a replacement. -/
def replaced
    (replace : Option Replacement)
    (cs : List Char) : Except Failure (List Char) :=
  match replace with
  | none => .ok cs
  | some r =>
    let search := r.search.toList
    let replacement := r.replacement.toList
    if r.isPattern then
      (Pattern.substitute search replacement cs).mapError .ofFault
    else
      .ok (Text.replaceFirst search replacement cs)

/- Widths beyond this size are refused. -/
def widthLimit : Nat :=
  Numeric.twoPow 63

/- A text after filling, where a width and a character are given. -/
def padded
    (pad : Int → Char → List Char → List Char)
    (width : Option Int)
    (filler : Option String)
    (cs : List Char) : Except Failure (List Char) :=
  match width, (filler.getD "").toList with
  | some width, c :: _ =>
    if width < -(widthLimit : Int) ∨ (widthLimit : Int) ≤ width then
      .error .widthTooLarge
    else
      .ok (pad width c cs)
  | _, _ => .ok cs

/- The text after trimming, case and replacement. -/
def edited
    (format : TextFormat)
    (cs : List Char) : Except Failure (List Char) :=
  let trimmed := if format.trim then strip cs else cs
  replaced format.replace (withCase format.letterCase trimmed)

/-
  Trims, changes case, replaces, cuts, fills from the left and from
  the right, and puts the affixes on, in this order.
-/
def apply
    (format : TextFormat)
    (cs : List Char) : Except Failure (List Char) := do
  let base ← format.edited cs
  let short := truncated (format.truncate.getD 0) base
  let left ← padded Text.padStart format.padStart format.padChar short
  let both ← padded Text.padEnd format.padEnd format.padChar left
  return (format.lead.getD "").toList ++ both ++
    (format.tail.getD "").toList

end TextFormat

end RecordRules
