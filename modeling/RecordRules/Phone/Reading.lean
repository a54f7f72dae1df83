import RecordRules.Phone.Candidate
import RecordRules.Phone.Extension
import RecordRules.Phone.Number

/-
  Phone numbers from texts.

  Main declarations:
    * `Phone.Plan.withoutTrunk`, digits without those that are
      dialled within the country only
    * `Phone.splitCode`, the calling code that a text names
    * `Phone.Number.read?`
-/

namespace RecordRules

namespace Phone

open Text

------------------------------------------------------------
-- Dialling within the country
------------------------------------------------------------

/-
  Digits without those that are dialled within the country only,
  which stay where they turn a number into something else.
-/
def Plan.withoutTrunk
    (plan : Plan)
    (ds : List Nat) : List Nat :=
  match plan.trunkDigits.find? (·.isPrefixOf ds) with
  | none => ds
  | some trunk =>
    let rest := ds.drop trunk.length
    let fits := plan.general.pattern.accepts
    if fits ds && !fits rest then ds else rest

------------------------------------------------------------
-- Calling codes
------------------------------------------------------------

/- Why no calling code can be taken from a text. -/
inductive CodeFault where
  | tooShort
  | unknownCode
deriving DecidableEq

/- The fewest digits that a number can have. -/
def fewestDigits : Nat :=
  2

/- The most digits that a number can have. -/
def mostDigits : Nat :=
  17

/- The region of the calling code at the start of digits. -/
def codeRegion? (ds : List Nat) : Option Region :=
  Region.all.find? fun r => r.plan.callingCode.isPrefixOf ds

/- A calling code, which has to be there, and what follows it. -/
def takeCode
    (ds : List Nat) : Except CodeFault (Region × List Nat) :=
  if ds.length ≤ fewestDigits then
    .error .tooShort
  else
    match codeRegion? ds with
    | some r => .ok (r, ds.drop r.plan.callingCode.length)
    | none => .error .unknownCode

/- What follows the digits that lead out of a country. -/
def afterExit?
    (plan : Plan)
    (ds : List Nat) : Option (List Nat) :=
  if plan.exitDigits.isPrefixOf ds then
    let rest := ds.drop plan.exitDigits.length
    if rest.head? == some 0 then none else some rest
  else
    none

/-
  What follows the calling code of a region in digits that name it
  without any mark. That is so if only what follows is a number, or
  if all together is too long.
-/
def afterOwnCode?
    (plan : Plan)
    (ds : List Nat) : Option (List Nat) :=
  if plan.callingCode.isPrefixOf ds then
    let rest := plan.withoutTrunk (ds.drop plan.callingCode.length)
    let fits := plan.general.pattern.accepts
    if (!fits ds && fits rest) || plan.fit ds.length == .tooLong then
      some rest
    else
      none
  else
    none

/-
  The calling code that a text names, and the digits after it; it
  may name none. The region is where the number is dialled.
-/
def splitCode
    (region : Option Region)
    (cs : List Char) :
    Except CodeFault (Option (Region × List Nat)) :=
  match cs with
  | [] => .ok none
  | c :: rest =>
    if isPlus c then
      (takeCode (dialled (rest.dropWhile isPlus))).map some
    else
      match region with
      | none => .ok none
      | some r =>
        let ds := dialled cs
        match afterExit? r.plan ds with
        | some rest => (takeCode rest).map some
        | none => .ok ((afterOwnCode? r.plan ds).map (r, ·))

/- The same, where plus signs may also have been put by mistake. -/
def splitCodeLeniently
    (region : Option Region)
    (cs : List Char) :
    Option (Option (Region × List Nat)) :=
  match splitCode region cs with
  | .ok found => some found
  | .error .tooShort => none
  | .error .unknownCode =>
    if cs.head?.any isPlus then
      match splitCode region (cs.dropWhile isPlus) with
      | .ok (some found) => some (some found)
      | _ => none
    else
      none

------------------------------------------------------------
-- Numbers
------------------------------------------------------------

/-
  The number with given digits in a region, less the digits for
  dialling within the country if a number of proper length is left.
-/
def numberOf?
    (region : Region)
    (ds : List Nat)
    (extension : Option (List Char)) : Option Number :=
  let short := region.plan.withoutTrunk ds
  let fit := region.plan.fit short.length
  let digits := if fit == .possible || fit == .tooLong then short else ds
  if ds.length < fewestDigits || digits.length < fewestDigits ||
      mostDigits < digits.length then
    none
  else
    some
      { region := region
        digits := digits
        extension := extension.map String.ofList }

/- The most characters of a text that can be a number. -/
def longestText : Nat :=
  250

/-
  The number in a text, read where the named region is. Without
  such a region the text has to start with a plus sign.
-/
def Number.read?
    (regionName : String)
    (cs : List Char) : Option Number := do
  if longestText < cs.length then
    none
  let text ← candidate? cs
  if !isViable text then
    none
  if (Region.ofName? regionName).isNone && !text.head?.any isPlus then
    none
  let (number, extension) := splitExtension text
  let capitals := String.ofList (upper regionName.toList)
  let region := Region.ofName? capitals
  match ← splitCodeLeniently region number with
  | some (found, ds) => numberOf? found ds extension
  | none => numberOf? (← region) (dialled number) extension

end Phone

end RecordRules
