import RecordRules.Numeric.Natural
import RecordRules.Phone.DigitPattern
import RecordRules.Text.Digit

/-
  Numbering plans.

  Main declarations:
    * `Phone.NumberClass`, numbers of one kind within a plan
    * `Phone.Layout`, how the digits of a number are set apart
    * `Phone.Plan`
    * `Phone.Plan.isValid`, whether digits are a number of a plan
    * `Phone.Plan.fit`, how a count of digits compares with those
      that the numbers of a plan have
-/

namespace RecordRules

namespace Phone

open Text

------------------------------------------------------------
-- Classes of numbers
------------------------------------------------------------

/- Numbers of one kind: how long they are and how they look. -/
structure NumberClass where
  lengths : List Nat
  pattern : DigitPattern

/- Whether digits belong to a class. -/
def NumberClass.contains
    (c : NumberClass)
    (ds : List Nat) : Bool :=
  c.lengths.contains ds.length && c.pattern.accepts ds

------------------------------------------------------------
-- Layouts
------------------------------------------------------------

/- Some digits of a number, and the text in front of them. -/
structure DigitGroup where
  lead : String
  size : Nat

/-
  How the digits of a number are set apart: groups, of which the
  last may be longer by a given amount, for numbers that start in a
  given way. Within the country a text comes before the digits.
-/
structure Layout where
  start : DigitPattern
  groups : List DigitGroup
  slack : Nat := 0
  nationalLead : String := ""

namespace Layout

/- The fewest digits for a layout. -/
def size (layout : Layout) : Nat :=
  Numeric.total (layout.groups.map DigitGroup.size)

/- Whether a layout is for numbers with the given digits. -/
def suits
    (layout : Layout)
    (ds : List Nat) : Bool :=
  layout.start.startsIn ds && layout.size ≤ ds.length &&
    ds.length ≤ layout.size + layout.slack

/- Digits as characters. -/
def digitText (ds : List Nat) : List Char :=
  ds.map digitChar

/- Digits in groups; the last group has all that is left. -/
def spread : List DigitGroup → List Nat → List Char
  | [], _ => []
  | [g], ds => g.lead.toList ++ digitText ds
  | g :: rest, ds =>
    g.lead.toList ++ digitText (ds.take g.size) ++
      spread rest (ds.drop g.size)

/- Groups of which the first has a further text before its digits. -/
def withLead
    (lead : String) : List DigitGroup → List DigitGroup
  | [] => []
  | g :: rest => { g with lead := g.lead ++ lead } :: rest

/- Digits in a layout, within the country or outside it. -/
def render
    (layout : Layout)
    (national : Bool)
    (ds : List Nat) : List Char :=
  if national then
    spread (withLead layout.nationalLead layout.groups) ds
  else
    spread layout.groups ds

end Layout

------------------------------------------------------------
-- Plans
------------------------------------------------------------

/-
  The numbering plan of a region: its calling code, the digits that
  lead out of the country and those that may come before a number
  within it, the lengths of numbers, also of those that can only be
  dialled locally, the classes of numbers and the layouts.
-/
structure Plan where
  region : String
  callingCode : List Nat
  exitDigits : List Nat
  trunkDigits : List (List Nat)
  general : NumberClass
  localLengths : List Nat
  classes : List NumberClass
  layouts : List Layout
  abroadLayouts : List Layout
  extensionMark : String

/- How a count of digits compares with those of a plan. -/
inductive Fit where
  | possible
  | localOnly
  | tooShort
  | tooLong
  | wrongLength
deriving DecidableEq

namespace Plan

/- Whether digits are a number of a plan. -/
def isValid
    (plan : Plan)
    (ds : List Nat) : Bool :=
  plan.general.contains ds && plan.classes.any (·.contains ds)

/- How a count of digits compares with those of a plan. -/
def fit
    (plan : Plan)
    (length : Nat) : Fit :=
  if plan.localLengths.contains length then
    .localOnly
  else if plan.general.lengths.contains length then
    .possible
  else if plan.general.lengths.all (length < ·) then
    .tooShort
  else if plan.general.lengths.all (· < length) then
    .tooLong
  else
    .wrongLength

end Plan

end Phone

end RecordRules
