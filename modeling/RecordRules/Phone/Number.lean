import RecordRules.Phone.France
import RecordRules.Phone.UnitedKingdom
import RecordRules.Phone.UnitedStates

/-
  Phone numbers.

  Only the main region of each calling code has a plan here: the
  United States for 1, the United Kingdom for 44 and France for 33.
  The codes 1 and 44 have further regions, such as Canada or
  Guernsey; their numbers fit no plan, and their names are unknown.

  Main declarations:
    * `Phone.Region`, the regions with a numbering plan
    * `Phone.Number`
    * `Phone.Number.isPossible` and `Phone.Number.isValid`
    * `Phone.Style` and `Phone.Number.render`
-/

namespace RecordRules

namespace Phone

open Text

------------------------------------------------------------
-- Regions
------------------------------------------------------------

/- The regions with a numbering plan. -/
inductive Region where
  | unitedStates
  | unitedKingdom
  | france
deriving DecidableEq

namespace Region

/- Every region. -/
def all : List Region :=
  [unitedStates, unitedKingdom, france]

/- The numbering plan of a region. -/
def plan : Region → Plan
  | unitedStates => UnitedStates.plan
  | unitedKingdom => UnitedKingdom.plan
  | france => France.plan

/- The region with a given name. -/
def ofName? (name : String) : Option Region :=
  all.find? fun r => r.plan.region == name

end Region

------------------------------------------------------------
-- Numbers
------------------------------------------------------------

/-
  A number of a region: its digits within the country, without the
  digits for dialling there, and its extension.
-/
structure Number where
  region : Region
  digits : List Nat
  extension : Option String
deriving DecidableEq

namespace Number

/- Whether a number has a length that numbers can have. -/
def isPossible (n : Number) : Bool :=
  let fit := n.region.plan.fit n.digits.length
  fit == .possible || fit == .localOnly

/- Whether a number belongs to its numbering plan. -/
def isValid (n : Number) : Bool :=
  n.region.plan.isValid n.digits

end Number

------------------------------------------------------------
-- Styles
------------------------------------------------------------

/- The ways in which numbers are written. -/
inductive Style where
  | compact
  | national
  | international
deriving DecidableEq

/- The style with a given name in capitals; others are abroad. -/
def Style.ofName (name : String) : Style :=
  if name == "E164" then
    .compact
  else if name == "NATIONAL" then
    .national
  else
    .international

namespace Number

/- The digits of a number, set apart as its plan says. -/
def laidOut
    (n : Number)
    (national : Bool) : List Char :=
  let plan := n.region.plan
  let layouts :=
    if national then plan.layouts else plan.abroadLayouts
  match layouts.find? (·.suits n.digits) with
  | some layout => layout.render national n.digits
  | none => Layout.digitText n.digits

/- The extension of a number with its mark. -/
def extensionText (n : Number) : List Char :=
  match n.extension with
  | none => []
  | some digits =>
    n.region.plan.extensionMark.toList ++ digits.toList

/- A number in a style. -/
def render
    (n : Number)
    (style : Style) : List Char :=
  let code := '+' :: Layout.digitText n.region.plan.callingCode
  match style with
  | .compact => code ++ Layout.digitText n.digits
  | .national => n.laidOut true ++ n.extensionText
  | .international =>
    code ++ ' ' :: n.laidOut false ++ n.extensionText

end Number

end Phone

end RecordRules
