import RecordRules.Calendar.IsoText
import RecordRules.Date.Natural.Words

/-
  Format strings and the texts that they give.

  Main declarations:
    * `Date.Component`, the ways to write a part of a day
    * `Date.FormatToken` and `Date.tokenize`, a format string as
      components and other characters
    * `Date.Layout`, three components and a delimiter
    * `Date.Layout.ofFormat?`, the layout of a proper format
    * `Date.format`
-/

namespace RecordRules

namespace Date

open Text

------------------------------------------------------------
-- Components
------------------------------------------------------------

/- The parts of a day. -/
inductive Part where
  | year
  | month
  | day
deriving DecidableEq

/- The ways to write a part of a day. -/
inductive Component where
  | fullYear
  | shortYear
  | plainYear
  | monthName
  | shortMonthName
  | paddedMonth
  | plainMonth
  | paddedDay
  | plainDay
deriving DecidableEq

namespace Component

/- The part that a component writes. -/
def part : Component → Part
  | fullYear | shortYear | plainYear => .year
  | monthName | shortMonthName | paddedMonth | plainMonth => .month
  | paddedDay | plainDay => .day

/- The letters that stand for a component. -/
def letters : Component → List Char
  | fullYear => ['y', 'y', 'y', 'y']
  | shortYear => ['y', 'y']
  | plainYear => ['y']
  | monthName => ['m', 'm', 'm', 'm']
  | shortMonthName => ['m', 'm', 'm']
  | paddedMonth => ['m', 'm']
  | plainMonth => ['m']
  | paddedDay => ['d', 'd']
  | plainDay => ['d']

/- Whether a component writes a name. -/
def isName : Component → Bool
  | monthName | shortMonthName => true
  | _ => false

/- The name of a month. -/
def nameOfMonth (month : Nat) : List Char :=
  (monthNames.getD (month - 1) "").toList

/- A part of a day as a component writes it. -/
def render (d : Day) : Component → List Char
  | fullYear | plainYear => natDigits d.year
  | shortYear =>
    let digits := natDigits d.year
    digits.drop (digits.length - 2)
  | monthName => nameOfMonth d.month
  | shortMonthName => (nameOfMonth d.month).take 3
  | paddedMonth => paddedDigits 2 d.month
  | plainMonth => natDigits d.month
  | paddedDay => paddedDigits 2 d.day
  | plainDay => natDigits d.day

end Component

------------------------------------------------------------
-- Format strings
------------------------------------------------------------

/- A component, or a character that stands between components. -/
inductive FormatToken where
  | component (c : Component)
  | literal (c : Char)
deriving DecidableEq

/- The characters of a token. -/
def FormatToken.text : FormatToken → List Char
  | component c => c.letters
  | literal c => [c]

/- Whether a token is a component. -/
def FormatToken.isComponent : FormatToken → Bool
  | component _ => true
  | literal _ => false

/-
  The tokens of a format string in small letters, the longest
  component being taken at every place.
-/
def tokenizeSmall : List Char → List FormatToken
  | [] => []
  | 'y' :: 'y' :: 'y' :: 'y' :: rest =>
    .component .fullYear :: tokenizeSmall rest
  | 'm' :: 'm' :: 'm' :: 'm' :: rest =>
    .component .monthName :: tokenizeSmall rest
  | 'm' :: 'm' :: 'm' :: rest =>
    .component .shortMonthName :: tokenizeSmall rest
  | 'y' :: 'y' :: rest => .component .shortYear :: tokenizeSmall rest
  | 'm' :: 'm' :: rest => .component .paddedMonth :: tokenizeSmall rest
  | 'd' :: 'd' :: rest => .component .paddedDay :: tokenizeSmall rest
  | 'y' :: rest => .component .plainYear :: tokenizeSmall rest
  | 'm' :: rest => .component .plainMonth :: tokenizeSmall rest
  | 'd' :: rest => .component .plainDay :: tokenizeSmall rest
  | c :: rest => .literal c :: tokenizeSmall rest

/- The tokens of a format string, in which case does not matter. -/
def tokenize (format : List Char) : List FormatToken :=
  tokenizeSmall (lower format)

/- The components among tokens. -/
def components (tokens : List FormatToken) : List Component :=
  tokens.filterMap fun
    | .component c => some c
    | .literal _ => none

/- Whether no component follows another one directly. -/
def setApart : List FormatToken → Bool
  | a :: b :: rest =>
    !(a.isComponent && b.isComponent) && setApart (b :: rest)
  | _ => true

------------------------------------------------------------
-- Layouts
------------------------------------------------------------

/- Components with a delimiter between them. -/
structure Layout where
  components : List Component
  delimiter : Char
deriving DecidableEq

namespace Layout

/-
  The delimiter of a format: a space next to the name of a month,
  and else the first of slash, hyphen and point that occurs.
-/
def delimiterOf (tokens : List FormatToken) : Char :=
  if (Date.components tokens).any Component.isName then
    ' '
  else
    (['/', '-', '.'].find? fun c => tokens.contains (.literal c)).getD
      ' '

/- Whether components give a year, a month and a day, once each. -/
def isComplete (parts : List Component) : Bool :=
  parts.length == 3 &&
    [Part.year, Part.month, Part.day].all fun part =>
      parts.any (·.part == part)

/-
  The layout of a format with one year, one month and one day, all
  of them set apart.
-/
def ofFormat? (format : List Char) : Option Layout :=
  let tokens := tokenize format
  let parts := Date.components tokens
  if isComplete parts && setApart tokens then
    some ⟨parts, delimiterOf tokens⟩
  else
    none

/- Texts with a delimiter between them. -/
def joined
    (delimiter : Char) : List (List Char) → List Char
  | [] => []
  | [cs] => cs
  | cs :: rest => cs ++ delimiter :: joined delimiter rest

/- A day in a layout. -/
def render
    (layout : Layout)
    (d : Day) : List Char :=
  joined layout.delimiter (layout.components.map (·.render d))

end Layout

/- The layout that is used where no format is given. -/
def defaultLayout : Layout :=
  ⟨[.paddedMonth, .paddedDay, .plainYear], '/'⟩

/-
  A day in a format: without one in the default layout, and in the
  international notation where the format gives no layout.
-/
def format
    (d : Day)
    (pattern : Option String) : List Char :=
  match pattern with
  | none => defaultLayout.render d
  | some text =>
    if text == "" then
      defaultLayout.render d
    else
      match Layout.ofFormat? text.toList with
      | some layout => layout.render d
      | none => d.isoText

end Date

end RecordRules
