import RecordRules.Date.Natural.Reading
import RecordRules.Date.Relative
import RecordRules.Value.Printed

/-
  The instants that values stand for.

  Main declarations:
    * `Context`, the current instant and the settings
    * `Date.withoutOrdinals`, `23rd` as `23`
    * `Date.parse`, a value as a natural date
    * `Date.parseRelative`, a value as a relative date
    * `Date.isDate`
    * `Date.resolveValue` and `Date.resolveBound`, the ways in which
      rules read fields and bounds
    * `Date.dayOf`, the day of a value that is one
-/

namespace RecordRules

/- The current instant, and the settings that reading depends on. -/
structure Context where
  clock : Instant
  dayFirst : Bool
  region : String

namespace Date

open Text Numeric

------------------------------------------------------------
-- Ordinals
------------------------------------------------------------

/- Whether two characters are the end of an ordinal number. -/
def isOrdinalEnd (a b : Char) : Bool :=
  let x := lowerChar a
  let y := lowerChar b
  ((x == 's' || x.toNat == 0x17f) && y == 't') ||
    ((x == 'n' || x == 'r') && y == 'd') || (x == 't' && y == 'h')

/- A text whose ordinal numbers have lost their ends. -/
def withoutOrdinals : List Char → List Char
  | c :: d :: a :: b :: rest =>
    if isDecimal c && isDecimal d && isOrdinalEnd a b then
      c :: d :: withoutOrdinals rest
    else if isDecimal c && isOrdinalEnd d a then
      c :: withoutOrdinals (b :: rest)
    else
      c :: withoutOrdinals (d :: a :: b :: rest)
  | [c, d, a] =>
    if isDecimal c && isOrdinalEnd d a then [c] else [c, d, a]
  | cs => cs
termination_by cs => cs.length

------------------------------------------------------------
-- Natural dates
------------------------------------------------------------

/- The words for days near the current one, with their distance. -/
def nearbyDay? (word : List Char) : Option Int :=
  if word = "now".toList ∨ word = "today".toList then
    some 0
  else if word = "yesterday".toList then
    some (-1)
  else if word = "tomorrow".toList then
    some 1
  else
    none

/-
  Offsets of this many seconds or more are refused, those of this
  many days or more already when the text is read.
-/
def offsetLimit : Nat :=
  86400

/- The most days that an offset may be written with. -/
def offsetDayLimit : Nat :=
  999999999

/- A stamp as a local instant. -/
def toLocal (s : Stamp) : Except Failure Instant :=
  match s.offset with
  | none => .ok s.instant
  | some seconds =>
    if offsetLimit ≤ seconds.natAbs then
      .error .offsetTooWide
    else
      match s.local? with
      | some t => .ok t
      | none => .error .outOfCalendar

/- Whether a stamp has an offset too wide to be written at all. -/
def isBeyondWriting (s : Stamp) : Bool :=
  match s.offset with
  | none => false
  | some seconds =>
    let days := seconds / 86400
    days < -(offsetDayLimit : Int) || (offsetDayLimit : Int) < days

/- A text as a natural date. -/
def parseText
    (context : Context)
    (cs : List Char) : Except Failure (Option Instant) :=
  let text := withoutOrdinals cs
  match readNatural context.clock context.dayFirst text with
  | .error .unreadable => .ok none
  | .error .inexactFraction => .error .inexactFraction
  | .ok s =>
    if isBeyondWriting s then .ok none else (toLocal s).map some

/-
  A value as a natural date: an instant, a day, a word for a day
  near the current one, or a text in one of the usual notations.
-/
def parse
    (context : Context)
    (v : Value) : Except Failure (Option Instant) :=
  match v with
  | .null => .ok none
  | .stamp s => (toLocal s).map some
  | .day d => .ok (some (.midnight d))
  | v => do
    let cs := strip (← v.print)
    if cs.isEmpty then
      return none
    match nearbyDay? (lower cs) with
    | some distance =>
      match context.clock.shiftDays? distance with
      | some t => return some t
      | none => throw .outOfCalendar
    | none => parseText context cs

------------------------------------------------------------
-- Relative dates
------------------------------------------------------------

/- A value as it is read for a relative date. -/
def relativeOf? (v : Value) : Except Failure (Option Relative) := do
  return Relative.read? (lower (strip (← v.print)))

/- A value as a relative date. -/
def parseRelative
    (context : Context)
    (v : Value) : Except Failure (Option Instant) :=
  match v with
  | .null | .stamp _ | .day _ => .ok none
  | v => do
    match ← relativeOf? v with
    | none => return none
    | some r => r.resolve? context.clock

/- Whether a relative date is a step from the current instant. -/
def Relative.isStep : Relative → Bool
  | now => false
  | step _ => true

/- Whether a value is a natural date; steps are not. -/
def isDate
    (context : Context)
    (v : Value) : Except Failure Bool :=
  match v with
  | .null => .ok false
  | v => do
    if (← relativeOf? v).any Relative.isStep then
      return false
    else
      return (← parse context v).isSome

------------------------------------------------------------
-- Reading for rules
------------------------------------------------------------

/- The instant of a field: relative dates come first. -/
def resolveValue
    (context : Context)
    (v : Value) : Except Failure (Option Instant) := do
  match ← parseRelative context v with
  | some t => return some t
  | none => parse context v

/- The instant of a bound: natural dates come first. -/
def resolveBound
    (context : Context)
    (v : Value) : Except Failure (Option Instant) :=
  match v with
  | .null => .ok none
  | v => do
    if ← isDate context v then
      parse context v
    else
      parseRelative context v

------------------------------------------------------------
-- Days
------------------------------------------------------------

/- The day of an instant, or a day. -/
def dayOf : Value → Except Failure Day
  | .stamp s => .ok s.instant.day
  | .day d => .ok d
  | _ => .error .notADay

end Date

end RecordRules
