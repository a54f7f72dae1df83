import RecordRules.Calendar.Instant
import RecordRules.Date.Natural.Steps

/-
  Date texts as instants.

  Main declarations:
    * `Date.fullYear`, the year of a number of two digits
    * `Date.Found.stamp`, the instant that a text gives, with what
      it leaves open taken from the clock
    * `Date.readNatural`
-/

namespace RecordRules

namespace Date

open Text Calendar

/-
  The year of a number below 100: the one of the century of the
  current year, unless that is 50 or more years ahead or more than
  50 years back.
-/
def fullYear
    (current : Nat)
    (n : Nat) : Nat :=
  if n < 100 then
    let year := n + current / 100 * 100
    if current + 50 ≤ year then
      year - 100
    else if year + 50 < current then
      year + 100
    else
      year
  else
    n

/-
  The offset from UTC of a time: none is needed for universal time,
  whatever offset is given with it.
-/
def Found.zoneOffset (found : Found) : Option Int :=
  match found.zone with
  | none => found.offset
  | some zone => if isUniversal zone then some 0 else found.offset

/- Whether a text has given anything at all. -/
def Found.isNothing
    (found : Found)
    (parts : Members.Parts) : Bool :=
  parts.year.isNone && parts.month.isNone && parts.day.isNone &&
    found.weekday.isNone && found.hour.isNone &&
    found.minute.isNone && found.second.isNone &&
    found.micro.isNone && found.zone.isNone && found.offset.isNone

/-
  The day that a text gives. Parts that it leaves open are those of
  the current day, with the day of the month cut to the length of
  the month; a weekday alone is the next such day.
-/
def Found.day
    (found : Found)
    (parts : Members.Parts)
    (today : Day) : Answer Day := do
  let year := parts.year.getD today.year
  let month := parts.month.getD today.month
  let cut := min today.day (monthLength year month)
  let date ← demand (Day.of? year month (parts.day.getD cut))
  match found.weekday, parts.day with
  | some weekday, none =>
    let ahead := (weekday + 7 - date.weekday) % 7
    demand (date.shiftDays? ahead)
  | _, _ => return date

/- The time that a text gives, midnight where it gives none. -/
def Found.time (found : Found) : Answer TimeOfDay :=
  demand (TimeOfDay.of? (found.hour.getD 0) (found.minute.getD 0)
    (found.second.getD 0) (found.micro.getD 0))

/- The instant that a text gives. -/
def Found.stamp
    (found : Found)
    (clock : Instant)
    (dayFirst : Bool) : Answer Stamp := do
  let parts ← found.members.resolve dayFirst
  if found.isNothing parts then
    throw .unreadable
  let year :=
    if found.members.fullYear then
      parts.year
    else
      parts.year.map (fullYear clock.day.year)
  let day ← found.day { parts with year } clock.day
  let time ← found.time
  return ⟨⟨day, time⟩, found.zoneOffset⟩

/- Reads a text as an instant, given the current one. -/
def readNatural
    (clock : Instant)
    (dayFirst : Bool)
    (text : List Char) : Answer Stamp := do
  let all := tokens text
  let found ←
    readTokens (fullYear clock.day.year) .start [] all.length all
  found.stamp clock dayFirst

end Date

end RecordRules
