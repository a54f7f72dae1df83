import RecordRules.Calendar.Day

/-
  Instants: a day and a time of that day.

  Main declarations:
    * `TimeOfDay`, to the microsecond
    * `Instant`, a day with a time, in no particular zone
    * `Instant.ticks` and `Instant.ofTicks?`, instants counted in
      microseconds
    * `Instant.before`, the order of instants
    * `Stamp`, an instant that may carry an offset from UTC
-/

namespace RecordRules

------------------------------------------------------------
-- Times of day
------------------------------------------------------------

/- Hours, minutes, seconds and microseconds in range. -/
def TimeOfDay.Valid (hour minute second micro : Nat) : Prop :=
  hour < 24 ∧ minute < 60 ∧ second < 60 ∧ micro < 1000000

instance (hour minute second micro : Nat) :
    Decidable (TimeOfDay.Valid hour minute second micro) := by
  unfold TimeOfDay.Valid
  infer_instance

/- A time of day. -/
structure TimeOfDay where
  hour : Nat
  minute : Nat
  second : Nat
  micro : Nat
  valid : TimeOfDay.Valid hour minute second micro
deriving DecidableEq

namespace TimeOfDay

/- The start of the day. -/
def midnight : TimeOfDay :=
  ⟨0, 0, 0, 0, by decide⟩

/- The time of an hour, minute, second and microsecond, if valid. -/
def of? (hour minute second micro : Nat) : Option TimeOfDay :=
  if valid : Valid hour minute second micro then
    some ⟨hour, minute, second, micro, valid⟩
  else
    none

/- Microseconds since midnight. -/
def ticks (t : TimeOfDay) : Nat :=
  ((t.hour * 60 + t.minute) * 60 + t.second) * 1000000 + t.micro

/- The time a number of microseconds after midnight. -/
def ofTicks? (n : Nat) : Option TimeOfDay :=
  let seconds := n / 1000000
  of? (seconds / 3600) (seconds / 60 % 60) (seconds % 60)
    (n % 1000000)

end TimeOfDay

------------------------------------------------------------
-- Instants
------------------------------------------------------------

/- A day and a time of that day. -/
structure Instant where
  day : Day
  time : TimeOfDay
deriving DecidableEq

namespace Instant

/- The start of a day. -/
def midnight (d : Day) : Instant :=
  ⟨d, .midnight⟩

/- Microseconds in a day. -/
def dayTicks : Nat :=
  86400000000

/- Microseconds since the start of the calendar. -/
def ticks (t : Instant) : Nat :=
  t.day.ordinal * dayTicks + t.time.ticks

/- The instant of a count of microseconds. -/
def ofTicks? (n : Int) : Option Instant := do
  let day ← Day.ofOrdinal? (n / dayTicks)
  let time ← TimeOfDay.ofTicks? (n % dayTicks).toNat
  return ⟨day, time⟩

/- Whether one instant is strictly earlier than another. -/
def before (s t : Instant) : Bool :=
  s.ticks < t.ticks

/- The same time a number of days later, or earlier. -/
def shiftDays?
    (t : Instant)
    (n : Int) : Option Instant :=
  (t.day.shiftDays? n).map fun day => { t with day }

/- The same time a number of months later, or earlier. -/
def shiftMonths?
    (t : Instant)
    (n : Int) : Option Instant :=
  (t.day.shiftMonths? n).map fun day => { t with day }

end Instant

------------------------------------------------------------
-- Stamps
------------------------------------------------------------

/-
  An instant as a clock shows it, with the offset of that clock
  from UTC in seconds where it is known.
-/
structure Stamp where
  instant : Instant
  offset : Option Int
deriving DecidableEq

namespace Stamp

/-
  The instant in UTC, which is also local time; a stamp without an
  offset is in local time already.
-/
def local? (s : Stamp) : Option Instant :=
  match s.offset with
  | none => some s.instant
  | some seconds =>
    Instant.ofTicks? (s.instant.ticks - seconds * 1000000)

end Stamp

end RecordRules
