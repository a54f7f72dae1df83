import RecordRules.Numeric.Natural

/-
  Days of the proleptic Gregorian calendar.

  Main declarations:
    * `Calendar.monthLength`
    * `Day`, a day of the years 1 to 9999
    * `Day.of?`, the day of a year, month and day of the month
    * `Day.ordinal` and `Day.ofOrdinal?`, days counted from the
      first day of year 1
    * `Day.shiftDays?` and `Day.shiftMonths?`
    * `Day.weekday`
-/

namespace RecordRules

namespace Calendar

------------------------------------------------------------
-- Years and months
------------------------------------------------------------

/- Whether a year has a 29th of February. -/
def isLeapYear (year : Nat) : Bool :=
  year % 4 == 0 && (year % 100 != 0 || year % 400 == 0)

/- The number of days of a month; months outside 1 to 12 have none. -/
def monthLength (year month : Nat) : Nat :=
  match month with
  | 1 | 3 | 5 | 7 | 8 | 10 | 12 => 31
  | 4 | 6 | 9 | 11 => 30
  | 2 => if isLeapYear year then 29 else 28
  | _ => 0

/- The days of all years before a year. -/
def daysBeforeYear (year : Nat) : Nat :=
  let y := year - 1
  365 * y + y / 4 - y / 100 + y / 400

/- The days of a year before a month. -/
def daysBeforeMonth (year month : Nat) : Nat :=
  Numeric.total
    ((List.range (month - 1)).map fun m => monthLength year (m + 1))

end Calendar

open Calendar

------------------------------------------------------------
-- Days
------------------------------------------------------------

/- A year from 1 to 9999, a month, and a day of that month. -/
def Day.Valid (year month day : Nat) : Prop :=
  1 ≤ year ∧ year ≤ 9999 ∧ 1 ≤ month ∧ month ≤ 12 ∧
    1 ≤ day ∧ day ≤ monthLength year month

instance (year month day : Nat) : Decidable (Day.Valid year month day) := by
  unfold Day.Valid
  infer_instance

/- A day of the calendar. -/
structure Day where
  year : Nat
  month : Nat
  day : Nat
  valid : Day.Valid year month day
deriving DecidableEq

namespace Day

/- The day of a year, month and day of the month, if there is one. -/
def of? (year month day : Nat) : Option Day :=
  if valid : Valid year month day then
    some ⟨year, month, day, valid⟩
  else
    none

/- The number of the day, the first day of year 1 being day 1. -/
def ordinal (d : Day) : Nat :=
  daysBeforeYear d.year + daysBeforeMonth d.year d.month + d.day

/- The number of the last day of year 9999. -/
def lastOrdinal : Nat :=
  3652059

/-
  The year of a day number, found by walking up from a year that
  is not too late.
-/
def yearOfOrdinal
    (n : Nat)
    (year : Nat) : Nat :=
  if year < 9999 ∧ daysBeforeYear (year + 1) < n then
    yearOfOrdinal n (year + 1)
  else
    year
termination_by 9999 - year

/-
  The month and day of the month of the `n`-th day of a year,
  found by walking up from a month whose first day has number 1.
-/
def monthOfYearDay
    (year : Nat)
    (n : Nat)
    (month : Nat) : Nat × Nat :=
  if month < 12 ∧ monthLength year month < n then
    monthOfYearDay year (n - monthLength year month) (month + 1)
  else
    (month, n)
termination_by 12 - month

/- The day of a day number in the years 1 to 9999. -/
def ofOrdinal? (n : Int) : Option Day :=
  if 1 ≤ n ∧ n ≤ lastOrdinal then
    let year := yearOfOrdinal n.toNat (n.toNat / 366 + 1)
    let rest := n.toNat - daysBeforeYear year
    let split := monthOfYearDay year rest 1
    of? year split.1 split.2
  else
    none

/- The day a number of days later, or earlier. -/
def shiftDays?
    (d : Day)
    (n : Int) : Option Day :=
  ofOrdinal? (d.ordinal + n)

/- Months counted from the January of year 0. -/
def monthIndex (d : Day) : Int :=
  12 * d.year + (d.month - 1 : Nat)

/-
  The day a number of months later, or earlier. A day that the
  month does not have becomes the last of the month.
-/
def shiftMonths?
    (d : Day)
    (n : Int) : Option Day :=
  let index := d.monthIndex + n
  let year := (index / 12).toNat
  let month := (index % 12).toNat + 1
  of? year month (min d.day (monthLength year month))

/- The day of the week, Monday being 0. -/
def weekday (d : Day) : Nat :=
  (d.ordinal + 6) % 7

end Day

end RecordRules
