import RecordRules.Calendar.Instant
import RecordRules.Failure
import RecordRules.Text.Case

/-
  Dates relative to the current instant, such as `now+5days`.

  Main declarations:
    * `Date.Step`, a sign, a count and a unit
    * `Date.Relative`, the current instant or a step from it
    * `Date.Relative.read?`, a text in small letters
    * `Date.Relative.resolve?`, the instant that it stands for
-/

namespace RecordRules

namespace Date

open Text Numeric

/- The units in which a step is counted. -/
inductive StepUnit where
  | days
  | months
  | years
deriving DecidableEq

/- A number of units back or forth. -/
structure Step where
  back : Bool
  digits : List Nat
  unit : StepUnit
deriving DecidableEq

/- The current instant, or a step from it. -/
inductive Relative where
  | now
  | step (s : Step)
deriving DecidableEq

/-
  The unit that a word names, in the singular or the plural. A
  plural with a long s counts in years, whatever its word.
-/
def StepUnit.read? (word : List Char) : Option StepUnit :=
  let long := Char.ofNat 0x17f
  if word = "day".toList ∨ word = "days".toList then
    some .days
  else if word = "month".toList ∨ word = "months".toList then
    some .months
  else if word = "year".toList ∨ word = "years".toList then
    some .years
  else if word = "day".toList ++ [long] ∨
      word = "month".toList ++ [long] ∨
      word = "year".toList ++ [long] then
    some .years
  else
    none

/- Reads digits and a unit. -/
def Step.read?
    (back : Bool)
    (cs : List Char) : Option Step :=
  let split := takeDigits cs
  if split.1.isEmpty then
    none
  else
    (StepUnit.read? split.2).map fun unit => ⟨back, split.1, unit⟩

/-
  Reads the word for the current instant, alone or with a step
  after it, in small letters and without blanks around it.
-/
def Relative.read? : List Char → Option Relative
  | ['n', 'o', 'w'] => some .now
  | 'n' :: 'o' :: 'w' :: '+' :: rest =>
    (Step.read? false rest).map .step
  | 'n' :: 'o' :: 'w' :: '-' :: rest =>
    (Step.read? true rest).map .step
  | _ => none

/- The signed count of a step; it may not have too many digits. -/
def Step.count (s : Step) : Except Failure Int :=
  if maxDigits < s.digits.length then
    .error (.numeralTooLong s.digits.length)
  else
    let size : Int := digitsValue s.digits
    .ok (if s.back then -size else size)

/- The instant of a step, unless it lies outside the calendar. -/
def Step.resolve?
    (s : Step)
    (clock : Instant) : Except Failure (Option Instant) := do
  let count ← s.count
  match s.unit with
  | .days => return clock.shiftDays? count
  | .months => return clock.shiftMonths? count
  | .years => return clock.shiftMonths? (12 * count)

/- The instant that a relative date stands for, if there is one. -/
def Relative.resolve?
    (r : Relative)
    (clock : Instant) : Except Failure (Option Instant) :=
  match r with
  | now => .ok (some clock)
  | step s => s.resolve? clock

end Date

end RecordRules
