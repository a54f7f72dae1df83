import RecordRules.Numeric.Decimal
import RecordRules.Pattern.Fault
import RecordRules.Schema.Problem

/-
  Why an operation gives no answer.

  Main declarations:
    * `Failure`
    * `Failure.message?`, the wording, where there is one
-/

namespace RecordRules

open Text Numeric

/- A note that may be attached to a field. -/
inductive Note where
  | error
  | info
deriving DecidableEq

/- Why an operation gives no answer. -/
inductive Failure where
  | misfit (problems : List Schema.Problem)
  | pattern (cause : Pattern.Cause) (place : Option Pattern.Place)
  | repetitionTooLarge
  | flagsIncompatible
  | noSuchGroup
  | numeralTooLong (digits : Nat)
  | numberTooLong
  | numberTooLarge
  | infiniteLength
  | offsetTooWide
  | outOfCalendar
  | inexactFraction
  | noPrecision
  | precisionTooLong
  | precisionTooLarge
  | widthTooLarge
  | noteOnDetached (note : Note) (field : String)
  | notComparable
  | notACell
  | notAssignable
  | notFormattable
  | notIterable
  | notAMapping
  | notADay
deriving DecidableEq

namespace Failure

/- The failure of a pattern or a replacement. -/
def ofFault : Pattern.Fault → Failure
  | .malformed cause place => pattern cause place
  | .repetitionTooLarge => repetitionTooLarge
  | .numberTooLong digits => numeralTooLong digits
  | .flagsIncompatible => flagsIncompatible
  | .noSuchGroup => noSuchGroup

/- The name of a note. -/
def noteName : Note → String
  | .error => "error"
  | .info => "info"

/- What a limit on digits is called. -/
def digitLimit : String :=
  "Exceeds the limit (4300 digits) for integer string conversion"

/- How a limit on digits can be changed. -/
def digitAdvice : String :=
  "; use sys.set_int_max_str_digits() to increase the limit"

/- The wording of a failure; some have none. -/
def message? : Failure → Option String
  | misfit problems => some (Schema.message problems)
  | pattern cause place =>
    some (String.ofList (Pattern.malformedMessage cause place))
  | repetitionTooLarge =>
    some "the repetition number is too large"
  | flagsIncompatible =>
    some "ASCII and UNICODE flags are incompatible"
  | numeralTooLong digits =>
    some (digitLimit ++ ": value has " ++
      String.ofList (natDigits digits) ++ " digits" ++ digitAdvice)
  | numberTooLong => some (digitLimit ++ digitAdvice)
  | numberTooLarge => some "int too large to convert to float"
  | infiniteLength =>
    some "cannot convert float infinity to integer"
  | offsetTooWide =>
    some ("offset must be a timedelta strictly between " ++
      "-timedelta(hours=24) and timedelta(hours=24).")
  | outOfCalendar => some "date value out of range"
  | noPrecision => some "Format specifier missing precision"
  | precisionTooLong =>
    some "Too many decimal digits in format string"
  | precisionTooLarge => some "precision too big"
  | widthTooLarge =>
    some "Python int too large to convert to C ssize_t"
  | noteOnDetached note field =>
    some ("Cannot add " ++ noteName note ++
      " to detached record field '" ++ field ++ "'")
  | noSuchGroup | inexactFraction | notComparable | notACell
  | notAssignable | notFormattable | notIterable | notAMapping
  | notADay => none

end Failure

end RecordRules
