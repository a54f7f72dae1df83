import RecordRules.Date.Natural.Token
import RecordRules.Text.Case

/-
  The words that a date text may contain.

  Main declarations:
    * `Date.month?` and `Date.weekday?`
    * `Date.unit?`, the words for hours, minutes and seconds
    * `Date.halfDay?`, the words for the halves of the day
    * `Date.isFiller`, words and marks without a meaning
    * `Date.looksLikeZone`, what may name a time zone
-/

namespace RecordRules

namespace Date

open Text

/- A token in small letters. -/
def small (token : Token) : String :=
  String.ofList (lower token)

/- The English names of the months. -/
def monthNames : List String :=
  ["January", "February", "March", "April", "May", "June", "July",
    "August", "September", "October", "November", "December"]

/- The English names of the days of the week. -/
def weekdayNames : List String :=
  ["Monday", "Tuesday", "Wednesday", "Thursday", "Friday",
    "Saturday", "Sunday"]

/- Whether a word is a name or its first three letters. -/
def isNameOrShort
    (word : String)
    (name : String) : Bool :=
  let letters := lower name.toList
  word.toList == letters || word.toList == letters.take 3

/- The number of a month by its name, January being 1. -/
def month? (token : Token) : Option Nat :=
  let word := small token
  if word == "sept" then
    some 9
  else
    (monthNames.findIdx? (isNameOrShort word)).map (· + 1)

/- The number of a weekday by its name, Monday being 0. -/
def weekday? (token : Token) : Option Nat :=
  weekdayNames.findIdx? (isNameOrShort (small token))

/- Hours, minutes and seconds are 0, 1 and 2. -/
def unit? (token : Token) : Option Nat :=
  match small token with
  | "h" | "hour" | "hours" => some 0
  | "m" | "minute" | "minutes" => some 1
  | "s" | "second" | "seconds" => some 2
  | _ => none

/- The halves of the day, from midnight and from noon. -/
inductive HalfDay where
  | morning
  | afternoon
deriving DecidableEq

/- The half of the day that a word names. -/
def halfDay? (token : Token) : Option HalfDay :=
  match small token with
  | "am" | "a" => some .morning
  | "pm" | "p" => some .afternoon
  | _ => none

/- An hour of the given half of the day. -/
def HalfDay.hour
    (half : HalfDay)
    (hour : Nat) : Nat :=
  match half with
  | morning => if hour = 12 then 0 else hour
  | afternoon => if hour < 12 then hour + 12 else hour

/- Words and marks that may stand anywhere. -/
def fillers : List String :=
  [" ", ".", ",", ";", "-", "/", "\x27", "at", "on", "and", "ad",
    "m", "t", "of", "st", "nd", "rd", "th"]

/- Whether a token may stand anywhere. -/
def isFiller (token : Token) : Bool :=
  fillers.contains (small token)

/- Whether a token joins a month to its year. -/
def isOf (token : Token) : Bool :=
  small token == "of"

/- Whether a token names the zone of universal time. -/
def isUniversal (token : Token) : Bool :=
  ["utc", "gmt", "z"].contains (small token)

/- Whether a token is written like the name of a time zone. -/
def looksLikeZone (token : Token) : Bool :=
  token.length ≤ 5 &&
    (token.all (fun c => 65 ≤ c.toNat && c.toNat ≤ 90) ||
      token == ['z'])

end Date

end RecordRules
