import RecordRules.Calendar.Instant
import RecordRules.Numeric.Decimal

/-
  Days and instants in the international notation.

  Main declarations:
    * `Day.isoText`
    * `Instant.isoText` and `Stamp.isoText`, with a mark between
      the day and the time
    * `Instant.milliText`, always with three decimals
    * `Day.readIso?` and `Stamp.readIso?`, the inverse
-/

namespace RecordRules

open Text Numeric

------------------------------------------------------------
-- Writing
------------------------------------------------------------

/- Year, month and day, as in `2024-03-15`. -/
def Day.isoText (d : Day) : List Char :=
  paddedDigits 4 d.year ++ '-' :: paddedDigits 2 d.month ++
    '-' :: paddedDigits 2 d.day

/- Hour, minute and second, as in `10:30:00`. -/
def TimeOfDay.clockText (t : TimeOfDay) : List Char :=
  paddedDigits 2 t.hour ++ ':' :: paddedDigits 2 t.minute ++
    ':' :: paddedDigits 2 t.second

/- The clock text, with six decimals unless they are all zero. -/
def TimeOfDay.isoText (t : TimeOfDay) : List Char :=
  if t.micro = 0 then
    t.clockText
  else
    t.clockText ++ '.' :: paddedDigits 6 t.micro

/- A day and a time with a mark between them. -/
def Instant.isoText
    (t : Instant)
    (mark : Char) : List Char :=
  t.day.isoText ++ mark :: t.time.isoText

/- The text with exactly three decimals, the rest cut off. -/
def Instant.milliText (t : Instant) : List Char :=
  t.day.isoText ++ 'T' :: t.time.clockText ++
    '.' :: paddedDigits 3 (t.time.micro / 1000)

/- An offset from UTC, as in `+05:30`, with seconds if it has any. -/
def Stamp.offsetText (seconds : Int) : List Char :=
  let n := seconds.natAbs
  let sign := if seconds < 0 then '-' else '+'
  let tail :=
    if n % 60 = 0 then [] else ':' :: paddedDigits 2 (n % 60)
  sign :: paddedDigits 2 (n / 3600) ++
    ':' :: paddedDigits 2 (n / 60 % 60) ++ tail

/- A stamp, its offset last where there is one. -/
def Stamp.isoText
    (s : Stamp)
    (mark : Char) : List Char :=
  s.instant.isoText mark ++
    (match s.offset with
      | none => []
      | some seconds => Stamp.offsetText seconds)

------------------------------------------------------------
-- Reading
------------------------------------------------------------

/- Exactly `count` decimal digits and what follows them. -/
def Calendar.takeNumber?
    (count : Nat)
    (cs : List Char) : Option (Nat × List Char) :=
  let digits := takeDigits (cs.take count)
  if digits.1.length = count then
    some (digitsValue digits.1, cs.drop count)
  else
    none

/- What follows a character that has to come next. -/
def Calendar.takeMark?
    (mark : Char) : List Char → Option (List Char)
  | [] => none
  | c :: rest => if c == mark then some rest else none

open Calendar

/- Reads a day at the start of a text. -/
def Day.takeIso? (cs : List Char) : Option (Day × List Char) := do
  let (year, cs) ← takeNumber? 4 cs
  let cs ← takeMark? '-' cs
  let (month, cs) ← takeNumber? 2 cs
  let cs ← takeMark? '-' cs
  let (day, cs) ← takeNumber? 2 cs
  return (← Day.of? year month day, cs)

/- Reads a whole text as a day. -/
def Day.readIso? (cs : List Char) : Option Day := do
  let (day, rest) ← Day.takeIso? cs
  if rest.isEmpty then some day else none

/- Reads a clock text, seconds and decimals being optional. -/
def TimeOfDay.takeIso? (cs : List Char) :
    Option (TimeOfDay × List Char) := do
  let (hour, cs) ← takeNumber? 2 cs
  let cs ← takeMark? ':' cs
  let (minute, cs) ← takeNumber? 2 cs
  match takeMark? ':' cs with
  | none => return (← TimeOfDay.of? hour minute 0 0, cs)
  | some cs =>
    let (second, cs) ← takeNumber? 2 cs
    match takeMark? '.' cs with
    | none => return (← TimeOfDay.of? hour minute second 0, cs)
    | some cs =>
      let digits := takeDigits cs
      let micro :=
        digitsValue ((digits.1 ++ List.replicate 6 0).take 6)
      return (← TimeOfDay.of? hour minute second micro, digits.2)

/- Reads an offset from UTC. -/
def Stamp.readOffset? (cs : List Char) : Option Int := do
  let sign ← cs.head?
  if sign == 'Z' then
    return 0
  else
    let (hours, cs) ← takeNumber? 2 (cs.drop 1)
    let cs ← takeMark? ':' cs
    let (minutes, cs) ← takeNumber? 2 cs
    let seconds :=
      ((takeMark? ':' cs).bind (takeNumber? 2)).elim 0 (·.1)
    let size : Int := hours * 3600 + minutes * 60 + seconds
    return if sign == '-' then -size else size

/- Reads a whole text as a stamp, a lone day being its midnight. -/
def Stamp.readIso? (cs : List Char) : Option Stamp := do
  let (day, cs) ← Day.takeIso? cs
  match cs with
  | [] => return ⟨.midnight day, none⟩
  | _ :: cs =>
    let (time, cs) ← TimeOfDay.takeIso? cs
    match cs with
    | [] => return ⟨⟨day, time⟩, none⟩
    | cs => return ⟨⟨day, time⟩, some (← Stamp.readOffset? cs)⟩

end RecordRules
