import RecordRules.Date.Natural.Members

/-
  Reading the tokens of a date text one after another.

  Main declarations:
    * `Date.Found`, what the tokens so far have given
    * `Date.Spot`, a token with those before and after it
    * `Date.readNumber`, a token that is a number
    * `Date.readToken`, any token
    * `Date.readTokens`, all of them
-/

namespace RecordRules

namespace Date

open Text Numeric

------------------------------------------------------------
-- State
------------------------------------------------------------

/- What the tokens so far have given. -/
structure Found where
  members : Members
  weekday : Option Nat
  hour : Option Nat
  minute : Option Nat
  second : Option Nat
  micro : Option Nat
  zone : Option Token
  offset : Option Int

/- Nothing found yet. -/
def Found.start : Found :=
  { members := .start
    weekday := none
    hour := none
    minute := none
    second := none
    micro := none
    zone := none
    offset := none }

/-
  A token, with the tokens before it, the nearest first, and those
  after it.
-/
structure Spot where
  before : List Token
  token : Token
  after : List Token

/- The `n`-th token after the one at the spot. -/
def Spot.next?
    (s : Spot)
    (n : Nat) : Option Token :=
  s.after[n - 1]?

/-
  What a token gives: what has been found then, how many of the
  tokens after it belong to it, and those tokens as they are to be
  read.
-/
structure Outcome where
  found : Found
  taken : Nat
  after : List Token

/- An outcome that leaves the following tokens as they are. -/
def Spot.give
    (s : Spot)
    (found : Found)
    (taken : Nat) : Outcome :=
  ⟨found, taken, s.after⟩

------------------------------------------------------------
-- Times
------------------------------------------------------------

/- Minutes, the fraction of which is in seconds. -/
def Found.setMinutes
    (found : Found)
    (q : Quantity) : Answer Found := do
  let second ← q.sixtieths?
  return { found with minute := some q.whole, second }

/- Seconds, whose decimals are microseconds. -/
def Found.setSeconds
    (found : Found)
    (token : Token) : Answer Found := do
  if token.contains '.' then
    let whole := token.takeWhile (· != '.')
    let decimals := token.drop (whole.length + 1)
    let filled := decimals ++ List.replicate (6 - decimals.length) '0'
    let second ← wholeNumber whole
    if decimals.contains '.' then
      throw .unreadable
    let micro ← wholeNumber (filled.take 6)
    return { found with second := some second, micro := some micro }
  else
    let second ← wholeNumber token
    return { found with second := some second, micro := some 0 }

/- A number with a unit of time. -/
def Found.setUnit
    (found : Found)
    (token : Token)
    (q : Quantity)
    (unit : Nat) : Answer Found := do
  match unit with
  | 0 =>
    let found := { found with hour := some q.whole }
    match ← q.sixtieths? with
    | none => return found
    | some minute => return { found with minute := some minute }
  | 1 => found.setMinutes q
  | 2 => found.setSeconds token
  | _ => return found

/-
  The unit after the one before a number, which one space may
  separate from the last number of a text.
-/
def Spot.earlierUnit? (s : Spot) : Option (Nat × Nat) :=
  match s.before with
  | [] => none
  | nearest :: farther =>
    match unit? nearest with
    | some unit => some (unit + 1, 0)
    | none =>
      if s.after.isEmpty && nearest == [' '] then
        (farther.head?.bind unit?).map fun unit => (unit + 1, 0)
      else
        none

/-
  The unit of time of a number, with the number of following tokens
  up to the unit: the word after it, at most one space away, or
  else the unit after the one before it.
-/
def Spot.unitAround? (s : Spot) : Option (Nat × Nat) :=
  match (s.next? 1).bind unit?, (s.next? 2).bind unit? with
  | some unit, _ => some (unit, 1)
  | none, some unit =>
    if s.next? 1 = some [' '] then
      some (unit, 2)
    else
      s.earlierUnit?
  | none, none => s.earlierUnit?

/- An hour, a colon and minutes, and seconds after another colon. -/
def Spot.readClock
    (s : Spot)
    (found : Found)
    (q : Quantity)
    (minutes : Token) : Answer Outcome := do
  let m ← demand (Quantity.read? minutes)
  let found ← { found with hour := some q.whole }.setMinutes m
  match s.next? 3, s.next? 4 with
  | some [':'], some seconds =>
    return s.give (← found.setSeconds seconds) 4
  | _, _ => return s.give found 2

------------------------------------------------------------
-- Dates
------------------------------------------------------------

/- The parts of a date between two equal marks. -/
def Spot.readMarked
    (s : Spot)
    (found : Found)
    (mark : Token) : Answer Outcome := do
  let members ← found.members.pushToken s.token false
  match s.next? 2 with
  | none => return s.give { found with members } 1
  | some second =>
    if isFiller second then
      return s.give { found with members } 1
    let members ←
      if isNumeral second then
        members.pushToken second false
      else do
        members.pushMonth (← demand (month? second))
    if s.next? 3 = some mark then
      let third ← demand (s.next? 4)
      let members ←
        match month? third with
        | some month => members.pushMonth month
        | none => members.pushToken third false
      return s.give { found with members } 4
    else
      return s.give { found with members } 2

/- Digits that hold a whole date, and perhaps a time. -/
def Spot.readCompactDate
    (s : Spot)
    (found : Found) : Answer Outcome := do
  let part (first count : Nat) : Token :=
    (s.token.drop first).take count
  let members ← found.members.pushToken (part 0 4) true
  let members ← members.pushToken (part 4 2) false
  let members ← members.pushToken (part 6 2) false
  let found := { found with members }
  if 8 < s.token.length then
    let hour ← wholeNumber (part 8 2)
    let minute ← wholeNumber (part 10 2)
    let found := { found with hour := some hour, minute := some minute }
    if 12 < s.token.length then
      let second ← wholeNumber (s.token.drop 12)
      return s.give { found with second := some second } 0
    else
      return s.give found 0
  else
    return s.give found 0

/- Six digits, which are a date, or a time with decimals. -/
def Spot.readSix
    (s : Spot)
    (found : Found) : Answer Outcome := do
  let first := s.token.take 2
  let second := (s.token.drop 2).take 2
  let rest := s.token.drop 4
  if found.members.numbers.isEmpty && !s.token.contains '.' then
    let members ← found.members.pushToken first false
    let members ← members.pushToken second false
    let members ← members.pushToken rest false
    return s.give { found with members } 0
  else
    let hour ← wholeNumber first
    let minute ← wholeNumber second
    let found := { found with hour := some hour, minute := some minute }
    return s.give (← found.setSeconds rest) 0

/- A time without marks after a whole date. -/
def Spot.readCompactTime
    (s : Spot)
    (found : Found) : Answer Outcome := do
  let hour ← wholeNumber (s.token.take 2)
  let found := { found with hour := some hour }
  if s.token.length = 4 then
    let minute ← wholeNumber (s.token.drop 2)
    return s.give { found with minute := some minute } 0
  else
    return s.give found 0

/- A number that stands alone, or an hour before half a day. -/
def Spot.readSeparate
    (s : Spot)
    (found : Found)
    (q : Quantity) : Answer Outcome := do
  match (s.next? 2).bind halfDay? with
  | some half =>
    return s.give { found with hour := some (half.hour q.whole) } 2
  | none =>
    let members ← found.members.pushQuantity q
    return s.give { found with members } 1

------------------------------------------------------------
-- Numbers
------------------------------------------------------------

/- Whether a token is a mark between the parts of a date. -/
def isDateMark (token : Token) : Bool :=
  token == ['-'] || token == ['/'] || token == ['.']

/- Whether a time without marks may follow the date so far. -/
def Spot.isCompactTime
    (s : Spot)
    (found : Found) : Bool :=
  found.members.numbers.length == 3 &&
    (s.token.length == 2 || s.token.length == 4) &&
    found.hour.isNone &&
    (match s.next? 1 with
      | none => true
      | some next => next != [':'] && (unit? next).isNone)

/- Whether a token has the form of six digits, or more decimals. -/
def isSix (token : Token) : Bool :=
  token.length == 6 ||
    (6 < token.length && token.findIdx? (· == '.') == some 6)

/- A number that can only be a day. -/
def Spot.readDay
    (s : Spot)
    (found : Found)
    (q : Quantity) : Answer Outcome := do
  if found.members.allowsDay q then
    let members ← found.members.pushQuantity q
    return s.give { found with members } 0
  else
    throw .unreadable

/- A token that is a number. -/
def Spot.readNumber
    (s : Spot)
    (found : Found)
    (q : Quantity) : Answer Outcome := do
  let size := s.token.length
  if s.isCompactTime found then
    return ← s.readCompactTime found
  if isSix s.token then
    return ← s.readSix found
  if size == 8 || size == 12 || size == 14 then
    return ← s.readCompactDate found
  if let some (unit, taken) := s.unitAround? then
    return s.give (← found.setUnit s.token q unit) taken
  match s.next? 1, s.next? 2 with
  | some [':'], some minutes =>
    return ← s.readClock found q minutes
  | _, _ => pure ()
  match s.next? 1 with
  | none => s.readSeparate found q
  | some next =>
    if isDateMark next then
      s.readMarked found next
    else if isFiller next then
      s.readSeparate found q
    else
      match halfDay? next with
      | some half =>
        if q.whole < 24 then
          return s.give
            { found with hour := some (half.hour q.whole) } 1
        else
          s.readDay found q
      | none => s.readDay found q

------------------------------------------------------------
-- Words and signs
------------------------------------------------------------

/-
  A month by name, with the day or year that it is joined to. What
  follows `of` is a year if it consists of digits, and else it is
  passed over.
-/
def Spot.readMonth
    (s : Spot)
    (found : Found)
    (fullYear : Nat → Nat)
    (month : Nat) : Answer Outcome := do
  let members ← found.members.pushMonth month
  let marked :=
    s.next? 1 = some ['-'] ∨ s.next? 1 = some ['/']
  if marked then
    let members ← members.pushToken (← demand (s.next? 2)) false
    if s.next? 3 = s.next? 1 then
      let members ← members.pushToken (← demand (s.next? 4)) false
      return s.give { found with members } 4
    else
      return s.give { found with members } 2
  match s.next? 1, s.next? 2, s.next? 3, s.next? 4 with
  | some [' '], some joint, some [' '], some year =>
    if isOf joint then
      if isNumeral year then
        let digits := natDigits (fullYear (← wholeNumber year))
        let members ← members.pushToken digits true
        return s.give { found with members } 4
      else
        return s.give { found with members } 4
    else
      return s.give { found with members } 0
  | _, _, _, _ => return s.give { found with members } 0

/- A half of the day, after an hour of it. -/
def Spot.readHalfDay
    (s : Spot)
    (found : Found)
    (half : HalfDay) : Answer Outcome := do
  let hour ← demand found.hour
  if 12 < hour then
    throw .unreadable
  return s.give { found with hour := some (half.hour hour) } 0

/- Whether a token may name the zone of a time that has none yet. -/
def Found.mayBeZone
    (found : Found)
    (token : Token) : Bool :=
  found.hour.isSome && found.zone.isNone && looksLikeZone token

/-
  The name of a zone. A sign after it turns round: in `GMT+3` the
  time is three hours ahead of the zone.
-/
def Spot.readZone
    (s : Spot)
    (found : Found) : Outcome :=
  let named :=
    { found with
      zone := some s.token
      offset := if s.token = ['z'] then some 0 else none }
  let turned (sign : Token) (rest : List Token) : Outcome :=
    { found :=
        { named with
          offset := none
          zone := if isUniversal s.token then none else named.zone }
      taken := 0
      after := sign :: rest }
  match s.after with
  | ['+'] :: rest => turned ['-'] rest
  | ['-'] :: rest => turned ['+'] rest
  | _ => s.give named 0

/-
  An offset from UTC after a sign: four digits, hours and minutes
  around a colon, or hours alone; the name of the zone may follow
  in parentheses.
-/
def Spot.readOffset
    (s : Spot)
    (found : Found) : Answer Outcome := do
  let first ← demand (s.next? 1)
  let (hours, minutes, shift) ←
    if first.length = 4 then do
      let hours ← wholeNumber (first.take 2)
      let minutes ← wholeNumber (first.drop 2)
      pure (hours, minutes, 0)
    else if s.next? 2 = some [':'] then do
      let hours ← wholeNumber first
      let minutes ← wholeNumber (← demand (s.next? 3))
      pure (hours, minutes, 2)
    else if first.length ≤ 2 then do
      pure (← wholeNumber first, 0, 0)
    else
      throw .unreadable
  let size : Int := hours * 3600 + minutes * 60
  let offset := if s.token = ['+'] then size else -size
  let found := { found with offset := some offset }
  match s.next? (shift + 2), s.next? (shift + 3),
      s.next? (shift + 4), s.next? (shift + 5) with
  | some filler, some ['('], some zone, some [')'] =>
    if isFiller filler && 3 ≤ zone.length && found.zone.isNone &&
        found.hour.isSome && looksLikeZone zone then
      return s.give { found with zone := some zone } (shift + 5)
    else
      return s.give found (shift + 1)
  | _, _, _, _ => return s.give found (shift + 1)

/- Words that are numbers without a value. -/
def isNumberWord (token : Token) : Bool :=
  ["nan", "inf", "infinity"].contains (small token) &&
    token.all fun c => c.toNat < 128

/-
  One token. `fullYear` gives the year of a number of at most two
  digits.
-/
def Spot.readToken
    (s : Spot)
    (found : Found)
    (fullYear : Nat → Nat) : Answer Outcome := do
  if isNumberWord s.token then
    throw .unreadable
  if let some q := Quantity.read? s.token then
    return ← s.readNumber found q
  if let some weekday := weekday? s.token then
    return s.give { found with weekday := some weekday } 0
  if let some month := month? s.token then
    return ← s.readMonth found fullYear month
  if let some half := halfDay? s.token then
    return ← s.readHalfDay found half
  if found.mayBeZone s.token && found.offset.isNone then
    return s.readZone found
  if found.hour.isSome && (s.token = ['+'] || s.token = ['-']) then
    return ← s.readOffset found
  if isFiller s.token then
    return s.give found 0
  throw .unreadable

/-
  All tokens from a point on, those before it given the nearest
  first. Each step takes at least one token.
-/
def readTokens
    (fullYear : Nat → Nat)
    (found : Found)
    (before : List Token) :
    Nat → List Token → Answer Found
  | _, [] => .ok found
  | 0, _ => .error .unreadable
  | fuel + 1, token :: after => do
    let spot : Spot := ⟨before, token, after⟩
    let outcome ← spot.readToken found fullYear
    let taken := outcome.after.take outcome.taken
    readTokens fullYear outcome.found
      (taken.reverse ++ token :: before) fuel
      (outcome.after.drop outcome.taken)

end Date

end RecordRules
