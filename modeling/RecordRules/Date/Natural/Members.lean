import RecordRules.Calendar.Day
import RecordRules.Date.Natural.Words
import RecordRules.Numeric.Decimal

/-
  The year, month and day among the numbers of a date text.

  Main declarations:
    * `Date.Refusal`, why a text is no date
    * `Date.Quantity`, a number with decimals
    * `Date.Members`, the numbers met, in order, with the ones
      whose part is known
    * `Date.Members.resolve`, which of them is what
-/

namespace RecordRules

namespace Date

open Text Numeric Calendar

------------------------------------------------------------
-- Refusals
------------------------------------------------------------

/-
  Why a text is no date: it cannot be read, or it holds a fraction
  whose whole part is too long to be split off.
-/
inductive Refusal where
  | unreadable
  | inexactFraction
deriving DecidableEq

/- The answer of reading a text. -/
abbrev Answer (α : Type) :=
  Except Refusal α

/- A value that a text has to have. -/
def demand
    {α : Type}
    (value : Option α) : Answer α :=
  match value with
  | some a => .ok a
  | none => .error .unreadable

/- Whether a token consists of digits in any form. -/
def isNumeral (token : Token) : Bool :=
  !token.isEmpty && token.all isDigitForm

/- The number of a token that consists of decimal digits. -/
def wholeNumber (token : Token) : Answer Nat := do
  let digits ← demand (token.mapM digitValue?)
  if digits.isEmpty || maxDigits < digits.length then
    throw .unreadable
  return digitsValue digits

------------------------------------------------------------
-- Quantities
------------------------------------------------------------

/- The number `coefficient / 10 ^ scale`. -/
structure Quantity where
  coefficient : Nat
  scale : Nat
deriving DecidableEq

namespace Quantity

/- A token of decimal digits with at most one point. -/
def read? (token : Token) : Option Quantity :=
  let whole := takeDigits token
  let fraction := takeFraction whole.2
  if (whole.1 ++ fraction.1).isEmpty || !fraction.2.isEmpty then
    none
  else
    some
      { coefficient := digitsValue (whole.1 ++ fraction.1)
        scale := fraction.1.length }

/- The whole part. -/
def whole (q : Quantity) : Nat :=
  q.coefficient / tenPow q.scale

/- The fraction after the whole part. -/
def fraction (q : Quantity) : Quantity :=
  { q with coefficient := q.coefficient % tenPow q.scale }

/- Digits that a result of a calculation keeps. -/
def precision : Nat :=
  28

/- A quantity to the precision, ties to the even neighbour. -/
def rounded (q : Quantity) : Quantity :=
  let excess := (natDigits q.coefficient).length - precision
  { coefficient := nearest q.coefficient (tenPow excess)
    scale := q.scale - excess }

/-
  How many sixtieths the fraction makes, cut to a whole number, or
  nothing where there is no fraction.
-/
def sixtieths? (q : Quantity) : Answer (Option Nat) := do
  if tenPow precision ≤ q.whole then
    throw .inexactFraction
  if q.fraction.coefficient = 0 then
    return none
  let part := q.fraction.rounded
  let product : Quantity := { part with coefficient := 60 * part.coefficient }
  return some product.rounded.whole

/- Whether the number exceeds a whole one. -/
def exceeds
    (q : Quantity)
    (n : Nat) : Bool :=
  n * tenPow q.scale < q.coefficient

end Quantity

------------------------------------------------------------
-- Members
------------------------------------------------------------

/-
  The numbers that may be a year, month or day, in the order of
  the text, with the places of a month given by name and of a
  number that can only be a year.
-/
structure Members where
  numbers : List Nat
  yearAt : Option Nat
  monthAt : Option Nat
  fullYear : Bool
deriving DecidableEq

namespace Members

/- No numbers yet. -/
def start : Members :=
  ⟨[], none, none, false⟩

/- One more number. -/
def push
    (m : Members)
    (n : Nat) : Members :=
  { m with numbers := m.numbers ++ [n] }

/- One more number, which is a year. -/
def pushYear
    (m : Members)
    (n : Nat) : Answer Members := do
  if m.yearAt.isSome then
    throw .unreadable
  return { (m.push n) with yearAt := some m.numbers.length }

/- One more number, which is a month. -/
def pushMonth
    (m : Members)
    (n : Nat) : Answer Members := do
  if m.monthAt.isSome then
    throw .unreadable
  return { (m.push n) with monthAt := some m.numbers.length }

/-
  One more number by its token. More than two digits make a year
  that is written in full.
-/
def pushToken
    (m : Members)
    (token : Token)
    (isYear : Bool) : Answer Members := do
  let n ← wholeNumber token
  if 2 < token.length then
    Members.pushYear { m with fullYear := true } n
  else if isYear then
    m.pushYear n
  else
    return m.push n

/- One more number by its value; above 100 it is a full year. -/
def pushQuantity
    (m : Members)
    (q : Quantity) : Answer Members :=
  if q.exceeds 100 then
    Members.pushYear { m with fullYear := true } q.whole
  else
    .ok (m.push q.whole)

/- The number at a place. -/
def at?
    (m : Members)
    (place : Nat) : Nat :=
  m.numbers.getD place 0

/-
  Whether a number may be a day: it has to fit the month, in a leap
  year if the year is not known.
-/
def allowsDay
    (m : Members)
    (q : Quantity) : Bool :=
  let most :=
    match m.monthAt, m.yearAt with
    | none, _ => 31
    | some i, none => monthLength 2000 (m.at? i)
    | some i, some j => monthLength (m.at? j) (m.at? i)
  !(q.whole = 0) && !q.exceeds most

------------------------------------------------------------
-- Which number is what
------------------------------------------------------------

/- The parts of a date that a text gives. -/
structure Parts where
  year : Option Nat
  month : Option Nat
  day : Option Nat
deriving DecidableEq

/- All three parts. -/
def Parts.all (year month day : Nat) : Parts :=
  ⟨some year, some month, some day⟩

/- Three numbers where the place of none or one is known. -/
def resolveThree
    (m : Members)
    (dayFirst : Bool)
    (a b c : Nat) : Parts :=
  match m.monthAt with
  | some 0 => if 31 < b then .all b a c else .all c a b
  | some 1 => if 31 < a then .all a b c else .all c b a
  | some _ => if 31 < b then .all b c a else .all a c b
  | none =>
    if 31 < a ∨ m.yearAt = some 0 then
      if dayFirst ∧ c ≤ 12 then .all a c b else .all a b c
    else if 12 < a ∨ (dayFirst ∧ b ≤ 12) then
      .all c b a
    else
      .all c a b

/- Three numbers, the year and the month among them being known. -/
def resolveKnown
    (m : Members)
    (i j : Nat) : Parts :=
  .all (m.at? i) (m.at? j) (m.at? (3 - i - j))

/- Two numbers without a month given by name. -/
def resolveTwo
    (dayFirst : Bool)
    (a b : Nat) : Parts :=
  if 31 < a then
    ⟨some a, some b, none⟩
  else if 31 < b then
    ⟨some b, some a, none⟩
  else if dayFirst ∧ b ≤ 12 then
    ⟨none, some b, some a⟩
  else
    ⟨none, some a, some b⟩

/- A number that is a year or a day. -/
def yearOrDay
    (month : Option Nat)
    (n : Nat) : Parts :=
  if 31 < n then ⟨some n, month, none⟩ else ⟨none, month, some n⟩

/- Which of the numbers is the year, the month and the day. -/
def resolve
    (m : Members)
    (dayFirst : Bool) : Answer Parts :=
  match m.numbers, m.yearAt, m.monthAt with
  | [], _, _ => .ok ⟨none, none, none⟩
  | [a], some _, _ => .ok ⟨some a, none, none⟩
  | [a], none, some _ => .ok ⟨none, some a, none⟩
  | [a], none, none => .ok (yearOrDay none a)
  | [_, _], some i, some j =>
    .ok ⟨some (m.at? i), some (m.at? j), none⟩
  | [_, _], none, some i =>
    .ok (yearOrDay (some (m.at? i)) (m.at? (1 - i)))
  | [a, b], _, none => .ok (resolveTwo dayFirst a b)
  | [_, _, _], some i, some j => .ok (m.resolveKnown i j)
  | [a, b, c], _, _ => .ok (m.resolveThree dayFirst a b c)
  | _, _, _ => .error .unreadable

end Members

end Date

end RecordRules
