import RecordRules.Text.Blank
import RecordRules.Text.Letter

/-
  The words and numbers of a date text.

  Main declarations:
    * `Date.Token`, a run of characters that belong together
    * `Date.Pending`, a run that may still go on
    * `Date.tokens`, all runs of a text in order
-/

namespace RecordRules

namespace Date

open Text

/- A word, a number, a space or another single character. -/
abbrev Token :=
  List Char

------------------------------------------------------------
-- Runs
------------------------------------------------------------

/-
  What a run is made of. Points may stand inside words and numbers,
  and runs with points change between the two after a point.
-/
inductive RunKind where
  | word
  | number
  | pointedWord
  | pointedNumber
deriving DecidableEq

/-
  A run that may still go on: its characters so far, the last one
  first, and whether a word has gone on in it.
-/
structure Pending where
  kind : RunKind
  reversed : List Char
  wordy : Bool
deriving DecidableEq

/- The run that a character starts, if it starts one. -/
def Pending.start? (c : Char) : Option Pending :=
  if isLetter c then
    some ⟨.word, [c], false⟩
  else if isDigitForm c then
    some ⟨.number, [c], false⟩
  else
    none

/- Whether the last character of a run is a point. -/
def Pending.endsInPoint (p : Pending) : Bool :=
  p.reversed.head? == some '.'

/- The run with one more character, if that belongs to it. -/
def Pending.extend?
    (p : Pending)
    (c : Char) : Option Pending :=
  let more (kind : RunKind) (wordy : Bool) : Option Pending :=
    some ⟨kind, c :: p.reversed, wordy⟩
  match p.kind with
  | .word =>
    if isLetter c then
      more .word true
    else if c == '.' then
      more .pointedWord true
    else
      none
  | .number =>
    if isDigitForm c then
      more .number p.wordy
    else if c == '.' || (c == ',' && 2 ≤ p.reversed.length) then
      more .pointedNumber p.wordy
    else
      none
  | .pointedWord =>
    if c == '.' || isLetter c then
      more .pointedWord true
    else if isDigitForm c && p.endsInPoint then
      more .pointedNumber true
    else
      none
  | .pointedNumber =>
    if c == '.' || isDigitForm c then
      more .pointedNumber p.wordy
    else if isLetter c && p.endsInPoint then
      more .pointedWord p.wordy
    else
      none

/- Whether a character separates the parts of a pointed run. -/
def isPoint (c : Char) : Bool :=
  c == '.' || c == ','

/-
  The parts of a run, with the points between them. `part` holds
  the characters of the part that is being read, the last first.
-/
def splitAtPoints
    (part : List Char) : List Char → List Token
  | [] => if part.isEmpty then [] else [part.reverse]
  | c :: rest =>
    if isPoint c then
      if part.isEmpty then
        [c] :: splitAtPoints [] rest
      else
        part.reverse :: [c] :: splitAtPoints [] rest
    else
      splitAtPoints (c :: part) rest

/- A decimal comma as a point. -/
def commaToPoint (c : Char) : Char :=
  if c == ',' then '.' else c

/-
  The tokens of a finished run. A run that holds words, several
  points or a last point is split at its points; in any other
  number a comma is a decimal point.
-/
def Pending.finish (p : Pending) : List Token :=
  let token := p.reversed.reverse
  let pointed := p.kind = .pointedWord ∨ p.kind = .pointedNumber
  let points := token.count '.'
  if pointed ∧ (p.wordy ∨ 1 < points ∨ p.reversed.head?.any isPoint) then
    splitAtPoints [] token
  else if p.kind = .pointedNumber ∧ points = 0 then
    [token.map commaToPoint]
  else
    [token]

/-
  A run that some other character ends. The letters after its last
  point make it wordy, as they do not at the end of the text.
-/
def Pending.cutOff (p : Pending) : Pending :=
  { p with wordy := p.wordy || p.kind = .pointedWord }

------------------------------------------------------------
-- Whole texts
------------------------------------------------------------

/- A character on its own; all blanks are alike. -/
def lone (c : Char) : Token :=
  if isBlank c then [' '] else [c]

/- The tokens of a text, given the run that may still go on. -/
def tokensAfter :
    Option Pending → List Char → List Token
  | none, [] => []
  | some p, [] => p.finish
  | none, c :: rest =>
    match Pending.start? c with
    | some p => tokensAfter (some p) rest
    | none => lone c :: tokensAfter none rest
  | some p, c :: rest =>
    match p.extend? c with
    | some q => tokensAfter (some q) rest
    | none =>
      p.cutOff.finish ++
        match Pending.start? c with
        | some q => tokensAfter (some q) rest
        | none => lone c :: tokensAfter none rest

/- The tokens of a text; null characters are passed over. -/
def tokens (cs : List Char) : List Token :=
  tokensAfter none (cs.filter (·.toNat != 0))

end Date

end RecordRules
