import RecordRules.Constraint
import RecordRules.Json

/-
  What requests carry.

  Main declarations:
    * `Service.Content`, what comes with a request
    * `Service.Refusal`, why it is not taken
    * `Service.RecordPayload` and `Service.BatchPayload`
    * `Service.readPayload`
-/

namespace RecordRules

namespace Service

open Text Schema

------------------------------------------------------------
-- Contents
------------------------------------------------------------

/- Nothing, a value, or a text in JSON notation. -/
inductive Content where
  | nothing
  | value (v : Value)
  | text (s : String)
deriving DecidableEq

/-
  Why the content of a request is not taken: an integer in it has
  too many digits, or it has not the shape that is asked for.
-/
inductive Refusal where
  | unreadable
  | misfit (problems : List Problem)
deriving DecidableEq

/- A text without a byte order mark at its start. -/
def withoutMark : List Char → List Char
  | [] => []
  | c :: rest => if c.toNat = 0xfeff then rest else c :: rest

/- A text in JSON notation as a value. -/
def readJson (cs : List Char) : Except Refusal Value :=
  match Json.read cs with
  | .ok v => .ok v
  | .error .numberTooLong => .error .unreadable
  | .error (.malformed left) =>
    let place := String.ofList (natDigits (Json.Fault.place cs left))
    .error (.misfit [⟨["body", place], .malformedBody⟩])

/- The value of a content; the empty text is none. -/
def Content.read : Content → Except Refusal Value
  | nothing => .ok .null
  | value v => .ok v
  | text s =>
    if s == "" then .ok .null else readJson (withoutMark s.toList)

------------------------------------------------------------
-- Payloads
------------------------------------------------------------

/- A record, and the constraints for it. -/
structure RecordPayload where
  values : Entries Value
  plan : Constraint.Plan
deriving DecidableEq

/- Several records, and the constraints for each of them. -/
structure BatchPayload where
  records : List (Entries Value)
  plan : Constraint.Plan
deriving DecidableEq

/- Constraints on fields; every problem counts. -/
def readPlan : Value → Checked Constraint.Plan :=
  readEntries (readItems (Constraint.read .modelAttributesType))

/- A record with constraints. -/
def RecordPayload.read
    (entries : Entries Value) : Checked RecordPayload :=
  mk
    <$> required entries "values" (readObject .objectType)
    <*> required entries "constraints" readPlan

/- Records with constraints. -/
def BatchPayload.read
    (entries : Entries Value) : Checked BatchPayload :=
  mk
    <$> required entries "records" (readItems (readObject .objectType))
    <*> required entries "constraints" readPlan

/- An object that has to be there. -/
def readPresent
    {α : Type}
    (read : Entries Value → Checked α)
    (v : Value) : Checked α :=
  match v with
  | .null => .problem .missing
  | v => (readObject .modelAttributesType v).andThen read

/- The payload of a request. -/
def readPayload
    {α : Type}
    (read : Entries Value → Checked α)
    (content : Content) : Except Refusal α := do
  match (readPresent read (← content.read)).under "body" with
  | .accepted payload => return payload
  | .refused problems => throw (.misfit problems)

end Service

end RecordRules
