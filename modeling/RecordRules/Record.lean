import RecordRules.Value.Printed

/-
  Records: named values that rules read, change and annotate.

  Main declarations:
    * `Record`, with annotations or without
    * `Record.get`, `Record.set`, `Record.annotate`
    * `Record.isValid`, whether there are no errors
    * `Record.describe`, a record as text
    * `Edit`, a step that may change a record and may fail
-/

namespace RecordRules

open Text

------------------------------------------------------------
-- Records
------------------------------------------------------------

/-
  A linked record has values, and errors and infos for its fields.
  A detached record has cells, objects that hold a value under the
  name `value`, and takes no annotations.
-/
inductive Record where
  | linked
      (values : Entries Value)
      (errors infos : Entries (List String))
  | detached (cells : Entries Value)
deriving DecidableEq

instance : Inhabited Record :=
  ⟨.linked [] [] []⟩

namespace Record

/- A linked record without annotations. -/
def ofValues (values : Entries Value) : Record :=
  linked values [] []

/- A detached record with given values. -/
def ofFlat (values : Entries Value) : Record :=
  detached (values.map fun (name, v) => (name, .object [("value", v)]))

/- Whether a record takes annotations. -/
def isLinked : Record → Bool
  | linked .. => true
  | detached _ => false

------------------------------------------------------------
-- Reading and writing
------------------------------------------------------------

/- The value of a cell. -/
def cellValue : Value → Except Failure Value
  | .null => .ok .null
  | .object entries =>
    .ok ((Entries.get? entries "value").getD .null)
  | _ => .error .notACell

/- The value of a field, null if there is none. -/
def get
    (r : Record)
    (field : String) : Except Failure Value :=
  match r with
  | linked values _ _ => .ok ((values.get? field).getD .null)
  | detached cells => cellValue ((cells.get? field).getD .null)

/- A cell with another value. -/
def cellWith
    (v : Value) : Option Value → Except Failure Value
  | none => .ok (.object [("value", v)])
  | some (.object entries) =>
    .ok (.object (Entries.put entries "value" v))
  | some _ => .error .notAssignable

/- A record with another value of a field. -/
def set
    (r : Record)
    (field : String)
    (v : Value) : Except Failure Record :=
  match r with
  | linked values errors infos =>
    .ok (linked (values.put field v) errors infos)
  | detached cells => do
    return detached (cells.put field (← cellWith v (cells.get? field)))

------------------------------------------------------------
-- Annotations
------------------------------------------------------------

/- Annotations with a further message for a field. -/
def withMessage
    (messages : Entries (List String))
    (field message : String) : Entries (List String) :=
  messages.put field ((messages.get? field).getD [] ++ [message])

/- A record with a further error or info for a field. -/
def annotate
    (r : Record)
    (note : Note)
    (field message : String) : Except Failure Record :=
  match r, note with
  | linked values errors infos, .error =>
    .ok (linked values (withMessage errors field message) infos)
  | linked values errors infos, .info =>
    .ok (linked values errors (withMessage infos field message))
  | detached _, note => .error (.noteOnDetached note field)

/- The values of a record, or its cells. -/
def values : Record → Entries Value
  | linked values _ _ => values
  | detached cells => cells

/- The errors of a record. -/
def errors : Record → Entries (List String)
  | linked _ errors _ => errors
  | detached _ => []

/- The infos of a record. -/
def infos : Record → Entries (List String)
  | linked _ _ infos => infos
  | detached _ => []

/- Whether a record has no errors. -/
def isValid (r : Record) : Bool :=
  r.errors.all fun entry => entry.2.isEmpty

------------------------------------------------------------
-- Text
------------------------------------------------------------

/- Messages as a value. -/
def messageValue (messages : Entries (List String)) : Value :=
  .object (messages.map fun (field, texts) =>
    (field, .list (texts.map .text)))

/- A record as text. -/
def describe : Record → Except Failure (List Char)
  | linked values errors _ => do
    let valueText ← (Value.object values).quoted
    let errorText ← (messageValue errors).quoted
    return "LinkedRecord(values=".toList ++ valueText ++
      ", errors=".toList ++ errorText ++ [')']
  | detached cells => do
    let text ← (Value.object cells).quoted
    return "DetachedRecord(values=".toList ++ text ++ [')']

end Record

------------------------------------------------------------
-- Actions
------------------------------------------------------------

/-
  A step on a record. What was changed before a failure stays
  changed.
-/
abbrev Edit (α : Type) :=
  ExceptT Failure (StateM Record) α

namespace Edit

/- A step that depends on no record. -/
def ofResult
    {α : Type}
    (result : Except Failure α) : Edit α :=
  ExceptT.mk (pure result)

/- The value of a field. -/
def getField (field : String) : Edit Value := do
  ofResult ((← get).get field)

/- Writes a field. -/
def setField
    (field : String)
    (v : Value) : Edit Unit := do
  set (← ofResult ((← get).set field v))

/- Annotates a field. -/
def annotate
    (note : Note)
    (field message : String) : Edit Unit := do
  set (← ofResult ((← get).annotate note field message))

/- Whether the record takes annotations. -/
def isLinked : Edit Bool := do
  return (← get).isLinked

end Edit

end RecordRules
