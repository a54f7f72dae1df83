import RecordRules.Batch
import RecordRules.Service.Payload

/-
  Responses of the service.

  Main declarations:
    * `Service.written`, a value as a part of a body
    * `Service.Response`
    * `Service.Response.status` and `Service.Response.body`
    * `Service.Response.isShallow`, reports without deep values
-/

namespace RecordRules

namespace Service

open Text

------------------------------------------------------------
-- Values in bodies
------------------------------------------------------------

mutual

/-
  A value as it is written: days and instants are texts, and numbers
  that are not finite are null, at whatever depth.
-/
def written : Value → Value
  | .float x => if x.isFinite then .float x else .null
  | .stamp s => .text (String.ofList (s.isoText 'T'))
  | .day d => .text (String.ofList d.isoText)
  | .list items => .list (writtenItems items)
  | .object entries => .object (writtenEntries entries)
  | v => v

/- The items of a list as they are written. -/
def writtenItems : List Value → List Value
  | [] => []
  | v :: rest => written v :: writtenItems rest

/- The entries of an object as they are written. -/
def writtenEntries : List (String × Value) → List (String × Value)
  | [] => []
  | (key, v) :: rest => (key, written v) :: writtenEntries rest

end

mutual

/- How deep lists and objects are nested in a value. -/
def depth : Value → Nat
  | .list items => depthOfItems items + 1
  | .object entries => depthOfEntries entries + 1
  | _ => 1

/- The depth of the deepest item. -/
def depthOfItems : List Value → Nat
  | [] => 0
  | v :: rest => max (depth v) (depthOfItems rest)

/- The depth of the deepest entry. -/
def depthOfEntries : List (String × Value) → Nat
  | [] => 0
  | (_, v) :: rest => max (depth v) (depthOfEntries rest)

end

------------------------------------------------------------
-- Responses
------------------------------------------------------------

/- The answers to requests. -/
inductive Response where
  | running
  | healthy
  | record (outcome : Batch.RowOutcome)
  | batch
      (job : String)
      (summary : Batch.Summary)
      (records : List Record)
  | log (entries : List (Nat × LogEntry))
  | refused (cause : Refusal)
  | noRecords
  | noBatch
  | noRoute
  | wrongMethod
  | failed
deriving DecidableEq

namespace Response

/- The status code of a response. -/
def status : Response → Nat
  | running | healthy | record _ | log _ => 200
  | batch .. => 201
  | refused .unreadable | noRecords => 400
  | noBatch | noRoute => 404
  | wrongMethod => 405
  | refused (.misfit _) => 422
  | failed => 500

/- A body that only says what is wrong. -/
def detail (text : String) : Value :=
  .object [("detail", .text text)]

/- A count in a body. -/
def count (n : Nat) : Value :=
  .int n

/- A text in a body, or null. -/
def textOrNull : Option String → Value
  | none => .null
  | some s => .text s

/- The values and annotations of a record. -/
def recordEntries (r : Record) : List (String × Value) :=
  [ ("values", written (.object r.values))
  , ("errors", Record.messageValue r.errors)
  , ("infos", Record.messageValue r.infos) ]

/- The counts over a batch. -/
def summaryEntries (summary : Batch.Summary) : List (String × Value) :=
  [ ("records_processed", count summary.processed)
  , ("records_valid", count summary.good)
  , ("records_invalid", count summary.bad)
  , ("values_changed", count summary.changed)
  , ("errors", count summary.errors)
  , ("infos", count summary.infos) ]

/- An entry of a log. -/
def logEntries (entry : LogEntry) : List (String × Value) :=
  [ ("job_id", .text entry.job)
  , ("row_index", count entry.row)
  , ("field_name", .text entry.field)
  , ("action", .text entry.action.name)
  , ("original_value", textOrNull entry.before)
  , ("new_value", textOrNull entry.after)
  , ("message", textOrNull entry.message)
  , ("validator", .text entry.validators) ]

/- Verdicts of fields. -/
def verdictValue (verdicts : Entries Bool) : Value :=
  .object (verdicts.map fun (field, valid) => (field, .bool valid))

/-
  The body of a response. Problems are one text, and so is what is
  said about a failure.
-/
def body : Response → Value
  | running =>
    .object [ ("message", .text "Fieldguard API is running")
            , ("version", .text "1.0.0") ]
  | healthy => .object [("status", .text "healthy")]
  | record outcome =>
    .object <| recordEntries outcome.record ++
      [ ("verdicts", verdictValue outcome.verdicts)
      , ("valid", .bool outcome.isGood) ]
  | batch job summary records =>
    .object <| ("job_id", .text job) :: summaryEntries summary ++
      [("records", .list (records.map (.object ∘ recordEntries)))]
  | log entries =>
    .list <| entries.map fun (id, entry) =>
      .object (("id", count id) :: logEntries entry)
  | refused .unreadable =>
    detail "There was an error parsing the body"
  | refused (.misfit problems) => .text (Schema.message problems)
  | noRecords => detail "Batch contains no records"
  | noBatch => detail "Batch not found"
  | noRoute => detail "Not Found"
  | wrongMethod => detail "Method Not Allowed"
  | failed => .text "Internal Server Error"

/- The depth of values up to which an answer can be written. -/
def depthLimit : Nat :=
  255

/- Whether the values in a report are not nested deeper than that. -/
def isShallow : Response → Bool
  | record outcome => depthOfEntries outcome.record.values ≤ depthLimit
  | batch _ _ records =>
    records.all fun r => depth (.object r.values) ≤ depthLimit
  | _ => true

end Response

end Service

end RecordRules
