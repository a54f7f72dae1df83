import RecordRules.Service.Response
import RecordRules.Service.Route

/-
  A service that checks records and keeps a log of the batches.

  Main declarations:
    * `Service.Request`
    * `Service.Store`, the log of all batches
    * `Service.Writer`, which reports can be sent
    * `Service.handle`, the answer to a request
    * `Service.bodyFor`, what is sent back
-/

namespace RecordRules

namespace Service

------------------------------------------------------------
-- Requests
------------------------------------------------------------

/- A method, an address, and what is sent along. -/
structure Request where
  method : String
  address : String
  content : Content
deriving DecidableEq

------------------------------------------------------------
-- The log of all batches
------------------------------------------------------------

/- The entries of all batches, the oldest first. -/
structure Store where
  log : List LogEntry := []
deriving DecidableEq

namespace Store

/- A store with further entries. -/
def append
    (store : Store)
    (entries : List LogEntry) : Store :=
  ⟨store.log ++ entries⟩

/- The entries with their numbers, counted from one. -/
def numbered (store : Store) : List (Nat × LogEntry) :=
  (store.log.zipIdx 1).map fun (entry, id) => (id, entry)

/- Whether an entry comes first: by its row, and then its number. -/
def precedes (first second : Nat × LogEntry) : Bool :=
  first.2.row < second.2.row ||
    first.2.row == second.2.row && first.1 ≤ second.1

/- The entries of a batch, in the order of rows and numbers. -/
def ofJob
    (store : Store)
    (job : String) : List (Nat × LogEntry) :=
  (store.numbered.filter fun (_, entry) => entry.job == job).mergeSort
    precedes

end Store

------------------------------------------------------------
-- Answers
------------------------------------------------------------

/- The answer to a record. -/
def checkRecord
    (context : Context)
    (content : Content) : Response :=
  match readPayload RecordPayload.read content with
  | .error cause => .refused cause
  | .ok payload =>
    match Batch.checkRow context payload.plan payload.values with
    | .error _ => .failed
    | .ok outcome => .record outcome

/- The report on a batch that was run. -/
def batchResponse
    (job : String)
    (outcome : Batch.Outcome) : Response :=
  .batch job outcome.summary (outcome.rows.map (·.record))

/- The answer to a batch. The log of a batch that was run is kept. -/
def checkBatch
    (context : Context)
    (job : String)
    (content : Content)
    (store : Store) : Response × Store :=
  match readPayload BatchPayload.read content with
  | .error cause => (.refused cause, store)
  | .ok payload =>
    if payload.records.isEmpty then
      (.noRecords, store)
    else
      match Batch.run context job payload.plan true payload.records with
      | .error _ => (.failed, store)
      | .ok outcome =>
        (batchResponse job outcome, store.append outcome.log)

/- The answer to a question for the log of a batch. -/
def showLog
    (job : String)
    (store : Store) : Response :=
  let entries := store.ofJob job
  if entries.isEmpty then .noBatch else .log entries

/- The answer at a place. -/
def answer
    (context : Context)
    (job : String)
    (route : Route)
    (content : Content)
    (store : Store) : Response × Store :=
  match route with
  | .start => (.running, store)
  | .health => (.healthy, store)
  | .record => (checkRecord context content, store)
  | .batch => checkBatch context job content store
  | .log job => (showLog job store, store)

/-
  The response to a request, and the store after it. A batch that
  comes with the request gets the given name.
-/
def respond
    (context : Context)
    (job : String)
    (request : Request)
    (store : Store) : Response × Store :=
  match Route.find? request.address.toList with
  | none => (.noRoute, store)
  | some route =>
    if request.method.map Char.toUpper == route.method then
      answer context job route request.content store
    else
      (.wrongMethod, store)

------------------------------------------------------------
-- Sending
------------------------------------------------------------

/-
  The reports that can be sent, as the library that writes answers
  decides: the values in a report come from outside, and it may not
  be able to write them.
-/
abbrev Writer :=
  Request → Response → Bool

/- Values that are not nested too deep can be written. -/
def Writer.standard : Writer :=
  fun _ response => response.isShallow

/- What is sent: a failure in the place of a report that cannot be. -/
def Writer.send
    (canWrite : Writer)
    (request : Request)
    (response : Response) : Response :=
  match response with
  | .record _ | .batch .. =>
    if canWrite request response then response else .failed
  | response => response

/-
  The answer to a request, and the store after it. The store has
  changed by then, whether or not the report can be sent.
-/
def handle
    (context : Context)
    (job : String)
    (request : Request)
    (store : Store)
    (canWrite : Writer := .standard) : Response × Store :=
  let (response, store) := respond context job request store
  (canWrite.send request response, store)

/- What is sent back: the body unless only the head is asked for. -/
def bodyFor
    (request : Request)
    (response : Response) : Value :=
  if request.method.map Char.toUpper == "HEAD" then
    .text ""
  else
    response.body

end Service

end RecordRules
