import RecordRules.Service

/-
  All that the service does with a request.

  Main declarations:
    * `Service.Request.IsMethod`, and `Service.isMethod_of_capital`
    * `Service.Response.Reports`, answers to checked records
    * `Service.Writer.send_of_reports`, reports that are sent
    * `Service.handle_of_route`
    * `Service.handle_cases`, the three ways of an answer
-/

namespace RecordRules

namespace Service

------------------------------------------------------------
-- Requests and responses
------------------------------------------------------------

/- Whether a request is sent by a method. -/
def Request.IsMethod
    (request : Request)
    (method : String) : Prop :=
  request.method.map Char.toUpper = method

/- A method in capital letters is the one that it names. -/
theorem isMethod_of_capital
    {method : String}
    (hCapital :
      method.toList.map Char.toUpper = method.toList)
    (address : String)
    (content : Content) :
    Request.IsMethod ⟨method, address, content⟩ method := by
  apply String.toList_inj.mp
  rw [String.toList_map]
  exact hCapital

/- Whether a response tells of a record or a batch that was checked. -/
def Response.Reports : Response → Prop
  | record _ | batch .. => True
  | _ => False

section Sending

variable
  (canWrite : Writer)
  (request : Request)
  {response : Response}

/- A report is sent if it can be written. -/
theorem Writer.send_of_reports
    (hReports : response.Reports) :
    canWrite.send request response =
      if canWrite request response then response else .failed := by
  cases response with
  | record outcome => rfl
  | batch job summary records => rfl
  | _ => exact False.elim hReports

/- What is no report is always sent. -/
theorem Writer.send_of_not_reports
    (hOther : ¬ response.Reports) :
    canWrite.send request response = response := by
  cases response with
  | record outcome => exact absurd trivial hOther
  | batch job summary records => exact absurd trivial hOther
  | _ => rfl

/- A report that is sent is the one that was made. -/
theorem Writer.eq_of_send
    {sent : Response}
    (hSent : canWrite.send request response = sent)
    (hReports : sent.Reports) :
    response = sent := by
  by_cases hMade : response.Reports
  · rw [canWrite.send_of_reports request hMade] at hSent
    split at hSent
    · exact hSent
    · rw [← hSent] at hReports
      exact False.elim hReports
  · rwa [canWrite.send_of_not_reports request hMade] at hSent

end Sending

------------------------------------------------------------
-- Answers at a place
------------------------------------------------------------

/- A record is checked, or there is nothing to report. -/
theorem checkRecord_cases
    (context : Context)
    (content : Content) :
    ¬ (checkRecord context content).Reports ∨
    ∃ payload outcome,
      readPayload RecordPayload.read content = .ok payload ∧
      Batch.checkRow context payload.plan payload.values =
        .ok outcome ∧
      checkRecord context content = .record outcome := by
  unfold checkRecord
  cases hPayload : readPayload RecordPayload.read content with
  | error cause => exact .inl id
  | ok payload =>
      dsimp only
      cases hCheck :
          Batch.checkRow context payload.plan payload.values with
      | error failure => exact .inl id
      | ok outcome => exact .inr ⟨payload, outcome, rfl, hCheck, rfl⟩

/-
  A batch is run, and its log is kept; or nothing is kept, and there
  is nothing to report.
-/
theorem checkBatch_cases
    (context : Context)
    (job : String)
    (content : Content)
    (store : Store) :
    ((checkBatch context job content store).2 = store ∧
      ¬ (checkBatch context job content store).1.Reports) ∨
    ∃ payload outcome,
      readPayload BatchPayload.read content = .ok payload ∧
      Batch.run context job payload.plan true payload.records =
        .ok outcome ∧
      checkBatch context job content store =
        (batchResponse job outcome, store.append outcome.log) := by
  unfold checkBatch
  cases hPayload : readPayload BatchPayload.read content with
  | error cause => exact .inl ⟨rfl, id⟩
  | ok payload =>
      dsimp only
      split
      · exact .inl ⟨rfl, id⟩
      · cases hRun :
            Batch.run context job payload.plan true
              payload.records with
        | error failure => exact .inl ⟨rfl, id⟩
        | ok outcome => exact .inr ⟨payload, outcome, rfl, hRun, rfl⟩

/- The log of a batch reports nothing new. -/
theorem showLog_not_reports
    (job : String)
    (store : Store) :
    ¬ (showLog job store).Reports := by
  unfold showLog
  dsimp only
  split <;> exact id

------------------------------------------------------------
-- Answers to requests
------------------------------------------------------------

section Requests

variable
  (context : Context)
  (job : String)
  (request : Request)
  (store : Store)

theorem respond_of_route
    {route : Route}
    (hRoute : Route.find? request.address.toList = some route)
    (hMethod : request.IsMethod route.method) :
    respond context job request store =
      answer context job route request.content store := by
  have hSame :
      (request.method.map Char.toUpper == route.method) = true :=
    beq_iff_eq.mpr hMethod
  unfold respond
  rw [hRoute]
  dsimp only
  rw [if_pos hSame]

/-
  A request is a record that is checked, or a batch that is run and
  whose log is kept; or it changes nothing and reports nothing.
-/
theorem respond_cases :
    ((respond context job request store).2 = store ∧
      ¬ (respond context job request store).1.Reports) ∨
    (Route.find? request.address.toList = some .record ∧
      ∃ payload outcome,
        readPayload RecordPayload.read request.content = .ok payload ∧
        Batch.checkRow context payload.plan payload.values =
          .ok outcome ∧
        respond context job request store = (.record outcome, store)) ∨
    (Route.find? request.address.toList = some .batch ∧
      request.IsMethod "POST" ∧
      ∃ payload outcome,
        readPayload BatchPayload.read request.content = .ok payload ∧
        Batch.run context job payload.plan true payload.records =
          .ok outcome ∧
        respond context job request store =
          (batchResponse job outcome, store.append outcome.log)) := by
  cases hRoute : Route.find? request.address.toList with
  | none =>
      unfold respond
      rw [hRoute]
      exact .inl ⟨rfl, id⟩
  | some route =>
      by_cases hMethod : request.IsMethod route.method
      · rw [respond_of_route context job request store hRoute hMethod]
        cases route with
        | start | health => exact .inl ⟨rfl, id⟩
        | log asked => exact .inl ⟨rfl, showLog_not_reports asked store⟩
        | record =>
            rcases checkRecord_cases context request.content with
              hNone | ⟨payload, outcome, hPayload, hCheck, hAnswer⟩
            · exact .inl ⟨rfl, hNone⟩
            · refine .inr (.inl ⟨rfl, payload, outcome, hPayload, hCheck, ?_⟩)
              rw [answer, hAnswer]
        | batch =>
            rcases checkBatch_cases context job request.content store with
              hNone | hSome
            · exact .inl hNone
            · exact .inr (.inr ⟨rfl, hMethod, hSome⟩)
      · have hOther :
            (request.method.map Char.toUpper == route.method) = false :=
          beq_eq_false_iff_ne.mpr hMethod
        unfold respond
        rw [hRoute]
        dsimp only
        rw [hOther]
        exact .inl ⟨rfl, id⟩

variable (canWrite : Writer)

/- A request by the method of its place is answered there. -/
theorem handle_of_route
    {route : Route}
    (hRoute : Route.find? request.address.toList = some route)
    (hMethod : request.IsMethod route.method) :
    handle context job request store canWrite =
      (canWrite.send request
          (answer context job route request.content store).1,
        (answer context job route request.content store).2) := by
  rw [handle, respond_of_route context job request store hRoute hMethod]

/-
  The same of what is sent: the report on a record or on a batch is
  sent if it can be.
-/
theorem handle_cases :
    ((handle context job request store canWrite).2 = store ∧
      ¬ (handle context job request store canWrite).1.Reports) ∨
    (Route.find? request.address.toList = some .record ∧
      ∃ payload outcome,
        readPayload RecordPayload.read request.content = .ok payload ∧
        Batch.checkRow context payload.plan payload.values =
          .ok outcome ∧
        handle context job request store canWrite =
          (canWrite.send request (.record outcome), store)) ∨
    (Route.find? request.address.toList = some .batch ∧
      request.IsMethod "POST" ∧
      ∃ payload outcome,
        readPayload BatchPayload.read request.content = .ok payload ∧
        Batch.run context job payload.plan true payload.records =
          .ok outcome ∧
        handle context job request store canWrite =
          (canWrite.send request (batchResponse job outcome),
            store.append outcome.log)) := by
  unfold handle
  rcases respond_cases context job request store with
    ⟨hKept, hNone⟩ | ⟨hRoute, payload, outcome, hPayload, hCheck, hMade⟩ |
      ⟨hRoute, hPost, payload, outcome, hPayload, hRun, hMade⟩
  · refine .inl ⟨hKept, ?_⟩
    dsimp only
    rwa [canWrite.send_of_not_reports request hNone]
  · rw [hMade]
    exact .inr (.inl ⟨hRoute, payload, outcome, hPayload, hCheck, rfl⟩)
  · rw [hMade]
    exact
      .inr (.inr ⟨hRoute, hPost, payload, outcome, hPayload, hRun, rfl⟩)

end Requests

end Service

end RecordRules
