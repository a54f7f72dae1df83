import RecordRules.Proofs.Service.History

/-
  What requests that are answered by an error leave in the log.

  Main declarations:
    * `Service.Response.IsError`
    * `Service.Call.Runs`, batches that run to their end
    * `Service.Call.LogsUnanswered`, those among them that are
      logged although the report on them cannot be sent
    * `Service.Call.answer_of_failing_row`
    * `Service.failure_keeps_log_iff`
-/

namespace RecordRules

------------------------------------------------------------
-- Rows that fail
------------------------------------------------------------

namespace Batch

/- A row that cannot be checked is the end of the whole batch. -/
theorem exists_error_of_row
    {context : Context}
    {plan : Constraint.Plan}
    {records : List (Entries Value)}
    {sheet : Sheet}
    {cells : Entries Value}
    {failure : Failure}
    (hSheet : Sheet.ofRecords records = .ok sheet)
    (hRow : cells ∈ (sheet.withColumns (plan.map (·.1))).rowsShown)
    (hFails : checkRow context plan cells = .error failure)
    (job : String)
    (logging : Bool) :
    ∃ cause, run context job plan logging records = .error cause := by
  cases hRun : run context job plan logging records with
  | error cause => exact ⟨cause, rfl⟩
  | ok outcome =>
      rcases exists_sheet_of_run hRun with
        ⟨other, hOther, -, hStarts, hChecks⟩
      cases hSheet.symm.trans hOther
      rw [← hStarts] at hRow
      rcases List.mem_map.mp hRow with ⟨row, hMember, rfl⟩
      cases hFails.symm.trans (hChecks row hMember)

/- Rows come from records. -/
theorem isEmpty_of_rowsShown
    {records : List (Entries Value)}
    {sheet : Sheet}
    {names : List String}
    (hSheet : Sheet.ofRecords records = .ok sheet)
    (hRows : (sheet.withColumns names).rowsShown ≠ []) :
    records.isEmpty = false := by
  cases records with
  | cons record rest => rfl
  | nil =>
      cases hSheet
      refine absurd ?_ hRows
      unfold Sheet.rowsShown
      split <;> rfl

end Batch

namespace Service

------------------------------------------------------------
-- Errors
------------------------------------------------------------

/- Whether a response tells of an error. -/
def Response.IsError (response : Response) : Prop :=
  400 ≤ response.status

/- A report is answered by an error exactly if it cannot be sent. -/
theorem Writer.send_isError_iff
    {response : Response}
    (hReports : response.Reports)
    (canWrite : Writer)
    (request : Request) :
    (canWrite.send request response).IsError ↔
      canWrite request response = false := by
  have hGood : ¬ response.IsError := by
    cases response with
    | record outcome => exact (by decide : ¬ 400 ≤ 200)
    | batch job summary records => exact (by decide : ¬ 400 ≤ 201)
    | _ => exact False.elim hReports
  have hFailed : Response.failed.IsError := (by decide : 400 ≤ 500)
  rw [canWrite.send_of_reports request hReports]
  cases canWrite request response with
  | true => simpa using hGood
  | false => simpa using hFailed

------------------------------------------------------------
-- Batches
------------------------------------------------------------

/- A request brings a batch that runs to its end. -/
structure Call.Runs
    (call : Call)
    (outcome : Batch.Outcome) : Prop where
  route_eq :
    Route.find? call.request.address.toList = some .batch
  isMethod : call.request.IsMethod "POST"
  exists_payload :
    ∃ payload,
      readPayload BatchPayload.read call.request.content =
        .ok payload ∧
      Batch.run call.context call.job payload.plan true
          payload.records =
        .ok outcome

/- Whether the report on a batch can be sent. -/
def Call.CanReport
    (call : Call)
    (outcome : Batch.Outcome) : Prop :=
  call.canWrite call.request (batchResponse call.job outcome) = true

/-
  A request brings a batch that has something to log, but the report
  on which cannot be sent.
-/
def Call.LogsUnanswered (call : Call) : Prop :=
  ∃ outcome,
    call.Runs outcome ∧ ¬ call.CanReport outcome ∧
      outcome.entries call.job ≠ []

variable {call : Call}

/- A batch is answered by an error if its report cannot be sent. -/
theorem Call.sends_error_iff
    (outcome : Batch.Outcome) :
    (call.canWrite.send call.request
        (batchResponse call.job outcome)).IsError ↔
      ¬ call.CanReport outcome := by
  have hReports : (batchResponse call.job outcome).Reports := trivial
  rw [Writer.send_isError_iff hReports, CanReport, Bool.not_eq_true]

/- A batch with something to log is logged, however it is answered. -/
theorem Call.answer_of_runs
    {outcome : Batch.Outcome}
    (hRuns : call.Runs outcome)
    (hEntries : outcome.entries call.job ≠ [])
    (store : Store) :
    call.answer store =
      (call.canWrite.send call.request
          (batchResponse call.job outcome),
        store.append (outcome.entries call.job)) := by
  rcases hRuns.exists_payload with ⟨payload, hPayload, hRun⟩
  rcases Batch.exists_sheet_of_run hRun with
    ⟨sheet, hSheet, -, hStarts, -⟩
  have hSome : payload.records.isEmpty = false := by
    apply Batch.isEmpty_of_rowsShown hSheet
    intro hNone
    rw [hNone, List.map_eq_nil_iff] at hStarts
    rw [Batch.Outcome.entries, hStarts] at hEntries
    exact hEntries rfl
  rw [answer,
    handle_of_route call.context call.job call.request store
      call.canWrite hRuns.route_eq hRuns.isMethod,
    Service.answer, checkBatch, hPayload]
  simp only [hSome, hRun, Bool.false_eq_true, if_false]
  rw [Batch.log_of_run hRun]

/-
  A failure in any row of a batch, whatever the rows before it had to
  log, is answered by an error and leaves the log as it is.
-/
theorem Call.answer_of_failing_row
    {payload : BatchPayload}
    {sheet : Sheet}
    {cells : Entries Value}
    {failure : Failure}
    (hRoute : Route.find? call.request.address.toList = some .batch)
    (hPost : call.request.IsMethod "POST")
    (hPayload :
      readPayload BatchPayload.read call.request.content =
        .ok payload)
    (hSheet : Sheet.ofRecords payload.records = .ok sheet)
    (hRow :
      cells ∈ (sheet.withColumns (payload.plan.map (·.1))).rowsShown)
    (hFails :
      Batch.checkRow call.context payload.plan cells =
        .error failure)
    (store : Store) :
    call.answer store = (.failed, store) := by
  rcases Batch.exists_error_of_row hSheet hRow hFails call.job true with
    ⟨cause, hRun⟩
  have hSome : payload.records.isEmpty = false :=
    Batch.isEmpty_of_rowsShown hSheet (List.ne_nil_of_mem hRow)
  rw [answer,
    handle_of_route call.context call.job call.request store
      call.canWrite hRoute hPost,
    Service.answer, checkBatch, hPayload]
  simp only [hSome, hRun, Bool.false_eq_true, if_false]
  rfl

------------------------------------------------------------
-- Requests that fail
------------------------------------------------------------

/-
  A request that is answered by an error leaves the log as it is, or
  it brings a batch that is logged although its report is not sent.
-/
theorem Call.keeps_store_or_logs
    {store : Store}
    (hError : (call.answer store).1.IsError) :
    (call.answer store).2 = store ∨ call.LogsUnanswered := by
  unfold answer at hError ⊢
  rcases handle_cases call.context call.job call.request store
      call.canWrite with
    ⟨hKept, -⟩ | ⟨-, _, _, -, -, hAnswer⟩ |
      ⟨hRoute, hPost, payload, outcome, hPayload, hRun, hAnswer⟩
  · exact .inl hKept
  · rw [hAnswer]
    exact .inl rfl
  · rw [hAnswer] at hError ⊢
    have hUnsent := (Call.sends_error_iff outcome).mp hError
    by_cases hEntries : outcome.entries call.job = []
    · refine .inl ?_
      dsimp only
      rw [Batch.log_of_run hRun, hEntries, Store.append,
        List.append_nil]
    · exact
        .inr
          ⟨outcome, ⟨hRoute, hPost, payload, hPayload, hRun⟩,
            hUnsent, hEntries⟩

/- Such a batch is answered by an error and has changed the log. -/
theorem Call.LogsUnanswered.answer
    (hLogs : call.LogsUnanswered)
    (store : Store) :
    (call.answer store).1.IsError ∧ (call.answer store).2 ≠ store := by
  rcases hLogs with ⟨outcome, hRuns, hUnsent, hEntries⟩
  rw [call.answer_of_runs hRuns hEntries]
  refine ⟨(Call.sends_error_iff outcome).mpr hUnsent, ?_⟩
  intro hSame
  have hLog :
      store.log ++ outcome.entries call.job = store.log :=
    congrArg Store.log hSame
  exact hEntries (List.append_right_eq_self.mp hLog)

/- A request that leaves the log as it is might as well not be sent. -/
theorem storeAfter_of_kept
    {before : List Call}
    (hKept :
      (call.answer (storeAfter before)).2 = storeAfter before)
    (rest : List Call) :
    storeAfter (before ++ call :: rest) =
      storeAfter (before ++ rest) := by
  have hStep :
      (storeAfter before).after (call :: rest) =
        (call.answer (storeAfter before)).2.after rest :=
    rfl
  unfold storeAfter at hStep hKept ⊢
  rw [Store.after_append, Store.after_append, hStep, hKept]

/-
  A request that is answered by an error leaves no trace, at whatever
  point of a history it comes: not in the log, and not in the log
  after any further requests. The one exception is a batch that has
  run to its end and has something to log, and the report on which
  cannot be sent: its log is kept. A failure in a row is no such
  exception, whatever the rows before it had to log.
-/
theorem failure_keeps_log_iff
    (before : List Call)
    (call : Call) :
    ((call.answer (storeAfter before)).1.IsError →
        ((call.answer (storeAfter before)).2 = storeAfter before ↔
          ¬ call.LogsUnanswered) ∧
        (¬ call.LogsUnanswered →
          ∀ rest,
            storeAfter (before ++ call :: rest) =
              storeAfter (before ++ rest))) ∧
    (∀ outcome,
      call.Runs outcome → outcome.entries call.job ≠ [] →
        ((call.answer (storeAfter before)).1.IsError ↔
          ¬ call.CanReport outcome) ∧
        (call.answer (storeAfter before)).2 =
          (storeAfter before).append (outcome.entries call.job)) ∧
    ∀ payload sheet cells failure,
      Route.find? call.request.address.toList = some .batch →
      call.request.IsMethod "POST" →
      readPayload BatchPayload.read call.request.content =
        .ok payload →
      Sheet.ofRecords payload.records = .ok sheet →
      cells ∈
        (sheet.withColumns (payload.plan.map (·.1))).rowsShown →
      Batch.checkRow call.context payload.plan cells =
        .error failure →
        call.answer (storeAfter before) =
          (.failed, storeAfter before) := by
  refine ⟨?_, ?_, ?_⟩
  · intro hError
    have hKeeps :
        ¬ call.LogsUnanswered →
          (call.answer (storeAfter before)).2 = storeAfter before :=
      fun hNot => (call.keeps_store_or_logs hError).resolve_right hNot
    refine ⟨⟨?_, hKeeps⟩, ?_⟩
    · intro hKept hLogs
      exact (hLogs.answer (storeAfter before)).2 hKept
    · intro hNot rest
      exact storeAfter_of_kept (hKeeps hNot) rest
  · intro outcome hRuns hEntries
    rw [call.answer_of_runs hRuns hEntries]
    exact ⟨call.sends_error_iff outcome, rfl⟩
  · intro payload sheet cells failure hRoute hPost
      hPayload hSheet hRow hFails
    exact
      call.answer_of_failing_row hRoute hPost hPayload hSheet hRow
        hFails (storeAfter before)

/- Lists can be nested as deep as one likes. -/
theorem exists_depth_eq
    (n : Nat) :
    ∃ v, depth v = n + 1 := by
  induction n with
  | zero => exact ⟨.list [], rfl⟩
  | succ n ih =>
      rcases ih with ⟨v, hDepth⟩
      refine ⟨.list [v], ?_⟩
      rw [depth, depthOfItems, depthOfItems, hDepth, Nat.max_zero]

/- A batch with a text that is no address, and a value beside it. -/
def Call.beside (v : Value) : Call :=
  .ofBatch "1a"
    [ ("records", .list
        [.object [("mail", .text "x"), ("path", .list [v])]])
    , ("constraints", .object [("mail", .list [addressRule])]) ]

/- Its report, and the log with an entry about the text. -/
theorem Call.answer_beside (v : Value) :
    ∃ stored,
      (beside v).answer (storeAfter []) =
        (Writer.standard.send (beside v).request
          (.batch "1a" ⟨1, 0, 1, 0, 1, 0⟩
            [ .linked [("mail", .text "x"), ("path", .list [v])]
                [("mail", ["Please enter a valid email address"])]
                [] ]),
          stored) ∧
      stored.log.length = 1 := by
  refine ⟨_, answer_ofBatch _ _ _, rfl⟩

/- A batch the second row of which has no pattern to be replaced. -/
def Call.withoutPattern : Call :=
  .ofBatch "1b"
    [ ("records", .list
        [ .object [("mail", .text "x")]
        , .object [("name", .text "y")] ])
    , ("constraints", .object
        [ ("mail", .list [addressRule])
        , ("name", .list
            [ .object
                [ ("validator", .text "StringValidator")
                , ("config", .object
                    [ ("type", .text "format")
                    , ("format_options", .object
                        [ ("replace", .object
                            [ ("search", .text "(")
                            , ("replace", .text "")
                            , ("regex", .bool true) ]) ]) ]) ] ]) ]) ]

/-
  A batch with a list in many others beside a text that is no address
  is answered by an error, and the entry about the text is kept. A
  batch that fails in its second row adds nothing to it, although
  there is an entry about its first row.
-/
theorem nested_list_leaves_entry :
    ∃ unanswered failing : Call,
      (unanswered.answer (storeAfter [])).1.status = 500 ∧
      unanswered.LogsUnanswered ∧
      (unanswered.answer (storeAfter [])).2 ≠ storeAfter [] ∧
      failing.answer (storeAfter [unanswered]) =
        (.failed, storeAfter [unanswered]) := by
  rcases exists_depth_eq 300 with ⟨nested, hDepth⟩
  let unanswered : Call := .beside nested
  rcases Call.answer_beside nested with ⟨stored, hAnswer, hLength⟩
  have hDeep :
      Writer.standard unanswered.request
          (.batch "1a" ⟨1, 0, 1, 0, 1, 0⟩
            [ .linked [("mail", .text "x"), ("path", .list [nested])]
                [("mail", ["Please enter a valid email address"])]
                [] ]) =
        false := by
    simp [Writer.standard, Response.isShallow, Response.depthLimit,
      Record.values, depth, depthOfEntries, depthOfItems, hDepth]
  have hStatus : (unanswered.answer (storeAfter [])).1.status = 500 := by
    rw [hAnswer]
    dsimp only [Writer.send]
    rw [hDeep]
    rfl
  have hError : (unanswered.answer (storeAfter [])).1.IsError := by
    rw [Response.IsError, hStatus]
    decide
  have hChanged :
      (unanswered.answer (storeAfter [])).2 ≠ storeAfter [] := by
    rw [hAnswer]
    intro hSame
    dsimp only at hSame
    rw [hSame] at hLength
    cases hLength
  have hLogs : unanswered.LogsUnanswered := by
    rcases failure_keeps_log_iff [] unanswered with ⟨hErrors, -, -⟩
    apply Classical.byContradiction
    intro hNot
    exact hChanged ((hErrors hError).1.mpr hNot)
  rcases failure_keeps_log_iff [unanswered] .withoutPattern with
    ⟨-, -, hRows⟩
  refine ⟨unanswered, .withoutPattern, hStatus, hLogs, hChanged, ?_⟩
  exact
    hRows _ _ [("mail", .null), ("name", .text "y")] _ find?_batches
      (Call.isMethod_ofBatch _ _) rfl rfl
      (List.mem_cons_of_mem _ List.mem_cons_self) rfl

end Service

end RecordRules
