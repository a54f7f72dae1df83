import RecordRules.Proofs.Batch.Rows
import RecordRules.Proofs.Constraint.Contract
import RecordRules.Proofs.Record.Frame
import RecordRules.Proofs.Service.Address
import RecordRules.Proofs.Service.Answers

/-
  Errors are the reported failures, so a record without errors at
  the start is valid exactly if all verdicts are good.

  Main declarations:
    * `Constraint.errors_of_apply`
    * `Constraint.errors_of_applyAll`
    * `Batch.RowOutcome.isGood_eq`
    * `Constraint.errors_are_failures`
-/

namespace RecordRules

open Edit

namespace Constraint

------------------------------------------------------------
-- One constraint
------------------------------------------------------------

/- A good verdict is never reported. -/
theorem reports_true
    (c : Constraint)
    (v : Value) :
    c.reports v true = false := by
  have hRule : c.ruleReports v true = false := by
    simp [ruleReports, RuleOptions.reports]
  unfold reports
  split
  · rfl
  · rfl
  · exact hRule

variable
  {context : Context}
  {field : String}
  {c : Constraint}
  {r s : Record}
  {v : Value}
  {valid : Bool}

/- A constraint adds one error for a verdict it reports, else none. -/
theorem errors_of_apply
    (hLinked : r.isLinked = true)
    (hGet : r.get field = .ok v)
    (hRun : (c.apply context field).outcome r = (.ok valid, s)) :
    ∃ message,
      s.errors =
        if c.reports v valid then
          Record.withMessage r.errors field message
        else
          r.errors := by
  rcases apply_acts context field c with ⟨f, hReads, hJudges⟩
  rw [hReads.of_get r v hGet] at hRun
  exact (hJudges v).errors_eq r valid s hLinked hRun

/- A good verdict leaves the errors as they are. -/
theorem errors_of_apply_true
    (hLinked : r.isLinked = true)
    (hRun : (c.apply context field).outcome r = (.ok true, s)) :
    s.errors = r.errors := by
  rcases Record.exists_of_isLinked hLinked with
    ⟨values, errors, infos, rfl⟩
  rcases errors_of_apply rfl rfl hRun with ⟨message, hErrors⟩
  rw [reports_true] at hErrors
  exact hErrors

------------------------------------------------------------
-- All constraints
------------------------------------------------------------

theorem errors_of_applyEach
    {constraints : List Constraint}
    (hLinked : r.isLinked = true)
    (hRun :
      (applyEach context field constraints).outcome r =
        (.ok true, s)) :
    s.errors = r.errors := by
  induction constraints generalizing r with
  | nil =>
      cases hRun
      rfl
  | cons c rest ih =>
      rcases exists_of_outcome_bind hRun with
        ⟨valid, t, hFirst, hTail⟩
      rcases exists_of_outcome_bind hTail with
        ⟨others, u, hRest, hEnd⟩
      rw [outcome_pure] at hEnd
      rcases Prod.mk.inj hEnd with ⟨hBoth, rfl⟩
      have hVerdicts : valid = true ∧ others = true := by
        simpa using hBoth
      rcases hVerdicts with ⟨rfl, rfl⟩
      have hKind := (apply_confined context field c).keeps_isLinked r
      rw [hFirst] at hKind
      rw [ih (hKind.trans hLinked) hRest,
        errors_of_apply_true hLinked hFirst]

/- Where every verdict is good, the errors are as before. -/
theorem errors_of_applyAll
    {plan : Plan}
    {verdicts : Entries Bool}
    (hLinked : r.isLinked = true)
    (hRun :
      (applyAll context plan).outcome r = (.ok verdicts, s))
    (hGood : verdicts.all (·.2) = true) :
    s.errors = r.errors := by
  induction plan generalizing r verdicts with
  | nil =>
      cases hRun
      rfl
  | cons entry rest ih =>
      rcases exists_of_outcome_bind hRun with
        ⟨verdict, t, hFirst, hTail⟩
      rcases exists_of_outcome_bind hTail with
        ⟨others, u, hRest, hEnd⟩
      rw [outcome_pure] at hEnd
      rcases Prod.mk.inj hEnd with ⟨hEntries, rfl⟩
      cases hEntries
      have hVerdicts :
          verdict = true ∧ others.all (·.2) = true := by
        simpa using hGood
      rcases hVerdicts with ⟨rfl, hOthers⟩
      have hKind :=
        (applyEach_confined context entry.1 entry.2).keeps_isLinked r
      rw [hFirst] at hKind
      rw [ih (hKind.trans hLinked) hRest hOthers,
        errors_of_applyEach hLinked hFirst]

end Constraint

------------------------------------------------------------
-- Validity
------------------------------------------------------------

/- A checked row is good exactly if all of its verdicts are. -/
theorem Batch.RowOutcome.isGood_eq
    {context : Context}
    {plan : Constraint.Plan}
    {row : Entries Value}
    {outcome : Batch.RowOutcome}
    (hCheck : Batch.checkRow context plan row = .ok outcome) :
    outcome.isGood = outcome.verdicts.all (·.2) := by
  have hRun := Batch.outcome_of_checkRow hCheck
  cases hGood : outcome.verdicts.all (·.2) with
  | false => rw [isGood, hGood, Bool.and_false]
  | true =>
      have hErrors : outcome.record.errors = [] :=
        Constraint.errors_of_applyAll rfl hRun hGood
      rw [isGood, hGood, Record.isValid, hErrors]
      rfl

namespace Service

/- A record in a response is one that has been checked. -/
theorem exists_of_record
    {context : Context}
    {job : String}
    {request : Request}
    {store : Store}
    {canWrite : Writer}
    {outcome : Batch.RowOutcome}
    (hResponse :
      (handle context job request store canWrite).1 =
        .record outcome) :
    ∃ payload : RecordPayload,
      Batch.checkRow context payload.plan payload.values =
        .ok outcome := by
  rcases handle_cases context job request store canWrite with
    ⟨-, hNone⟩ | ⟨-, payload, checked, -, hCheck, hAnswer⟩ |
      ⟨-, -, _, batch, -, -, hAnswer⟩
  · rw [hResponse] at hNone
    exact absurd trivial hNone
  · rw [hAnswer] at hResponse
    dsimp only at hResponse
    cases canWrite.eq_of_send request hResponse trivial
    exact ⟨payload, hCheck⟩
  · rw [hAnswer] at hResponse
    dsimp only at hResponse
    cases canWrite.eq_of_send request hResponse trivial

/- The report on a record that was checked, if it can be sent. -/
theorem handle_of_checked
    {context : Context}
    {request : Request}
    {payload : RecordPayload}
    {outcome : Batch.RowOutcome}
    (hRoute : Route.find? request.address.toList = some .record)
    (hPost : request.IsMethod "POST")
    (hPayload :
      readPayload RecordPayload.read request.content = .ok payload)
    (hCheck :
      Batch.checkRow context payload.plan payload.values =
        .ok outcome)
    (job : String)
    (store : Store)
    (canWrite : Writer) :
    (handle context job request store canWrite).1 =
      if canWrite request (.record outcome) then
        .record outcome
      else
        .failed := by
  have hAnswer :
      answer context job .record request.content store =
        (.record outcome, store) := by
    rw [answer, checkRecord, hPayload]
    dsimp only
    rw [hCheck]
  have hReports : (Response.record outcome).Reports := trivial
  rw [handle_of_route context job request store canWrite hRoute hPost,
    hAnswer]
  exact canWrite.send_of_reports request hReports

/- The flag in the answer to a record is whether all verdicts are good. -/
theorem valid_of_record
    {context : Context}
    {job : String}
    {request : Request}
    {store : Store}
    {canWrite : Writer}
    {outcome : Batch.RowOutcome}
    (hResponse :
      (handle context job request store canWrite).1 =
        .record outcome) :
    ∃ entries, (Response.record outcome).body = .object entries ∧
      Entries.get? entries "valid" =
        some (.bool (outcome.verdicts.all (·.2))) := by
  rcases exists_of_record hResponse with ⟨payload, hCheck⟩
  rw [← Batch.RowOutcome.isGood_eq hCheck]
  exact ⟨_, rfl, rfl⟩

end Service

/-
  Errors are exactly the reported failures. A constraint that gives
  a verdict changes its field only, takes back no error and no info,
  and adds one error if the verdict is to be reported, and else none.
  So a record without errors at the start has none at the end if all
  verdicts are good, and the flag in the answer to a record is
  whether they are. Every record that can be checked is answered so,
  unless the report on it cannot be sent.
-/
theorem Constraint.errors_are_failures (context : Context) :
    (∀ (c : Constraint) field r v valid s,
      r.isLinked = true → r.get field = .ok v →
      (c.apply context field).outcome r = (.ok valid, s) →
        r.ChangedAt field s ∧
        ∃ message,
          s.errorsAt field =
            r.errorsAt field ++
              if c.reports v valid then [message] else []) ∧
    (∀ plan values verdicts s,
      (Constraint.applyAll context plan).outcome (.ofValues values) =
        (.ok verdicts, s) →
      verdicts.all (·.2) = true →
        s.errors = [] ∧ s.isValid = true) ∧
    ∀ job request store canWrite,
      (∀ outcome,
        (Service.handle context job request store canWrite).1 =
          .record outcome →
          ∃ entries,
            (Service.Response.record outcome).body = .object entries ∧
            Entries.get? entries "valid" =
              some (.bool (outcome.verdicts.all (·.2)))) ∧
      ∀ payload outcome,
        Service.Route.find? request.address.toList = some .record →
        request.IsMethod "POST" →
        Service.readPayload Service.RecordPayload.read
            request.content =
          .ok payload →
        Batch.checkRow context payload.plan payload.values =
          .ok outcome →
          (Service.handle context job request store canWrite).1 =
            if canWrite request (.record outcome) then
              .record outcome
            else
              .failed := by
  refine ⟨?_, ?_, fun job request store canWrite => ⟨?_, ?_⟩⟩
  · intro c field r v valid s hLinked hGet hRun
    have hChanged :=
      (apply_confined context field c).changedAt r
    rw [hRun] at hChanged
    refine ⟨hChanged, ?_⟩
    rcases errors_of_apply hLinked hGet hRun with ⟨message, hErrors⟩
    refine ⟨message, ?_⟩
    unfold Record.errorsAt
    rw [hErrors]
    split
    · exact Record.getD_withMessage_self ..
    · rw [List.append_nil]
  · intro plan values verdicts s hRun hGood
    have hErrors : s.errors = [] := errors_of_applyAll rfl hRun hGood
    refine ⟨hErrors, ?_⟩
    rw [Record.isValid, hErrors]
    rfl
  · intro outcome hResponse
    exact Service.valid_of_record hResponse
  · intro payload outcome hRoute hPost hPayload hCheck
    exact
      Service.handle_of_checked hRoute hPost hPayload hCheck job store
        canWrite

/-
  A text that is no address gets its one error, a text that is asked
  for gets none, and a record with the first is answered as not valid.
-/
theorem Constraint.one_error_for_no_address :
    ∃ (context : Context) (mail : Constraint) (s : Record)
        (message : String) (request : Service.Request)
        (outcome : Batch.RowOutcome) (body : Entries Value),
      (mail.apply context "mail").outcome
          (.ofValues [("mail", .text "x")]) =
        (.ok false, s) ∧
      s.errorsAt "mail" = [message] ∧
      ((Constraint.applyAll context
          [("mail", [⟨.text, { mode := .validate }⟩])]).outcome
        (.ofValues [("mail", .text "x")])).2.isValid = true ∧
      (Service.handle context "1a" request {}).1 = .record outcome ∧
      (Service.Response.record outcome).body = .object body ∧
      Entries.get? body "valid" = some (.bool false) := by
  let context : Context :=
    ⟨.midnight ⟨2024, 1, 1, by decide⟩, false, "US"⟩
  let mail : Constraint :=
    .mk .text { mode := .validate, ruleType := "isEmail" }
  let values : Entries Value := [("mail", .text "x")]
  let s : Record :=
    .linked values
      [("mail", ["Please enter a valid email address"])] []
  let content : Value :=
    .object
      [ ("values", .object values)
      , ("constraints", .object
          [ ("mail", .list
              [ .object
                  [ ("validator", .text "StringValidator")
                  , ("config", .object
                      [ ("type", .text "validate")
                      , ("validation_type", .text "isEmail") ]) ] ]) ]) ]
  let request : Service.Request :=
    ⟨"POST", "/records/validate", .value content⟩
  have hRun :
      (mail.apply context "mail").outcome (.ofValues values) =
        (.ok false, s) :=
    rfl
  have hGood :
      (Constraint.applyAll context
          [("mail", [⟨.text, { mode := .validate }⟩])]).outcome
          (.ofValues values) =
        (.ok [("mail", true)], .ofValues values) :=
    rfl
  have hPost : request.IsMethod "POST" :=
    Service.isMethod_of_capital rfl _ _
  rcases errors_are_failures context with ⟨hOne, hAll, hAnswers⟩
  rcases hAnswers "1a" request {} .standard with ⟨hFlag, hSends⟩
  have hAnswer :
      (Service.handle context "1a" request {}).1 =
        .record ⟨values, s, [("mail", false)]⟩ := by
    rw [hSends ⟨values, [("mail", [mail])]⟩ _ Service.find?_records
      hPost rfl rfl]
    rfl
  rcases hOne mail "mail" _ _ _ _ rfl rfl hRun with
    ⟨-, message, hErrors⟩
  rcases hAll _ _ _ _ hGood rfl with ⟨-, hValid⟩
  rcases hFlag _ hAnswer with ⟨body, hBody, hVerdict⟩
  refine ⟨context, mail, s, message, request, _, body, hRun, hErrors, ?_,
    hAnswer, hBody, hVerdict⟩
  rw [hGood]
  exact hValid

end RecordRules
