import RecordRules.Proofs.Batch.Log
import RecordRules.Proofs.Service.Address
import RecordRules.Proofs.Service.Answers

/-
  The log of the service over a history of requests.

  Main declarations:
    * `Service.Call`, and `Service.storeAfter`
    * `Service.Call.exists_of_answer`, what one request adds
    * `Service.Store.exists_of_after`, what is added over a history
    * `Service.Store.ofJob_of_append`, the entries of one batch
    * `Service.log_is_what_batch_reported`
-/

namespace RecordRules

namespace Service

------------------------------------------------------------
-- Histories
------------------------------------------------------------

/-
  A request with the time and the settings under which it comes, the
  name that a batch gets if the request brings one, and the reports
  that can be sent.
-/
structure Call where
  context : Context
  job : String
  canWrite : Writer
  request : Request

/- The answer to a request, and the store after it. -/
def Call.answer
    (call : Call)
    (store : Store) : Response × Store :=
  handle call.context call.job call.request store call.canWrite

/- A store after requests, one after the other. -/
def Store.after
    (store : Store)
    (calls : List Call) : Store :=
  calls.foldl (fun store call => (call.answer store).2) store

/- The store after requests to a service that had an empty log. -/
def storeAfter (calls : List Call) : Store :=
  Store.after {} calls

theorem Store.after_append
    (store : Store)
    (first second : List Call) :
    store.after (first ++ second) = (store.after first).after second :=
  List.foldl_append

theorem Store.append_append
    (store : Store)
    (first second : List LogEntry) :
    (store.append first).append second =
      store.append (first ++ second) := by
  simp [append]

------------------------------------------------------------
-- One request
------------------------------------------------------------

/- Questions and records change nothing. -/
theorem Call.keeps_store
    {call : Call}
    (hRequest :
      call.request.IsMethod "GET" ∨
        Route.find? call.request.address.toList = some .record)
    (store : Store) :
    (call.answer store).2 = store := by
  unfold answer
  rcases handle_cases call.context call.job call.request store
      call.canWrite with
    ⟨hKept, -⟩ | ⟨-, _, _, -, -, hAnswer⟩ | ⟨hBatch, hPost, -⟩
  · exact hKept
  · rw [hAnswer]
  · rcases hRequest with hGet | hRecord
    · exact absurd (hGet.symm.trans hPost) (by decide)
    · cases hBatch.symm.trans hRecord

/- A batch that is answered was run, and its log is kept. -/
theorem Call.exists_of_batch
    {call : Call}
    {store : Store}
    {job : String}
    {summary : Batch.Summary}
    {records : List Record}
    (hBatch : (call.answer store).1 = .batch job summary records) :
    ∃ payload outcome,
      readPayload BatchPayload.read call.request.content =
        .ok payload ∧
      Batch.run call.context call.job payload.plan true
          payload.records =
        .ok outcome ∧
      job = call.job ∧
      summary = outcome.summary ∧
      (call.answer store).2 =
        store.append (outcome.entries call.job) := by
  unfold answer at hBatch ⊢
  rcases handle_cases call.context call.job call.request store
      call.canWrite with
    ⟨-, hNone⟩ | ⟨-, _, _, -, -, hAnswer⟩ |
      ⟨-, -, payload, outcome, hPayload, hRun, hAnswer⟩
  · rw [hBatch] at hNone
    exact absurd trivial hNone
  · rw [hAnswer] at hBatch
    dsimp only at hBatch
    cases call.canWrite.eq_of_send call.request hBatch trivial
  · rw [hAnswer] at hBatch ⊢
    dsimp only at hBatch
    cases call.canWrite.eq_of_send call.request hBatch trivial
    refine ⟨payload, outcome, hPayload, hRun, rfl, rfl, ?_⟩
    rw [Batch.log_of_run hRun]

/- A request adds entries of its own batch only. -/
theorem Call.exists_of_answer
    (call : Call)
    (store : Store) :
    ∃ created,
      (call.answer store).2 = store.append created ∧
      ∀ entry ∈ created, entry.job = call.job := by
  have hNothing : store = store.append [] := by simp [Store.append]
  unfold answer
  rcases handle_cases call.context call.job call.request store
      call.canWrite with
    ⟨hKept, -⟩ | ⟨-, _, _, -, -, hAnswer⟩ |
      ⟨-, -, _, outcome, -, hRun, hAnswer⟩
  · exact ⟨[], hKept.trans hNothing, nofun⟩
  · rw [hAnswer]
    exact ⟨[], hNothing, nofun⟩
  · rw [hAnswer]
    refine ⟨outcome.log, rfl, fun entry hEntry => ?_⟩
    rw [Batch.log_of_run hRun] at hEntry
    exact Batch.Outcome.job_of_mem_entries hEntry

------------------------------------------------------------
-- Many requests
------------------------------------------------------------

/- Requests add entries of their own batches only. -/
theorem Store.exists_of_after
    (store : Store)
    (calls : List Call) :
    ∃ created,
      store.after calls = store.append created ∧
      ∀ entry ∈ created, ∃ call ∈ calls, entry.job = call.job := by
  induction calls generalizing store with
  | nil =>
      refine ⟨[], ?_, nofun⟩
      simp [after, append]
  | cons call rest ih =>
      rcases call.exists_of_answer store with ⟨first, hFirst, hOwn⟩
      rcases ih (call.answer store).2 with ⟨others, hRest, hOthers⟩
      refine ⟨first ++ others, ?_, ?_⟩
      · have hStep :
            store.after (call :: rest) =
              (call.answer store).2.after rest :=
          rfl
        rw [hStep, hRest, hFirst, append_append]
      · intro entry hEntry
        rcases List.mem_append.mp hEntry with hHere | hLater
        · exact ⟨call, List.mem_cons_self, hOwn entry hHere⟩
        · rcases hOthers entry hLater with ⟨other, hOther, hJob⟩
          exact ⟨other, List.mem_cons_of_mem call hOther, hJob⟩

------------------------------------------------------------
-- The entries of one batch
------------------------------------------------------------

/- Entries with numbers, counted from a first one. -/
def numberedFrom
    (first : Nat)
    (entries : List LogEntry) : List (Nat × LogEntry) :=
  (entries.zipIdx first).map fun (entry, id) => (id, entry)

theorem numberedFrom_cons
    (first : Nat)
    (entry : LogEntry)
    (rest : List LogEntry) :
    numberedFrom first (entry :: rest) =
      (first, entry) :: numberedFrom (first + 1) rest := by
  unfold numberedFrom
  rw [List.zipIdx_cons, List.map_cons]

theorem numberedFrom_append
    (first : Nat)
    (some more : List LogEntry) :
    numberedFrom first (some ++ more) =
      numberedFrom first some ++
        numberedFrom (first + some.length) more := by
  unfold numberedFrom
  rw [List.zipIdx_append, List.map_append]

theorem of_mem_numberedFrom
    {first : Nat}
    {entries : List LogEntry}
    {numbered : Nat × LogEntry}
    (hMember : numbered ∈ numberedFrom first entries) :
    first ≤ numbered.1 ∧ numbered.2 ∈ entries := by
  induction entries generalizing first with
  | nil => cases hMember
  | cons entry rest ih =>
      rw [numberedFrom_cons] at hMember
      rcases List.mem_cons.mp hMember with rfl | hLater
      · exact ⟨Nat.le_refl first, List.mem_cons_self⟩
      · rcases ih hLater with ⟨hNumber, hEntry⟩
        exact ⟨Nat.le_of_succ_le hNumber,
          List.mem_cons_of_mem entry hEntry⟩

/- Entries that are in the order of rows are in that of the log. -/
theorem numberedFrom_pairwise
    {entries : List LogEntry}
    (hRows :
      entries.Pairwise fun first second => first.row ≤ second.row)
    (first : Nat) :
    (numberedFrom first entries).Pairwise
      fun left right => Store.precedes left right = true := by
  induction hRows generalizing first with
  | nil => exact .nil
  | @cons entry rest hFirst _ ih =>
      rw [numberedFrom_cons]
      refine .cons (fun later hLater => ?_) (ih (first + 1))
      rcases of_mem_numberedFrom hLater with ⟨hNumber, hEntry⟩
      have hRow := hFirst later.2 hEntry
      have hBoth :
          entry.row < later.2.row ∨
            entry.row = later.2.row ∧ first ≤ later.1 := by
        omega
      simpa [Store.precedes] using hBoth

/- Entries of other batches are left out. -/
theorem filter_numberedFrom_of_ne
    {job : String}
    {entries : List LogEntry}
    (hOther : ∀ entry ∈ entries, entry.job ≠ job)
    (first : Nat) :
    ((numberedFrom first entries).filter fun (_, entry) =>
        entry.job == job) = [] := by
  apply List.filter_eq_nil_iff.mpr
  intro numbered hMember
  have hEntry := (of_mem_numberedFrom hMember).2
  simpa using hOther numbered.2 hEntry

theorem filter_numberedFrom_of_eq
    {job : String}
    {entries : List LogEntry}
    (hOwn : ∀ entry ∈ entries, entry.job = job)
    (first : Nat) :
    ((numberedFrom first entries).filter fun (_, entry) =>
        entry.job == job) = numberedFrom first entries := by
  apply List.filter_eq_self.mpr
  intro numbered hMember
  have hEntry := (of_mem_numberedFrom hMember).2
  simpa using hOwn numbered.2 hEntry

/-
  What a batch added to the log is found by its name, in the order in
  which it was added.
-/
theorem Store.ofJob_of_append
    {job : String}
    {earlier own later : List LogEntry}
    (hEarlier : ∀ entry ∈ earlier, entry.job ≠ job)
    (hOwn : ∀ entry ∈ own, entry.job = job)
    (hLater : ∀ entry ∈ later, entry.job ≠ job)
    (hRows :
      own.Pairwise fun first second => first.row ≤ second.row) :
    Store.ofJob ⟨earlier ++ own ++ later⟩ job =
      numberedFrom (earlier.length + 1) own := by
  have hNumbered :
      Store.numbered ⟨earlier ++ own ++ later⟩ =
        numberedFrom 1 (earlier ++ own ++ later) :=
    rfl
  unfold ofJob
  rw [hNumbered, numberedFrom_append, numberedFrom_append,
    List.filter_append, List.filter_append,
    filter_numberedFrom_of_ne hEarlier,
    filter_numberedFrom_of_ne hLater, filter_numberedFrom_of_eq hOwn,
    List.nil_append, List.append_nil, Nat.add_comm]
  exact List.mergeSort_of_pairwise (numberedFrom_pairwise hRows _)

/- The log after a history, about a batch in the middle of it. -/
theorem ofJob_storeAfter
    {before between : List Call}
    {batch : Call}
    {own : List LogEntry}
    (hNames :
      ∀ other ∈ before ++ between, other.job ≠ batch.job)
    (hBatch :
      (batch.answer (storeAfter before)).2 =
        (storeAfter before).append own)
    (hOwn : ∀ entry ∈ own, entry.job = batch.job)
    (hRows :
      own.Pairwise fun first second => first.row ≤ second.row) :
    (storeAfter (before ++ batch :: between)).ofJob batch.job =
      numberedFrom ((storeAfter before).log.length + 1) own := by
  have hStore :
      storeAfter (before ++ batch :: between) =
        ((storeAfter before).append own).after between := by
    rw [← hBatch]
    unfold storeAfter
    rw [Store.after_append]
    rfl
  rcases Store.exists_of_after {} before with
    ⟨earlier, hBefore, hEarlier⟩
  rcases Store.exists_of_after ((storeAfter before).append own)
      between with
    ⟨later, hBetween, hLater⟩
  have hLog : (storeAfter before).log = earlier := by
    unfold storeAfter
    rw [hBefore]
    rfl
  rw [hStore, hBetween]
  simp only [Store.append, hLog]
  refine Store.ofJob_of_append ?_ hOwn ?_ hRows
  · intro entry hEntry
    rcases hEarlier entry hEntry with ⟨call, hCall, hJob⟩
    rw [hJob]
    exact hNames call (List.mem_append_left between hCall)
  · intro entry hEntry
    rcases hLater entry hEntry with ⟨call, hCall, hJob⟩
    rw [hJob]
    exact hNames call (List.mem_append_right before hCall)

/- There is nothing to show exactly if nothing was logged. -/
theorem showLog_cases
    {job : String}
    {store : Store}
    {first : Nat}
    {created : List LogEntry}
    (hFound : store.ofJob job = numberedFrom first created) :
    created.length = 0 ∧ showLog job store = .noBatch ∨
      created.length ≠ 0 ∧
        showLog job store = .log (numberedFrom first created) := by
  unfold showLog
  rw [hFound]
  cases created with
  | nil => exact .inl ⟨rfl, rfl⟩
  | cons entry rest =>
      rw [numberedFrom_cons]
      exact .inr ⟨nofun, rfl⟩

/-
  The log shows exactly what a batch reported. Whatever comes before
  and after a batch that is answered, the question for its log finds
  nothing if the counts of the answer are all zero, and else just the
  entries that the batch made: those of its rows in order, for each
  row those of the fields in order, for each field the change of the
  value, the errors and the infos. All of them carry the name of the
  batch, and there are as many of each kind as the answer counts.
  Records and questions add nothing to the log.
-/
theorem log_is_what_batch_reported :
    (∀ (call : Call) store,
      call.request.IsMethod "GET" ∨
        Route.find? call.request.address.toList = some .record →
          (call.answer store).2 = store) ∧
    ∀ (before between : List Call) (batch ask : Call)
        job summary records,
      (∀ other ∈ before ++ between, other.job ≠ batch.job) →
      (batch.answer (storeAfter before)).1 =
        .batch job summary records →
      Route.find? ask.request.address.toList = some (.log job) →
      ask.request.IsMethod "GET" →
        ∃ payload outcome created response,
          readPayload BatchPayload.read batch.request.content =
            .ok payload ∧
          Batch.run batch.context job payload.plan true
              payload.records =
            .ok outcome ∧
          created = outcome.entries job ∧
          (batch.answer (storeAfter before)).2 =
            (storeAfter before).append created ∧
          response =
            (ask.answer
              (storeAfter (before ++ batch :: between))).1 ∧
          (response.status = 404 ↔
            summary.changed + summary.errors + summary.infos = 0) ∧
          (response.status ≠ 404 →
            response.status = 200 ∧
            response =
              .log
                (numberedFrom ((storeAfter before).log.length + 1)
                  created)) ∧
          (∀ entry ∈ created, entry.job = job) ∧
          created.Pairwise
            (fun first second => first.row ≤ second.row) ∧
          ∀ action,
            created.countP (·.action = action) =
              summary.count action := by
  refine ⟨fun call store hRequest => call.keeps_store hRequest store, ?_⟩
  intro before between batch ask job summary records hNames hBatch
    hRoute hGet
  rcases Call.exists_of_batch hBatch with
    ⟨payload, outcome, hPayload, hRun, rfl, rfl, hStore⟩
  refine ⟨payload, outcome, outcome.entries batch.job, _, hPayload, hRun,
    rfl, hStore, rfl, ?_⟩
  have hJobs :
      ∀ entry ∈ outcome.entries batch.job, entry.job = batch.job :=
    fun _ hEntry => Batch.Outcome.job_of_mem_entries hEntry
  have hRows := outcome.entries_pairwise batch.job
  have hFound := ofJob_storeAfter hNames hStore hJobs hRows
  have hLength := outcome.length_entries batch.job
  have hAsk :
      (ask.answer (storeAfter (before ++ batch :: between))).1 =
        showLog batch.job (storeAfter (before ++ batch :: between)) := by
    rw [Call.answer, handle_of_route _ _ _ _ _ hRoute hGet, answer]
    exact
      ask.canWrite.send_of_not_reports ask.request
        (showLog_not_reports _ _)
  rw [hAsk, ← hLength]
  refine ⟨?_, ?_, hJobs, hRows, outcome.countP_entries batch.job⟩
  · rcases showLog_cases hFound with ⟨hNone, hShown⟩ | ⟨hSome, hShown⟩
    · rw [hShown]
      exact ⟨fun _ => hNone, fun _ => rfl⟩
    · rw [hShown]
      constructor
      · intro hMissing
        cases hMissing
      · intro hNone
        exact absurd hNone hSome
  · rcases showLog_cases hFound with ⟨-, hShown⟩ | ⟨-, hShown⟩
    · rw [hShown]
      exact fun hFailed => absurd rfl hFailed
    · rw [hShown]
      exact fun _ => ⟨rfl, rfl⟩

/- A batch that comes at the start of a year, in usual settings. -/
def Call.ofBatch
    (job : String)
    (content : Entries Value) : Call :=
  { context := ⟨.midnight ⟨2024, 1, 1, by decide⟩, false, "US"⟩
    job
    canWrite := .standard
    request :=
      ⟨"POST", "/batches/validate", .value (.object content)⟩ }

theorem Call.isMethod_ofBatch
    (job : String)
    (content : Entries Value) :
    (ofBatch job content).request.IsMethod "POST" :=
  isMethod_of_capital rfl _ _

/- Such a batch is answered by its report, if that can be written. -/
theorem Call.answer_ofBatch
    (job : String)
    (content : Entries Value)
    (store : Store) :
    (ofBatch job content).answer store =
      (Writer.standard.send (ofBatch job content).request
          (checkBatch (ofBatch job content).context job
            (.value (.object content)) store).1,
        (checkBatch (ofBatch job content).context job
          (.value (.object content)) store).2) := by
  have hRoute :
      Route.find? (ofBatch job content).request.address.toList =
        some .batch :=
    find?_batches
  unfold answer
  rw [handle_of_route _ _ _ _ _ hRoute (isMethod_ofBatch job content)]
  rfl

/- The rule that a text is a mail address. -/
def addressRule : Value :=
  .object
    [ ("validator", .text "StringValidator")
    , ("config", .object
        [ ("type", .text "validate")
        , ("validation_type", .text "isEmail") ]) ]

/-
  A batch with a text that is no address leaves one entry in the log,
  which is still found after it has been asked for; and asking for it
  changes no log.
-/
theorem log_of_no_address :
    ∃ (batch ask : Call) (records : List Record),
      (batch.answer (storeAfter [])).1 =
        .batch "1a" ⟨1, 0, 1, 0, 1, 0⟩ records ∧
      ask.request.address = "/batches/" ++ "1a" ++ "/logs" ∧
      (ask.answer (storeAfter [batch, ask])).1.status = 200 ∧
      ∀ store, (ask.answer store).2 = store := by
  let batch : Call :=
    .ofBatch "1a"
      [ ("records", .list [.object [("mail", .text "x")]])
      , ("constraints", .object [("mail", .list [addressRule])]) ]
  let ask : Call :=
    { batch with
      job := "1b"
      request := ⟨"GET", "/batches/" ++ "1a" ++ "/logs", .nothing⟩ }
  let records : List Record :=
    [ .linked [("mail", .text "x")]
        [("mail", ["Please enter a valid email address"])] [] ]
  have hBatch :
      (batch.answer (storeAfter [])).1 =
        .batch "1a" ⟨1, 0, 1, 0, 1, 0⟩ records := by
    refine (congrArg Prod.fst (Call.answer_ofBatch _ _ _)).trans ?_
    rfl
  have hRoute :
      Route.find? ask.request.address.toList = some (.log "1a") :=
    find?_logs (by decide) (by decide) (by decide)
  have hGet : ask.request.IsMethod "GET" := isMethod_of_capital rfl _ _
  rcases log_is_what_batch_reported with ⟨hKeeps, hShows⟩
  refine ⟨batch, ask, records, hBatch, rfl, ?_, fun store => ?_⟩
  · rcases hShows [] [ask] batch ask _ _ _ (by simp [batch, ask, Call.ofBatch])
        hBatch hRoute hGet with
      ⟨_, _, _, _, -, -, -, -, rfl, hNone, hSome, -⟩
    exact (hSome fun hMissing => absurd (hNone.mp hMissing) nofun).1
  · exact hKeeps ask store (.inl hGet)

end Service

end RecordRules
