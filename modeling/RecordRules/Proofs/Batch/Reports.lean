import RecordRules.Proofs.Batch.Log

/-
  The log of a batch about a field of a row.

  Main declarations:
    * `Batch.entriesAt` and `Batch.messagesOf`
    * `Batch.Shows`, what a log shows of a value
    * `Batch.Reports`, a log that tells all about a field of a row
    * `Batch.reports_of_run`
-/

namespace RecordRules

namespace Batch

------------------------------------------------------------
-- Parts of a log
------------------------------------------------------------

/- The entries of a log about a field of a row. -/
def entriesAt
    (log : List LogEntry)
    (i : Nat)
    (field : String) : List LogEntry :=
  log.filter fun entry => entry.row = i ∧ entry.field = field

/- The messages of the entries of a kind. -/
def messagesOf
    (action : LogAction)
    (log : List LogEntry) : List (Option String) :=
  (log.filter fun entry => entry.action = action).map (·.message)

/- What a log shows of a value: nothing of null, else its text, cut. -/
def Shows
    (text : Option String)
    (v : Value) : Prop :=
  (v = .null ∧ text = none) ∨
    v ≠ .null ∧ ∃ chars, v.print = .ok chars ∧
      text = some (String.ofList (chars.take 200))

theorem shows_of_logText
    {v : Value}
    {text : Option String}
    (hText : logText v = .ok text) :
    Shows text v := by
  by_cases hNull : v = .null
  · subst hNull
    cases hText
    exact .inl ⟨rfl, rfl⟩
  · refine .inr ⟨hNull, ?_⟩
    rw [logText] at hText
    · rcases Failure.exists_of_bind hText with ⟨chars, hChars, hCut⟩
      cases hCut
      exact ⟨chars, hChars, rfl⟩
    · exact hNull

theorem entriesAt_append
    (first second : List LogEntry)
    (i : Nat)
    (field : String) :
    entriesAt (first ++ second) i field =
      entriesAt first i field ++ entriesAt second i field :=
  List.filter_append ..

theorem entriesAt_eq_nil
    {log : List LogEntry}
    {i : Nat}
    {field : String}
    (hOther : ∀ entry ∈ log, ¬ (entry.row = i ∧ entry.field = field)) :
    entriesAt log i field = [] := by
  apply List.filter_eq_nil_iff.mpr
  intro entry hEntry
  simpa using hOther entry hEntry

theorem entriesAt_eq_self
    {log : List LogEntry}
    {i : Nat}
    {field : String}
    (hOwn : ∀ entry ∈ log, entry.row = i ∧ entry.field = field) :
    entriesAt log i field = log := by
  apply List.filter_eq_self.mpr
  intro entry hEntry
  simpa using hOwn entry hEntry

namespace RowOutcome

variable
  {row : RowOutcome}
  {job field : String}
  {i : Nat}
  {constraints : List Constraint}
  {plan : Constraint.Plan}

theorem of_mem_fieldEntries
    {entry : LogEntry}
    (hEntry : entry ∈ row.fieldEntries job i field constraints) :
    entry.job = job ∧ entry.row = i ∧ entry.field = field ∧
      entry.before = shownText (row.before field) ∧
      entry.after = shownText (row.after field) := by
  rcases List.mem_map.mp hEntry with ⟨event, -, rfl⟩
  exact ⟨rfl, rfl, rfl, rfl, rfl⟩

theorem field_of_mem_entries
    {entry : LogEntry}
    (hEntry : entry ∈ row.entries job plan i) :
    entry.field ∈ plan.map (·.1) := by
  rcases List.mem_flatMap.mp hEntry with ⟨named, hNamed, hField⟩
  rw [(of_mem_fieldEntries hField).2.2.1]
  exact List.mem_map_of_mem hNamed

/- The entries about a field among those about its row. -/
theorem entriesAt_entries
    (hNames : (plan.map (·.1)).Nodup)
    (hField : (field, constraints) ∈ plan) :
    entriesAt (row.entries job plan i) i field =
      row.fieldEntries job i field constraints := by
  induction plan with
  | nil => cases hField
  | cons named rest ih =>
      rw [List.map_cons, List.nodup_cons] at hNames
      rcases hNames with ⟨hNew, hNames⟩
      have hSplit :
          row.entries job (named :: rest) i =
            row.fieldEntries job i named.1 named.2 ++
              row.entries job rest i := by
        unfold entries
        rw [List.flatMap_cons]
      rw [hSplit, entriesAt_append]
      rcases List.mem_cons.mp hField with rfl | hRest
      · have hOwn :
            entriesAt (row.fieldEntries job i field constraints) i
                field =
              row.fieldEntries job i field constraints :=
          entriesAt_eq_self fun entry hEntry =>
            have hPlace := of_mem_fieldEntries hEntry
            ⟨hPlace.2.1, hPlace.2.2.1⟩
        have hOthers : entriesAt (row.entries job rest i) i field = [] := by
          apply entriesAt_eq_nil
          rintro entry hEntry ⟨-, rfl⟩
          exact hNew (field_of_mem_entries hEntry)
        rw [hOwn, hOthers, List.append_nil]
      · have hFirst :
            entriesAt (row.fieldEntries job i named.1 named.2) i field =
              [] := by
          apply entriesAt_eq_nil
          rintro entry hEntry ⟨-, hName⟩
          rw [(of_mem_fieldEntries hEntry).2.2.1] at hName
          rw [hName] at hNew
          exact hNew (List.mem_map_of_mem hRest)
        rw [hFirst, List.nil_append, ih hNames hRest]

/- The messages that are logged about a field. -/
theorem messagesOf_fieldEntries
    (row : RowOutcome)
    (job : String)
    (i : Nat)
    (field : String)
    (constraints : List Constraint) :
    messagesOf .setValue (row.fieldEntries job i field constraints) =
        (if row.hasChanged field then [none] else []) ∧
      messagesOf .addError (row.fieldEntries job i field constraints) =
        (row.errors field).map some ∧
      messagesOf .addInfo (row.fieldEntries job i field constraints) =
        (row.infos field).map some := by
  have hAll (texts : List String) :
      texts.filter (fun _ => true) = texts :=
    List.filter_eq_self.mpr fun _ _ => rfl
  have hNone (texts : List String) :
      texts.filter (fun _ => false) = [] :=
    List.filter_eq_nil_iff.mpr fun _ _ => Bool.false_ne_true
  unfold messagesOf fieldEntries events
  cases hChanged : row.hasChanged field <;>
    simp [List.filter_map, Function.comp_def, hAll, hNone]

end RowOutcome

/- The entries about a field among those about all rows. -/
theorem entriesAt_entriesFrom
    (job field : String)
    (plan : Constraint.Plan)
    (index : Nat)
    {k : Nat}
    {rows : List RowOutcome}
    {row : RowOutcome}
    (hRow : rows[k]? = some row) :
    entriesAt (entriesFrom job plan index rows) (index + k) field =
      entriesAt (row.entries job plan (index + k)) (index + k)
        field := by
  induction rows generalizing index k with
  | nil => cases hRow
  | cons first rest ih =>
      rw [entriesFrom_cons, entriesAt_append]
      cases k with
      | zero =>
          cases hRow
          have hLater :
              entriesAt (entriesFrom job plan (index + 1) rest) index
                  field =
                [] := by
            apply entriesAt_eq_nil
            rintro entry hEntry ⟨hIndex, -⟩
            have hAfter := (of_mem_entriesFrom hEntry).2
            omega
          rw [Nat.add_zero, hLater, List.append_nil]
      | succ k =>
          have hFirst :
              entriesAt (first.entries job plan index) (index + (k + 1))
                  field =
                [] := by
            apply entriesAt_eq_nil
            rintro entry hEntry ⟨hIndex, -⟩
            have hHere := (RowOutcome.of_mem_entries hEntry).2
            omega
          have hIndex : index + (k + 1) = index + 1 + k := by omega
          rw [hFirst, List.nil_append, hIndex]
          exact ih (index + 1) hRow

/- Every entry is about a field of the plan in one of the rows. -/
theorem exists_of_mem_entriesFrom
    {job : String}
    {plan : Constraint.Plan}
    {index : Nat}
    {rows : List RowOutcome}
    {entry : LogEntry}
    (hEntry : entry ∈ entriesFrom job plan index rows) :
    ∃ k row, rows[k]? = some row ∧ entry.row = index + k ∧
      entry.field ∈ plan.map (·.1) := by
  induction rows generalizing index with
  | nil => cases hEntry
  | cons first rest ih =>
      rw [entriesFrom_cons, List.mem_append] at hEntry
      rcases hEntry with hHere | hLater
      · exact
          ⟨0, first, rfl, (RowOutcome.of_mem_entries hHere).2,
            RowOutcome.field_of_mem_entries hHere⟩
      · rcases ih hLater with ⟨k, row, hRow, hIndex, hField⟩
        refine ⟨k + 1, row, hRow, ?_, hField⟩
        omega

/- The log of every field in a run has been written. -/
theorem exists_fieldLog_of_runRows
    {context : Context}
    {job : String}
    {plan : Constraint.Plan}
    {index k : Nat}
    {rows : List (Entries Value)}
    {results : List (RowOutcome × List LogEntry)}
    {row : RowOutcome}
    {entry : String × List Constraint}
    (hRun : runRows context job plan true index rows = .ok results)
    (hRow : (results.map (·.1))[k]? = some row)
    (hEntry : entry ∈ plan) :
    ∃ log, row.fieldLog job (index + k) entry.1 entry.2 = .ok log := by
  induction rows generalizing index k results with
  | nil =>
      cases hRun
      cases hRow
  | cons first rest ih =>
      rw [runRows_cons] at hRun
      rcases Failure.exists_of_bind hRun with ⟨head, -, hTail⟩
      rcases Failure.exists_of_bind hTail with ⟨log, hLog, hLogged⟩
      rcases Failure.exists_of_bind hLogged with ⟨others, hOthers, hAll⟩
      cases hAll
      cases k with
      | zero =>
          cases hRow
          rcases Failure.exists_of_bind hLog with ⟨parts, hParts, -⟩
          exact Failure.exists_of_mapM hParts hEntry
      | succ k =>
          have hIndex : index + (k + 1) = index + 1 + k := by omega
          rw [hIndex]
          exact ih hOthers hRow

/- What is logged about a field shows its value before and after. -/
theorem RowOutcome.shows_of_fieldLog
    {row : RowOutcome}
    {job field : String}
    {i : Nat}
    {constraints : List Constraint}
    {log : List LogEntry}
    (hLog : row.fieldLog job i field constraints = .ok log)
    {entry : LogEntry}
    (hEntry : entry ∈ row.fieldEntries job i field constraints) :
    Shows entry.before (row.before field) ∧
      Shows entry.after (row.after field) := by
  rcases List.mem_map.mp hEntry with ⟨event, hEvent, rfl⟩
  rcases Failure.exists_of_mapM hLog hEvent with ⟨written, hWritten⟩
  rcases Failure.exists_of_bind hWritten with ⟨before, hBefore, hRest⟩
  rcases Failure.exists_of_bind hRest with ⟨after, hAfter, -⟩
  have hBeforeText : shownText (row.before field) = before := by
    rw [shownText, hBefore]
  have hAfterText : shownText (row.after field) = after := by
    rw [shownText, hAfter]
  dsimp only
  rw [hBeforeText, hAfterText]
  exact ⟨shows_of_logText hBefore, shows_of_logText hAfter⟩

/-
  A log tells all about a field of a row: one change if the value is
  another one at the end, and every error and info, each with the
  value before and after.
-/
structure Reports
    (log : List LogEntry)
    (job : String)
    (i : Nat)
    (row : RowOutcome)
    (field : String) : Prop where
  changes_eq :
    messagesOf .setValue (entriesAt log i field) =
      if row.before field = row.after field then [] else [none]
  errors_eq :
    messagesOf .addError (entriesAt log i field) =
      (row.errors field).map some
  infos_eq :
    messagesOf .addInfo (entriesAt log i field) =
      (row.infos field).map some
  job_eq : ∀ entry ∈ entriesAt log i field, entry.job = job
  shows :
    ∀ entry ∈ entriesAt log i field,
      Shows entry.before (row.before field) ∧
        Shows entry.after (row.after field)

/- The log of a run tells all about every field of every row. -/
theorem reports_of_run
    {context : Context}
    {job : String}
    {plan : Constraint.Plan}
    {records : List (Entries Value)}
    {outcome : Outcome}
    (hNames : (plan.map (·.1)).Nodup)
    (hRun : run context job plan true records = .ok outcome)
    {i : Nat}
    {row : RowOutcome}
    (hRow : outcome.rows[i]? = some row)
    {entry : String × List Constraint}
    (hEntry : entry ∈ plan) :
    Reports outcome.log job i row entry.1 := by
  rcases Failure.exists_of_bind hRun with ⟨sheet, -, hRest⟩
  rcases Failure.exists_of_bind hRest with ⟨results, hResults, hEnd⟩
  have hResult : (results.map (·.1))[i]? = some row := by
    cases hEnd
    exact hRow
  rcases exists_fieldLog_of_runRows hResults hResult hEntry with
    ⟨log, hLog⟩
  rw [Nat.zero_add] at hLog
  have hPlan : outcome.plan = plan := by
    cases hEnd
    rfl
  have hOwn :
      entriesAt outcome.log i entry.1 =
        row.fieldEntries job i entry.1 entry.2 := by
    have hFrom := entriesAt_entriesFrom job entry.1 plan 0 hRow
    rw [Nat.zero_add] at hFrom
    rw [log_of_run hRun, Outcome.entries, hPlan, hFrom]
    exact RowOutcome.entriesAt_entries hNames hEntry
  rcases row.messagesOf_fieldEntries job i entry.1 entry.2 with
    ⟨hChanges, hErrors, hInfos⟩
  rw [← hOwn] at hChanges hErrors hInfos
  refine ⟨?_, hErrors, hInfos, ?_, ?_⟩
  · rw [hChanges]
    by_cases hSame : row.before entry.1 = row.after entry.1 <;>
      simp [RowOutcome.hasChanged, hSame]
  · rw [hOwn]
    intro made hMade
    exact (RowOutcome.of_mem_fieldEntries hMade).1
  · rw [hOwn]
    intro made hMade
    exact RowOutcome.shows_of_fieldLog hLog hMade

/- Without a log nothing is logged. -/
theorem log_of_unlogged_run
    {context : Context}
    {job : String}
    {plan : Constraint.Plan}
    {records : List (Entries Value)}
    {outcome : Outcome}
    (hRun : run context job plan false records = .ok outcome) :
    outcome.log = [] := by
  have hRows (index : Nat) (rows : List (Entries Value)) results :
      runRows context job plan false index rows = .ok results →
        results.flatMap (·.2) = [] := by
    intro hResults
    induction rows generalizing index results with
    | nil =>
        cases hResults
        rfl
    | cons first rest ih =>
        rw [runRows_cons] at hResults
        rcases Failure.exists_of_bind hResults with ⟨head, -, hTail⟩
        rcases Failure.exists_of_bind hTail with ⟨log, hLog, hLogged⟩
        rcases Failure.exists_of_bind hLogged with
          ⟨others, hOthers, hAll⟩
        cases hLog
        cases hAll
        exact ih (index + 1) others hOthers
  rcases Failure.exists_of_bind hRun with ⟨sheet, -, hRest⟩
  rcases Failure.exists_of_bind hRest with ⟨results, hResults, hEnd⟩
  cases hEnd
  exact hRows _ _ _ hResults

end Batch

end RecordRules
