import RecordRules.Batch
import RecordRules.Proofs.Edit.Outcome
import RecordRules.Proofs.Sheet.Cells

/-
  The rows of a batch, one by one.

  Main declarations:
    * `Batch.exists_of_runRows` and `Batch.exists_runRows`
    * `Batch.RowOutcome.exists_rowLog`, when a log can be written
    * `Batch.RowOutcome.getD_shownRow`, the sheet at the end
    * `Batch.run_eq`, and `Batch.exists_of_run`
    * `Batch.exists_sheet_of_run` and `Batch.exists_row_of_record`,
      what the rows of a run start from
-/

namespace RecordRules

namespace Batch

------------------------------------------------------------
-- Results in order
------------------------------------------------------------

theorem exists_mapM
    {α β : Type}
    {f : α → Except Failure β}
    {items : List α}
    (hItems : ∀ a ∈ items, ∃ b, f a = .ok b) :
    ∃ results, items.mapM f = .ok results := by
  induction items with
  | nil => exact ⟨[], rfl⟩
  | cons a items ih =>
      rcases hItems a List.mem_cons_self with ⟨b, hFirst⟩
      rcases ih fun other hOther =>
          hItems other (List.mem_cons_of_mem _ hOther) with
        ⟨results, hRest⟩
      refine ⟨b :: results, ?_⟩
      rw [List.mapM_cons, hFirst, hRest]
      rfl

------------------------------------------------------------
-- Checked rows
------------------------------------------------------------

theorem checkRow_eq
    (context : Context)
    (plan : Constraint.Plan)
    (row : Entries Value) :
    checkRow context plan row =
      match (Constraint.applyAll context plan).outcome
        (.ofValues row) with
      | (.ok verdicts, r) => .ok ⟨row, r, verdicts⟩
      | (.error failure, _) => .error failure :=
  rfl

theorem outcome_of_checkRow
    {context : Context}
    {plan : Constraint.Plan}
    {row : Entries Value}
    {outcome : RowOutcome}
    (hCheck : checkRow context plan row = .ok outcome) :
    (Constraint.applyAll context plan).outcome (.ofValues row) =
      (.ok outcome.verdicts, outcome.record) := by
  rw [checkRow_eq] at hCheck
  split at hCheck
  · rename_i verdicts record hRun
    cases hCheck
    exact hRun
  · cases hCheck

theorem checkRow_of_outcome
    {context : Context}
    {plan : Constraint.Plan}
    {row : Entries Value}
    {verdicts : Entries Bool}
    {r : Record}
    (hRun :
      (Constraint.applyAll context plan).outcome (.ofValues row) =
        (.ok verdicts, r)) :
    checkRow context plan row = .ok ⟨row, r, verdicts⟩ := by
  rw [checkRow_eq, hRun]

/- The first row of some, its log, and then the others. -/
theorem runRows_cons
    (context : Context)
    (job : String)
    (plan : Constraint.Plan)
    (logging : Bool)
    (index : Nat)
    (row : Entries Value)
    (rest : List (Entries Value)) :
    runRows context job plan logging index (row :: rest) =
      (do
        let outcome ← checkRow context plan row
        let log ←
          (if logging then outcome.rowLog job index plan else .ok [])
        let others ← runRows context job plan logging (index + 1) rest
        return (outcome, log) :: others) := by
  rw [runRows]
  cases logging <;> rfl

/- Each row of a run is checked on its own. -/
theorem exists_of_runRows
    {context : Context}
    {job : String}
    {plan : Constraint.Plan}
    {logging : Bool}
    {index : Nat}
    {rows : List (Entries Value)}
    {results : List (RowOutcome × List LogEntry)}
    (hRun : runRows context job plan logging index rows = .ok results)
    {i : Nat}
    {row : Entries Value}
    (hRow : rows[i]? = some row) :
    ∃ outcome, (results.map (·.1))[i]? = some outcome ∧
      checkRow context plan row = .ok outcome := by
  induction rows generalizing index results i with
  | nil => cases hRow
  | cons first rest ih =>
      rw [runRows_cons] at hRun
      rcases Failure.exists_of_bind hRun with ⟨head, hHead, hTail⟩
      rcases Failure.exists_of_bind hTail with ⟨log, _, hLogged⟩
      rcases Failure.exists_of_bind hLogged with ⟨others, hOthers, hAll⟩
      cases hAll
      cases i with
      | zero =>
          cases hRow
          exact ⟨head, rfl, hHead⟩
      | succ i => exact ih hOthers hRow

/- What a row starts from is what was checked. -/
theorem initial_of_checkRow
    {context : Context}
    {plan : Constraint.Plan}
    {row : Entries Value}
    {outcome : RowOutcome}
    (hCheck : checkRow context plan row = .ok outcome) :
    outcome.initial = row := by
  rw [checkRow_eq] at hCheck
  split at hCheck
  · cases hCheck
    rfl
  · cases hCheck

/- A run takes its rows in order, and each as it is at the start. -/
theorem rows_of_runRows
    {context : Context}
    {job : String}
    {plan : Constraint.Plan}
    {logging : Bool}
    {index : Nat}
    {rows : List (Entries Value)}
    {results : List (RowOutcome × List LogEntry)}
    (hRun : runRows context job plan logging index rows = .ok results) :
    (results.map (·.1)).map (·.initial) = rows ∧
      ∀ row ∈ results.map (·.1),
        checkRow context plan row.initial = .ok row := by
  induction rows generalizing index results with
  | nil =>
      cases hRun
      exact ⟨rfl, nofun⟩
  | cons first rest ih =>
      rw [runRows_cons] at hRun
      rcases Failure.exists_of_bind hRun with ⟨head, hHead, hTail⟩
      rcases Failure.exists_of_bind hTail with ⟨log, -, hLogged⟩
      rcases Failure.exists_of_bind hLogged with ⟨others, hOthers, hAll⟩
      cases hAll
      rcases ih hOthers with ⟨hStarts, hChecks⟩
      have hStart := initial_of_checkRow hHead
      refine ⟨?_, ?_⟩
      · rw [List.map_cons, List.map_cons, hStarts, hStart]
      · intro row hRow
        rcases List.mem_cons.mp hRow with rfl | hLater
        · rw [hStart]
          exact hHead
        · exact hChecks row hLater

/-
  A run gives a result where every row can be checked and every
  entry of the log can be written.
-/
theorem exists_runRows
    {context : Context}
    {job : String}
    {plan : Constraint.Plan}
    (logging : Bool)
    (index : Nat)
    {rows : List (Entries Value)}
    (hRows :
      ∀ row ∈ rows, ∃ outcome,
        checkRow context plan row = .ok outcome ∧
          ∀ index, ∃ log, outcome.rowLog job index plan = .ok log) :
    ∃ results,
      runRows context job plan logging index rows = .ok results := by
  induction rows generalizing index with
  | nil => exact ⟨[], rfl⟩
  | cons row rest ih =>
      rcases hRows row List.mem_cons_self with ⟨outcome, hCheck, hLog⟩
      rcases hLog index with ⟨log, hLog⟩
      rcases ih (index + 1) fun other hOther =>
          hRows other (List.mem_cons_of_mem _ hOther) with
        ⟨others, hOthers⟩
      rw [runRows_cons, hCheck, hOthers]
      cases logging with
      | false => exact ⟨_, rfl⟩
      | true =>
          refine ⟨(outcome, log) :: others, ?_⟩
          simp only [if_true, bind, Except.bind, hLog]
          rfl

------------------------------------------------------------
-- The log of a row
------------------------------------------------------------

theorem exists_logText
    {v : Value}
    {text : List Char}
    (hText : v.print = .ok text) :
    ∃ shown, logText v = .ok shown := by
  by_cases hNull : v = .null
  · rw [hNull]
    exact ⟨none, rfl⟩
  · refine ⟨some (String.ofList (text.take longestText)), ?_⟩
    rw [logText, hText]
    · rfl
    · exact hNull

/- The log of a row whose values have texts. -/
theorem RowOutcome.exists_rowLog
    {row : RowOutcome}
    {plan : Constraint.Plan}
    (hTexts :
      ∀ entry ∈ plan,
        (∃ text, (row.before entry.1).print = .ok text) ∧
          ∃ text, (row.after entry.1).print = .ok text)
    (job : String)
    (index : Nat) :
    ∃ log, row.rowLog job index plan = .ok log := by
  have hParts :
      ∃ parts,
        plan.mapM (fun entry =>
            row.fieldLog job index entry.1 entry.2) =
          .ok parts := by
    apply exists_mapM
    intro entry hEntry
    rcases hTexts entry hEntry with ⟨⟨_, hBefore⟩, ⟨_, hAfter⟩⟩
    rcases exists_logText hBefore with ⟨before, hBefore⟩
    rcases exists_logText hAfter with ⟨after, hAfter⟩
    apply exists_mapM
    intro event hEvent
    simp only [hBefore, hAfter]
    exact ⟨_, rfl⟩
  rcases hParts with ⟨parts, hParts⟩
  have hLog :
      row.rowLog job index plan =
        (do
          let parts ← plan.mapM fun entry =>
            row.fieldLog job index entry.1 entry.2
          return parts.flatten) :=
    rfl
  refine ⟨parts.flatten, ?_⟩
  rw [hLog, hParts]
  rfl

------------------------------------------------------------
-- Rows in the sheet at the end
------------------------------------------------------------

/-
  Over the entries of a plan a field takes its value at the end from
  the first entry for it, or has it from the start.
-/
theorem getD_foldl_put
    (row : RowOutcome)
    (field : String)
    (plan : Constraint.Plan)
    (cells : Entries Value)
    (hField :
      (cells.get? field).getD .null = row.after field ∨
        field ∈ plan.map (·.1) ∧ row.hasChanged field = true) :
    ((plan.foldl
        (fun cells entry =>
          if row.hasChanged entry.1 then
            Entries.put cells entry.1 (row.after entry.1)
          else
            cells)
        cells).get? field).getD .null =
      row.after field := by
  induction plan generalizing cells with
  | nil =>
      rcases hField with hHere | ⟨hNone, _⟩
      · exact hHere
      · cases hNone
  | cons entry plan ih =>
      rw [List.foldl_cons]
      apply ih
      by_cases hName : entry.1 = field
      · subst hName
        split
        · refine .inl ?_
          rw [Entries.get?_put_self]
          rfl
        · rename_i hChanged
          rcases hField with hHere | ⟨_, hOther⟩
          · exact .inl hHere
          · exact absurd hOther hChanged
      · have hKept :
            (Entries.put cells entry.1 (row.after entry.1)).get?
                field =
              cells.get? field :=
          Entries.get?_put_of_ne cells hName _
        rcases hField with hHere | ⟨hMember, hChanged⟩
        · refine .inl ?_
          split
          · rw [hKept]
            exact hHere
          · exact hHere
        · refine .inr ⟨?_, hChanged⟩
          rcases List.mem_cons.mp hMember with hEq | hRest
          · exact absurd hEq.symm hName
          · exact hRest

/- The sheet at the end shows the values of the record. -/
theorem RowOutcome.getD_shownRow
    (row : RowOutcome)
    {plan : Constraint.Plan}
    {entry : String × List Constraint}
    (hEntry : entry ∈ plan) :
    ((row.shownRow plan).get? entry.1).getD .null =
      row.after entry.1 := by
  apply getD_foldl_put
  cases hChanged : row.hasChanged entry.1 with
  | true => exact .inr ⟨List.mem_map_of_mem hEntry, rfl⟩
  | false =>
      refine .inl ?_
      simpa [hasChanged, before] using hChanged

------------------------------------------------------------
-- Runs
------------------------------------------------------------

/-
  The rows of a run start from those of the sheet with columns for
  all fields of the plan, and each is the result of its own check.
-/
theorem exists_sheet_of_run
    {context : Context}
    {job : String}
    {plan : Constraint.Plan}
    {logging : Bool}
    {records : List (Entries Value)}
    {outcome : Outcome}
    (hRun : run context job plan logging records = .ok outcome) :
    ∃ sheet, Sheet.ofRecords records = .ok sheet ∧
      outcome.plan = plan ∧
      outcome.rows.map (·.initial) =
        (sheet.withColumns (plan.map (·.1))).rowsShown ∧
      ∀ row ∈ outcome.rows,
        checkRow context plan row.initial = .ok row := by
  rcases Failure.exists_of_bind hRun with ⟨sheet, hSheet, hRest⟩
  rcases Failure.exists_of_bind hRest with ⟨results, hResults, hEnd⟩
  cases hEnd
  exact ⟨sheet, hSheet, rfl, rows_of_runRows hResults⟩

/- With a column, of a record or of the plan, all rows are there. -/
theorem rowsShown_of_columns
    {plan : Constraint.Plan}
    {records : List (Entries Value)}
    {sheet : Sheet}
    (hSheet : Sheet.ofRecords records = .ok sheet)
    (hColumns : (∃ record ∈ records, record ≠ []) ∨ plan ≠ []) :
    (sheet.withColumns (plan.map (·.1))).rowsShown =
      (sheet.withColumns (plan.map (·.1))).rows := by
  rcases hColumns with ⟨record, hRecord, hSome⟩ | hPlan
  · exact Sheet.rowsShown_of_record hSheet hRecord hSome _
  · exact Sheet.rowsShown_withColumns sheet (by simpa using hPlan)

/-
  A run has a row for every record, unless there are no columns. It
  starts from the converted cells of the record.
-/
theorem exists_row_of_record
    {context : Context}
    {job : String}
    {plan : Constraint.Plan}
    {logging : Bool}
    {records : List (Entries Value)}
    {outcome : Outcome}
    (hColumns : (∃ record ∈ records, record ≠ []) ∨ plan ≠ [])
    (hRun : run context job plan logging records = .ok outcome) :
    outcome.rows.length = records.length ∧
      ∀ (i : Nat) record, records[i]? = some record →
        ∃ row, outcome.rows[i]? = some row ∧
          ∀ field,
            row.before field =
              Sheet.convert (Sheet.converts records field)
                (record.get? field) := by
  rcases exists_sheet_of_run hRun with
    ⟨sheet, hSheet, -, hStarts, -⟩
  rw [rowsShown_of_columns hSheet hColumns] at hStarts
  constructor
  · rw [← Sheet.length_rows hSheet (plan.map (·.1)), ← hStarts,
      List.length_map]
  · intro i record hRecord
    rcases Sheet.exists_row hSheet hRecord (plan.map (·.1)) with
      ⟨cells, hCells, hValues⟩
    rw [← hStarts, List.getElem?_map, Option.map_eq_some_iff] at hCells
    rcases hCells with ⟨row, hRow, rfl⟩
    exact ⟨row, hRow, hValues⟩

/- With a plan the rows of a run are those of the whole sheet. -/
theorem run_eq
    (context : Context)
    (job : String)
    {plan : Constraint.Plan}
    (logging : Bool)
    {records : List (Entries Value)}
    {sheet : Sheet}
    (hSheet : Sheet.ofRecords records = .ok sheet)
    (hPlan : plan ≠ []) :
    run context job plan logging records =
      (do
        let rows ←
          runRows context job plan logging 0
            (sheet.withColumns (plan.map (·.1))).rows
        return {
          plan := plan
          rows := rows.map (·.1)
          log := rows.flatMap (·.2) }) := by
  have hNames : plan.map (·.1) ≠ [] := by simpa using hPlan
  rw [run, hSheet, ← Sheet.rowsShown_withColumns sheet hNames]
  rfl

/- A row of a run, and the cells that it starts from. -/
theorem exists_of_run
    {context : Context}
    {job : String}
    {plan : Constraint.Plan}
    {logging : Bool}
    {records : List (Entries Value)}
    {sheet : Sheet}
    {outcome : Outcome}
    (hSheet : Sheet.ofRecords records = .ok sheet)
    (hPlan : plan ≠ [])
    (hRun : run context job plan logging records = .ok outcome)
    {i : Nat}
    {record : Entries Value}
    (hRecord : records[i]? = some record) :
    ∃ cells row, outcome.rows[i]? = some row ∧
      checkRow context plan cells = .ok row ∧
      ∀ field,
        (cells.get? field).getD .null =
          Sheet.convert (Sheet.converts records field)
            (record.get? field) := by
  rw [run_eq context job logging hSheet hPlan] at hRun
  rcases Failure.exists_of_bind hRun with ⟨results, hResults, hOutcome⟩
  cases hOutcome
  rcases Sheet.exists_row hSheet hRecord (plan.map (·.1)) with
    ⟨cells, hCells, hValues⟩
  rcases exists_of_runRows hResults hCells with ⟨row, hRow, hCheck⟩
  exact ⟨cells, row, hRow, hCheck, hValues⟩

end Batch

end RecordRules
