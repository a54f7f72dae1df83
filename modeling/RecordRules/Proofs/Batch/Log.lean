import RecordRules.Proofs.Batch.Rows

/-
  The log of a batch: what it holds, and in which order.

  Main declarations:
    * `Batch.Outcome.entries`, all that a batch has to log
    * `Batch.log_of_run`, the log is just that
    * `Batch.Outcome.entries_pairwise`, the rows in order
    * `Batch.Outcome.countP_entries`, entries of each kind as the
      summary counts them
-/

namespace RecordRules

namespace Batch

------------------------------------------------------------
-- What there is to log
------------------------------------------------------------

/- A value as a log shows it, nothing where it has no text. -/
def shownText (v : Value) : Option String :=
  match logText v with
  | .ok text => text
  | .error _ => none

namespace RowOutcome

/-
  The entries about a field of a row: the change of its value, then
  its errors, then its infos.
-/
def fieldEntries
    (outcome : RowOutcome)
    (job : String)
    (row : Nat)
    (field : String)
    (constraints : List Constraint) : List LogEntry :=
  (outcome.events field).map fun (action, message) => {
    job := job
    row := row
    field := field
    action := action
    before := shownText (outcome.before field)
    after := shownText (outcome.after field)
    message := message
    validators := validatorNames constraints }

/- The entries about a row, in the order of the fields of a plan. -/
def entries
    (outcome : RowOutcome)
    (job : String)
    (plan : Constraint.Plan)
    (row : Nat) : List LogEntry :=
  plan.flatMap fun entry =>
    outcome.fieldEntries job row entry.1 entry.2

end RowOutcome

/- The entries about rows that are numbered from an index on. -/
def entriesFrom
    (job : String)
    (plan : Constraint.Plan)
    (index : Nat)
    (rows : List RowOutcome) : List LogEntry :=
  (rows.zipIdx index).flatMap fun (row, i) => row.entries job plan i

/- The entries about a batch, in the order of its rows. -/
def Outcome.entries
    (outcome : Outcome)
    (job : String) : List LogEntry :=
  entriesFrom job outcome.plan 0 outcome.rows

theorem entriesFrom_cons
    (job : String)
    (plan : Constraint.Plan)
    (index : Nat)
    (row : RowOutcome)
    (rest : List RowOutcome) :
    entriesFrom job plan index (row :: rest) =
      row.entries job plan index ++
        entriesFrom job plan (index + 1) rest := by
  unfold entriesFrom
  rw [List.zipIdx_cons, List.flatMap_cons]

------------------------------------------------------------
-- What is logged
------------------------------------------------------------

/- The log of a field holds its entries and no others. -/
theorem RowOutcome.eq_of_fieldLog
    {outcome : RowOutcome}
    {job field : String}
    {row : Nat}
    {constraints : List Constraint}
    {log : List LogEntry}
    (hLog : outcome.fieldLog job row field constraints = .ok log) :
    log = outcome.fieldEntries job row field constraints := by
  apply Failure.map_of_mapM _ hLog
  intro (action, message) entry hEntry
  rcases Failure.exists_of_bind hEntry with ⟨before, hBefore, hRest⟩
  rcases Failure.exists_of_bind hRest with ⟨after, hAfter, hMade⟩
  cases hMade
  rw [shownText, hBefore, shownText, hAfter]

/- The log of a row holds its entries and no others. -/
theorem RowOutcome.eq_of_rowLog
    {outcome : RowOutcome}
    {job : String}
    {row : Nat}
    {plan : Constraint.Plan}
    {log : List LogEntry}
    (hLog : outcome.rowLog job row plan = .ok log) :
    log = outcome.entries job plan row := by
  rcases Failure.exists_of_bind hLog with ⟨parts, hParts, hJoined⟩
  cases hJoined
  have hEach :
      parts =
        plan.map fun entry =>
          outcome.fieldEntries job row entry.1 entry.2 := by
    apply Failure.map_of_mapM _ hParts
    intro entry log hField
    exact eq_of_fieldLog hField
  rw [hEach, entries, List.flatMap_def]

/- The logs of rows hold their entries and no others. -/
theorem eq_of_runRows
    {context : Context}
    {job : String}
    {plan : Constraint.Plan}
    {index : Nat}
    {rows : List (Entries Value)}
    {results : List (RowOutcome × List LogEntry)}
    (hRun : runRows context job plan true index rows = .ok results) :
    results.flatMap (·.2) =
      entriesFrom job plan index (results.map (·.1)) := by
  induction rows generalizing index results with
  | nil =>
      cases hRun
      rfl
  | cons row rest ih =>
      rw [runRows_cons] at hRun
      rcases Failure.exists_of_bind hRun with ⟨outcome, -, hTail⟩
      rcases Failure.exists_of_bind hTail with ⟨log, hLog, hLogged⟩
      rcases Failure.exists_of_bind hLogged with ⟨others, hOthers, hAll⟩
      cases hAll
      rw [List.flatMap_cons, List.map_cons, entriesFrom_cons,
        ih hOthers, RowOutcome.eq_of_rowLog hLog]

/- The log of a batch holds its entries and no others. -/
theorem log_of_run
    {context : Context}
    {job : String}
    {plan : Constraint.Plan}
    {records : List (Entries Value)}
    {outcome : Outcome}
    (hRun : run context job plan true records = .ok outcome) :
    outcome.log = outcome.entries job := by
  rcases Failure.exists_of_bind hRun with ⟨sheet, -, hRest⟩
  rcases Failure.exists_of_bind hRest with ⟨results, hResults, hEnd⟩
  cases hEnd
  exact eq_of_runRows hResults

------------------------------------------------------------
-- The order of entries
------------------------------------------------------------

theorem RowOutcome.of_mem_entries
    {outcome : RowOutcome}
    {job : String}
    {plan : Constraint.Plan}
    {row : Nat}
    {entry : LogEntry}
    (hEntry : entry ∈ outcome.entries job plan row) :
    entry.job = job ∧ entry.row = row := by
  rcases List.mem_flatMap.mp hEntry with ⟨field, -, hField⟩
  rcases List.mem_map.mp hField with ⟨event, -, rfl⟩
  exact ⟨rfl, rfl⟩

theorem of_mem_entriesFrom
    {job : String}
    {plan : Constraint.Plan}
    {index : Nat}
    {rows : List RowOutcome}
    {entry : LogEntry}
    (hEntry : entry ∈ entriesFrom job plan index rows) :
    entry.job = job ∧ index ≤ entry.row := by
  induction rows generalizing index with
  | nil => cases hEntry
  | cons row rest ih =>
      rw [entriesFrom_cons, List.mem_append] at hEntry
      rcases hEntry with hHere | hLater
      · rcases RowOutcome.of_mem_entries hHere with ⟨hJob, hRow⟩
        exact ⟨hJob, Nat.le_of_eq hRow.symm⟩
      · rcases ih hLater with ⟨hJob, hRow⟩
        exact ⟨hJob, Nat.le_of_succ_le hRow⟩

/- All entries about a batch carry its name. -/
theorem Outcome.job_of_mem_entries
    {outcome : Outcome}
    {job : String}
    {entry : LogEntry}
    (hEntry : entry ∈ outcome.entries job) :
    entry.job = job :=
  (of_mem_entriesFrom hEntry).1

theorem entriesFrom_pairwise
    (job : String)
    (plan : Constraint.Plan)
    (index : Nat)
    (rows : List RowOutcome) :
    (entriesFrom job plan index rows).Pairwise
      fun first second => first.row ≤ second.row := by
  induction rows generalizing index with
  | nil => exact .nil
  | cons row rest ih =>
      rw [entriesFrom_cons, List.pairwise_append]
      refine ⟨?_, ih (index + 1), ?_⟩
      · apply List.pairwise_iff_forall_sublist.mpr
        intro first second hBoth
        have hFirst := hBoth.subset List.mem_cons_self
        have hSecond :=
          hBoth.subset (List.mem_cons_of_mem first List.mem_cons_self)
        have hFirstRow := (RowOutcome.of_mem_entries hFirst).2
        have hSecondRow := (RowOutcome.of_mem_entries hSecond).2
        exact Nat.le_of_eq (hFirstRow.trans hSecondRow.symm)
      · intro first hFirst second hSecond
        rw [(RowOutcome.of_mem_entries hFirst).2]
        exact Nat.le_of_succ_le (of_mem_entriesFrom hSecond).2

/- The entries about a batch are in the order of its rows. -/
theorem Outcome.entries_pairwise
    (outcome : Outcome)
    (job : String) :
    (outcome.entries job).Pairwise
      fun first second => first.row ≤ second.row :=
  entriesFrom_pairwise job outcome.plan 0 outcome.rows

------------------------------------------------------------
-- The numbers of entries
------------------------------------------------------------

/- How many entries of a kind there are to be about a field. -/
def RowOutcome.count
    (outcome : RowOutcome)
    (field : String) : LogAction → Nat
  | .setValue => (outcome.hasChanged field).toNat
  | .addError => (outcome.errors field).length
  | .addInfo => (outcome.infos field).length

/- The count of a summary for a kind of entries. -/
def Summary.count (summary : Summary) : LogAction → Nat
  | .setValue => summary.changed
  | .addError => summary.errors
  | .addInfo => summary.infos

theorem Summary.count_add
    (plan : Constraint.Plan)
    (summary : Summary)
    (outcome : RowOutcome)
    (action : LogAction) :
    (summary.add plan outcome).count action =
      summary.count action +
        Numeric.total
          (plan.map fun entry => outcome.count entry.1 action) := by
  cases action <;> rfl

theorem RowOutcome.countP_fieldEntries
    (outcome : RowOutcome)
    (job : String)
    (row : Nat)
    (field : String)
    (constraints : List Constraint)
    (action : LogAction) :
    (outcome.fieldEntries job row field constraints).countP
        (·.action = action) =
      outcome.count field action := by
  unfold fieldEntries events
  rw [List.countP_map, List.countP_append, List.countP_append]
  cases action <;> cases hChanged : outcome.hasChanged field <;>
    simp [count, hChanged, List.countP_map, Function.comp_def]

theorem RowOutcome.countP_entries
    (outcome : RowOutcome)
    (job : String)
    (plan : Constraint.Plan)
    (row : Nat)
    (action : LogAction) :
    (outcome.entries job plan row).countP (·.action = action) =
      Numeric.total
        (plan.map fun entry => outcome.count entry.1 action) := by
  induction plan with
  | nil => rfl
  | cons entry rest ih =>
      unfold entries at ih ⊢
      rw [List.flatMap_cons, List.countP_append, countP_fieldEntries,
        ih, List.map_cons, Numeric.total]

/- Counts over rows grow by the entries about them. -/
theorem count_foldl
    (job : String)
    (plan : Constraint.Plan)
    (action : LogAction)
    (index : Nat)
    (rows : List RowOutcome)
    (summary : Summary) :
    (rows.foldl (Summary.add plan) summary).count action =
      summary.count action +
        (entriesFrom job plan index rows).countP
          (·.action = action) := by
  induction rows generalizing index summary with
  | nil => rfl
  | cons row rest ih =>
      rw [List.foldl_cons, ih (index + 1), Summary.count_add,
        entriesFrom_cons, List.countP_append,
        RowOutcome.countP_entries, Nat.add_assoc]

/- There are as many entries of a kind as the summary counts. -/
theorem Outcome.countP_entries
    (outcome : Outcome)
    (job : String)
    (action : LogAction) :
    (outcome.entries job).countP (·.action = action) =
      outcome.summary.count action := by
  unfold entries summary
  rw [count_foldl job outcome.plan action 0]
  cases action <;> exact (Nat.zero_add _).symm

/- Every entry is of one of the three kinds. -/
theorem length_eq_countP (log : List LogEntry) :
    log.length =
      log.countP (·.action = .setValue) +
        log.countP (·.action = .addError) +
        log.countP (·.action = .addInfo) := by
  induction log with
  | nil => rfl
  | cons entry rest ih =>
      rcases hAction : entry.action <;>
      · simp only [List.length_cons, List.countP_cons, hAction, ih]
        simp +arith

/- A batch logs as many entries as its summary counts together. -/
theorem Outcome.length_entries
    (outcome : Outcome)
    (job : String) :
    (outcome.entries job).length =
      outcome.summary.changed + outcome.summary.errors +
        outcome.summary.infos := by
  rw [length_eq_countP, countP_entries, countP_entries,
    countP_entries]
  rfl

end Batch

end RecordRules
