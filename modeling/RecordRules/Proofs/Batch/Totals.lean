import RecordRules.Proofs.Batch.Reports
import RecordRules.Proofs.Constraint.Errors
import RecordRules.Proofs.Constraint.Fields
import RecordRules.Proofs.Record.Messages

/-
  The counts of a batch, set against its rows and its log.

  Main declarations:
    * `Constraint.messageCount_of_applyAll`, messages are about the
      fields of a plan
    * `Batch.Outcome.cells`, and `Batch.changed_eq`
    * `Batch.count_note`, the messages of a summary
    * `Batch.summary_accounts_for_rows`
-/

namespace RecordRules

open Edit

------------------------------------------------------------
-- Messages of a record
------------------------------------------------------------

/-
  Where the fields of a plan have no messages at the start, all that
  are added are those that the fields have at the end.
-/
theorem Constraint.messageCount_of_applyAll
    {context : Context}
    {plan : Constraint.Plan}
    {note : Note}
    {r s : Record}
    {verdicts : Entries Bool}
    (hNames : (plan.map (·.1)).Nodup)
    (hFresh :
      ∀ field ∈ plan.map (·.1), r.messagesAt note field = [])
    (hRun : (applyAll context plan).outcome r = (.ok verdicts, s)) :
    s.messageCount note =
      r.messageCount note +
        Numeric.total
          (plan.map fun entry => (s.messagesAt note entry.1).length) := by
  induction plan generalizing r verdicts with
  | nil =>
      cases hRun
      rfl
  | cons entry rest ih =>
      rcases entry with ⟨field, constraints⟩
      rw [List.map_cons, List.nodup_cons] at hNames
      rcases hNames with ⟨hNew, hNames⟩
      dsimp only at hNew
      rcases exists_of_outcome_bind hRun with
        ⟨verdict, t, hFirst, hTail⟩
      rcases exists_of_outcome_bind hTail with ⟨others, u, hRest, hEnd⟩
      rw [outcome_pure] at hEnd
      rcases Prod.mk.inj hEnd with ⟨-, rfl⟩
      -- the first field gets its messages, and the others get none
      have hGrown :=
        (applyEach_confined context field constraints).grownAt note r
      have hChanged :=
        (applyEach_confined context field constraints).changedAt r
      rw [hFirst] at hGrown hChanged
      have hStart : r.messagesAt note field = [] :=
        hFresh field List.mem_cons_self
      rw [Record.GrownAt, hStart, List.length_nil] at hGrown
      dsimp only at hGrown
      have hOthers :
          ∀ other ∈ rest.map (·.1), t.messagesAt note other = [] := by
        intro other hOther
        have hName : field ≠ other := by
          rintro rfl
          exact hNew hOther
        rw [(hChanged.sameAt hName).messagesAt_eq note]
        exact hFresh other (List.mem_cons_of_mem _ hOther)
      -- the rest of the plan keeps the messages of the first field
      have hKept := applyAll_sameAt context hNew t
      rw [hRest] at hKept
      have hField := hKept.messagesAt_eq note
      have hCount := ih hNames hOthers hRest
      rw [List.map_cons, Numeric.total]
      dsimp only
      rw [hField]
      omega

namespace Batch

/- The log action of a kind of messages. -/
def noteAction : Note → LogAction
  | .error => .addError
  | .info => .addInfo

/- A checked row has messages for the fields of the plan only. -/
theorem RowOutcome.total_count
    {context : Context}
    {plan : Constraint.Plan}
    {row : RowOutcome}
    (hNames : (plan.map (·.1)).Nodup)
    (hCheck : checkRow context plan row.initial = .ok row)
    (note : Note) :
    Numeric.total
        (plan.map fun entry => row.count entry.1 (noteAction note)) =
      row.record.messageCount note := by
  have hFresh :
      ∀ field ∈ plan.map (·.1),
        (Record.ofValues row.initial).messagesAt note field = [] := by
    intro field _
    cases note <;> rfl
  have hCount :=
    Constraint.messageCount_of_applyAll hNames hFresh
      (outcome_of_checkRow hCheck)
  have hStart : (Record.ofValues row.initial).messageCount note = 0 := by
    cases note <;> rfl
  rw [hCount, hStart, Nat.zero_add]
  cases note <;> rfl

------------------------------------------------------------
-- Summaries
------------------------------------------------------------

/- The fields of the plan in every row. -/
def Outcome.cells (outcome : Outcome) : List (RowOutcome × String) :=
  outcome.rows.flatMap fun row =>
    outcome.plan.map fun entry => (row, entry.1)

/- Counts over rows grow by those of each row. -/
theorem counts_foldl
    (plan : Constraint.Plan)
    (action : LogAction)
    (rows : List RowOutcome)
    (summary : Summary) :
    (rows.foldl (Summary.add plan) summary).count action =
      summary.count action +
        Numeric.total
          (rows.map fun row =>
            Numeric.total
              (plan.map fun entry => row.count entry.1 action)) := by
  induction rows generalizing summary with
  | nil => rfl
  | cons row rest ih =>
      rw [List.foldl_cons, ih, Summary.count_add, List.map_cons,
        Numeric.total, Nat.add_assoc]

/- Every row counts once, as a good one or as a bad one. -/
theorem rows_foldl
    (plan : Constraint.Plan)
    (rows : List RowOutcome)
    (summary : Summary) :
    (rows.foldl (Summary.add plan) summary).processed =
        summary.processed + rows.length ∧
      (rows.foldl (Summary.add plan) summary).good =
        summary.good + rows.countP (·.isGood) ∧
      (rows.foldl (Summary.add plan) summary).bad =
        summary.bad + rows.countP (!·.isGood) := by
  induction rows generalizing summary with
  | nil => exact ⟨rfl, rfl, rfl⟩
  | cons row rest ih =>
      rcases ih (summary.add plan row) with ⟨hProcessed, hGood, hBad⟩
      rw [List.foldl_cons, hProcessed, hGood, hBad, List.length_cons,
        List.countP_cons, List.countP_cons]
      cases hRow : row.isGood <;>
        simp only [Summary.add, hRow, Bool.toNat_true,
          Bool.toNat_false, Bool.not_false, Bool.not_true, if_true,
          Bool.false_eq_true, if_false] <;>
        omega

/- Changed fields of some rows, row by row. -/
theorem countP_changed
    (plan : Constraint.Plan)
    (rows : List RowOutcome) :
    Numeric.total
        (rows.map fun row =>
          Numeric.total
            (plan.map fun entry => row.count entry.1 .setValue)) =
      (rows.flatMap fun row => plan.map fun entry => (row, entry.1)).countP
        fun cell => cell.1.hasChanged cell.2 := by
  have hRow (row : RowOutcome) :
      Numeric.total
          (plan.map fun entry => row.count entry.1 .setValue) =
        (plan.map fun entry => (row, entry.1)).countP
          fun cell => cell.1.hasChanged cell.2 := by
    induction plan with
    | nil => rfl
    | cons entry rest ih =>
        rw [List.map_cons, Numeric.total, ih, List.map_cons,
          List.countP_cons, Nat.add_comm]
        cases hChanged : row.hasChanged entry.1 <;>
          simp [RowOutcome.count, hChanged]
  induction rows with
  | nil => rfl
  | cons row rest ih =>
      rw [List.map_cons, Numeric.total, ih, hRow, List.flatMap_cons,
        List.countP_append]

------------------------------------------------------------
-- All counts
------------------------------------------------------------

section Counts

variable
  {context : Context}
  {plan : Constraint.Plan}
  {outcome : Outcome}

/- Good rows are those with good verdicts only. -/
theorem countP_isGood
    (hChecks :
      ∀ row ∈ outcome.rows,
        checkRow context plan row.initial = .ok row) :
    outcome.rows.countP (·.isGood) =
      outcome.rows.countP fun row => row.verdicts.all (·.2) := by
  apply List.countP_congr
  intro row hRow
  rw [RowOutcome.isGood_eq (hChecks row hRow)]

/- The changes of a summary are the fields with another value. -/
theorem changed_eq (outcome : Outcome) :
    outcome.summary.changed =
      outcome.cells.countP fun cell =>
        cell.1.before cell.2 ≠ cell.1.after cell.2 := by
  have hCount := counts_foldl outcome.plan .setValue outcome.rows {}
  have hStart : Summary.count {} .setValue = 0 := rfl
  rw [countP_changed, ← Outcome.summary, hStart, Nat.zero_add] at hCount
  have hChanged :
      outcome.summary.changed = outcome.summary.count .setValue :=
    rfl
  rw [hChanged, hCount, Outcome.cells]
  apply List.countP_congr
  intro cell _
  simp [RowOutcome.hasChanged]

/- The messages of a kind in a summary are those of its records. -/
theorem count_note
    (hPlan : outcome.plan = plan)
    (hNames : (plan.map (·.1)).Nodup)
    (hChecks :
      ∀ row ∈ outcome.rows,
        checkRow context plan row.initial = .ok row)
    (note : Note) :
    outcome.summary.count (noteAction note) =
      Numeric.total
        (outcome.rows.map fun row => row.record.messageCount note) := by
  have hStart :
      Summary.count {} (noteAction note) = 0 := by
    cases note <;> rfl
  rw [Outcome.summary, counts_foldl, hStart, Nat.zero_add, hPlan]
  congr 1
  apply List.map_congr_left
  intro row hRow
  exact RowOutcome.total_count hNames (hChecks row hRow) note

end Counts

/-
  The summary of a batch accounts for everything. Every record counts
  once, as good if its verdicts all are, and else as bad. The changes
  are the fields of the plan, over all rows, whose value is another
  one at the end than in the sheet at the start. The errors and infos
  are those of all the records. And the log, if there is one, has
  one entry for every change and every message, with the row, and
  with the value before and after.
-/
theorem summary_accounts_for_rows
    {context : Context}
    {job : String}
    {plan : Constraint.Plan}
    {logging : Bool}
    {records : List (Entries Value)}
    {outcome : Outcome}
    (hNames : (plan.map (·.1)).Nodup)
    (hColumns : (∃ record ∈ records, record ≠ []) ∨ plan ≠ [])
    (hRun : run context job plan logging records = .ok outcome) :
    (outcome.plan = plan ∧
      outcome.rows.length = records.length ∧
      ∀ (i : Nat) record, records[i]? = some record →
        ∃ row, outcome.rows[i]? = some row ∧
          ∀ field,
            row.before field =
              Sheet.convert (Sheet.converts records field)
                (record.get? field)) ∧
    (outcome.summary.processed = records.length ∧
      outcome.summary.good + outcome.summary.bad = records.length ∧
      outcome.summary.good =
        outcome.rows.countP fun row => row.verdicts.all (·.2)) ∧
    (outcome.summary.changed =
        outcome.cells.countP fun cell =>
          cell.1.before cell.2 ≠ cell.1.after cell.2) ∧
    (outcome.summary.errors =
        Numeric.total
          (outcome.rows.map fun row =>
            row.record.messageCount .error) ∧
      outcome.summary.infos =
        Numeric.total
          (outcome.rows.map fun row =>
            row.record.messageCount .info)) ∧
    (logging = false → outcome.log = []) ∧
    (logging = true →
      (∀ (i : Nat) row field, outcome.rows[i]? = some row →
        field ∈ plan.map (·.1) →
          Reports outcome.log job i row field) ∧
      ∀ entry ∈ outcome.log, ∃ row,
        outcome.rows[entry.row]? = some row ∧
          entry.field ∈ plan.map (·.1)) := by
  rcases exists_sheet_of_run hRun with ⟨sheet, -, hPlan, -, hChecks⟩
  rcases exists_row_of_record hColumns hRun with ⟨hLength, hRows⟩
  rcases rows_foldl outcome.plan outcome.rows {} with
    ⟨hProcessed, hGood, hBad⟩
  rw [← Outcome.summary] at hProcessed hGood hBad
  rw [Nat.zero_add] at hProcessed hGood hBad
  refine ⟨⟨hPlan, hLength, hRows⟩, ⟨?_, ?_, ?_⟩, ?_, ⟨?_, ?_⟩, ?_, ?_⟩
  · rw [hProcessed, hLength]
  · have hAll :=
      List.length_eq_countP_add_countP (l := outcome.rows) (·.isGood)
    rw [hGood, hBad, ← hLength, hAll]
    simp
  · rw [hGood, countP_isGood hChecks]
  · exact changed_eq outcome
  · exact count_note hPlan hNames hChecks .error
  · exact count_note hPlan hNames hChecks .info
  · rintro rfl
    exact log_of_unlogged_run hRun
  · rintro rfl
    refine ⟨?_, ?_⟩
    · intro i row field hRow hField
      rcases List.mem_map.mp hField with ⟨entry, hEntry, rfl⟩
      exact reports_of_run hNames hRun hRow hEntry
    · intro entry hEntry
      rw [log_of_run hRun] at hEntry
      rcases exists_of_mem_entriesFrom hEntry with
        ⟨k, row, hRow, hIndex, hField⟩
      rw [Nat.zero_add] at hIndex
      rw [hPlan] at hField
      rw [hIndex]
      exact ⟨row, hRow, hField⟩

/-
  Of two rows one has an address that is written in small letters,
  and the other one a text that is no address. The summary counts a
  change, an info and an error, and the log holds the error.
-/
theorem summary_of_two_rows :
    ∃ (context : Context) (plan : Constraint.Plan)
        (records : List (Entries Value)) (outcome : Outcome),
      run context "job" plan true records = .ok outcome ∧
      outcome.summary = ⟨2, 1, 1, 1, 1, 1⟩ ∧
      (outcome.cells.countP fun cell =>
        cell.1.before cell.2 ≠ cell.1.after cell.2) = 1 ∧
      messagesOf .addError (entriesAt outcome.log 1 "mail") =
        [some "Please enter a valid email address"] := by
  let context : Context :=
    ⟨.midnight ⟨2024, 1, 1, by decide⟩, false, "US"⟩
  let mail : Constraint :=
    .mk .text
      { ruleType := "isEmail"
        formatOptions := some [("case", .text "lower")] }
  let plan : Constraint.Plan := [("mail", [mail])]
  let address : RowOutcome :=
    { initial := [("mail", .text "A@b.org")]
      record :=
        .linked [("mail", .text "a@b.org")] []
          [("mail", ["String has been formatted"])]
      verdicts := [("mail", true)] }
  let other : RowOutcome :=
    { initial := [("mail", .text "x")]
      record :=
        .linked [("mail", .text "x")]
          [("mail", ["Please enter a valid email address"])] []
      verdicts := [("mail", false)] }
  let outcome : Outcome :=
    { plan := plan
      rows := [address, other]
      log := entriesFrom "job" plan 0 [address, other] }
  have hRun :
      run context "job" plan true [address.initial, other.initial] =
        .ok outcome :=
    rfl
  rcases summary_accounts_for_rows (by decide) (.inr (List.cons_ne_nil _ _)) hRun with
    ⟨-, -, hChanged, -, -, hLog⟩
  have hReports :=
    (hLog rfl).1 1 other "mail" rfl (List.mem_singleton_self _)
  exact
    ⟨context, plan, [address.initial, other.initial], outcome, hRun, rfl,
      hChanged.symm, hReports.errors_eq⟩

end Batch

end RecordRules
