import RecordRules.Proofs.Batch.Agreement
import RecordRules.Proofs.Batch.Log
import RecordRules.Proofs.Sheet.Written

/-
  The sheet of a batch at the end, written cell by cell while the
  rows are checked.

  Main declarations:
    * `Batch.writeRows`, the sheet after checked rows
    * `Batch.checkInPlace`, rows that are read from the sheet only
      when it is their turn
    * `Batch.frame_eq` and `Batch.checkInPlace_eq`
    * `Batch.sheet_agrees_with_records`
-/

namespace RecordRules

namespace Batch

------------------------------------------------------------
-- Writing rows
------------------------------------------------------------

namespace RowOutcome

/- Cells in which the changed fields have their values at the end. -/
def rewritten
    (row : RowOutcome)
    (plan : Constraint.Plan)
    (cells : Entries Value) : Entries Value :=
  plan.foldl
    (fun cells entry =>
      if row.hasChanged entry.1 then
        Entries.put cells entry.1 (row.after entry.1)
      else
        cells)
    cells

/-
  The sheet after a row: the changed fields of the plan are written,
  one after the other, and all others are left.
-/
def writeTo
    (row : RowOutcome)
    (plan : Constraint.Plan)
    (i : Nat)
    (sheet : Sheet) : Sheet :=
  plan.foldl
    (fun sheet entry =>
      if row.hasChanged entry.1 then
        sheet.write i entry.1 (row.after entry.1)
      else
        sheet)
    sheet

variable (row : RowOutcome) (plan : Constraint.Plan) (i : Nat)

theorem writeTo_cons
    (entry : String × List Constraint)
    (rest : Constraint.Plan)
    (sheet : Sheet) :
    row.writeTo (entry :: rest) i sheet =
      row.writeTo rest i
        (if row.hasChanged entry.1 then
          sheet.write i entry.1 (row.after entry.1)
        else
          sheet) :=
  List.foldl_cons ..

theorem columns_writeTo (sheet : Sheet) :
    (row.writeTo plan i sheet).columns = sheet.columns := by
  induction plan generalizing sheet with
  | nil => rfl
  | cons entry rest ih =>
      rw [writeTo_cons, ih]
      split <;> rfl

theorem length_writeTo (sheet : Sheet) :
    (row.writeTo plan i sheet).rows.length = sheet.rows.length := by
  induction plan generalizing sheet with
  | nil => rfl
  | cons entry rest ih =>
      rw [writeTo_cons, ih]
      split
      · exact Sheet.length_write ..
      · rfl

/- A row is written in its own place and in no other. -/
theorem getElem?_writeTo
    (j : Nat)
    (sheet : Sheet) :
    (row.writeTo plan i sheet).rows[j]? =
      (sheet.rows[j]?).map fun cells =>
        if i = j then row.rewritten plan cells else cells := by
  induction plan generalizing sheet with
  | nil => simp [writeTo, rewritten]
  | cons entry rest ih =>
      rw [writeTo_cons, ih]
      by_cases hChanged : row.hasChanged entry.1 = true
      · rw [if_pos hChanged, Sheet.getElem?_write, Option.map_map]
        by_cases hPlace : i = j <;>
          simp [hPlace, Function.comp_def, rewritten, hChanged]
      · rw [if_neg hChanged]
        by_cases hPlace : i = j <;>
          simp [hPlace, rewritten, hChanged]

theorem isRectangular_writeTo
    {sheet : Sheet}
    (hShape : sheet.IsRectangular)
    (hColumns : ∀ entry ∈ plan, entry.1 ∈ sheet.columns) :
    (row.writeTo plan i sheet).IsRectangular := by
  induction plan generalizing sheet with
  | nil => exact hShape
  | cons entry rest ih =>
      have hFirst := hColumns entry List.mem_cons_self
      have hRest : ∀ other ∈ rest, other.1 ∈ sheet.columns :=
        fun other hOther =>
          hColumns other (List.mem_cons_of_mem entry hOther)
      rw [writeTo_cons]
      split
      · exact ih (hShape.write hFirst i _) hRest
      · exact ih hShape hRest

/- Fields that a plan does not name are not rewritten. -/
theorem get?_rewritten_of_not_mem
    {plan : Constraint.Plan}
    {field : String}
    (hField : field ∉ plan.map (·.1))
    (cells : Entries Value) :
    (row.rewritten plan cells).get? field = cells.get? field := by
  induction plan generalizing cells with
  | nil => rfl
  | cons entry rest ih =>
      rw [List.map_cons, List.mem_cons, not_or] at hField
      have hSplit :
          row.rewritten (entry :: rest) cells =
            row.rewritten rest
              (if row.hasChanged entry.1 then
                Entries.put cells entry.1 (row.after entry.1)
              else
                cells) :=
        List.foldl_cons ..
      rw [hSplit, ih hField.2]
      split
      · exact Entries.get?_put_of_ne cells (Ne.symm hField.1) _
      · rfl

end RowOutcome

/- The sheet after rows from an index on, one after the other. -/
def writeRows
    (plan : Constraint.Plan) :
    Nat → List RowOutcome → Sheet → Sheet
  | _, [], sheet => sheet
  | i, row :: rest, sheet =>
    writeRows plan (i + 1) rest (row.writeTo plan i sheet)

section Rows

variable (plan : Constraint.Plan)

theorem columns_writeRows
    (i : Nat)
    (rows : List RowOutcome)
    (sheet : Sheet) :
    (writeRows plan i rows sheet).columns = sheet.columns := by
  induction rows generalizing i sheet with
  | nil => rfl
  | cons row rest ih => rw [writeRows, ih, row.columns_writeTo]

theorem length_writeRows
    (i : Nat)
    (rows : List RowOutcome)
    (sheet : Sheet) :
    (writeRows plan i rows sheet).rows.length = sheet.rows.length := by
  induction rows generalizing i sheet with
  | nil => rfl
  | cons row rest ih => rw [writeRows, ih, row.length_writeTo]

theorem isRectangular_writeRows
    {plan : Constraint.Plan}
    (i : Nat)
    (rows : List RowOutcome)
    {sheet : Sheet}
    (hShape : sheet.IsRectangular)
    (hColumns : ∀ entry ∈ plan, entry.1 ∈ sheet.columns) :
    (writeRows plan i rows sheet).IsRectangular := by
  induction rows generalizing i sheet with
  | nil => exact hShape
  | cons row rest ih =>
      apply ih (i + 1) (row.isRectangular_writeTo plan i hShape hColumns)
      rw [row.columns_writeTo]
      exact hColumns

/- Rows in front of those that are written stay as they are. -/
theorem getElem?_writeRows_of_lt
    {i j : Nat}
    (hBefore : j < i)
    (rows : List RowOutcome)
    (sheet : Sheet) :
    (writeRows plan i rows sheet).rows[j]? = sheet.rows[j]? := by
  induction rows generalizing i sheet with
  | nil => rfl
  | cons row rest ih =>
      rw [writeRows, ih (Nat.lt_succ_of_lt hBefore),
        row.getElem?_writeTo]
      simp [Nat.ne_of_gt hBefore]

/- Each row that is written is rewritten in its own place. -/
theorem getElem?_writeRows
    {i k : Nat}
    {rows : List RowOutcome}
    {row : RowOutcome}
    (hRow : rows[k]? = some row)
    (sheet : Sheet) :
    (writeRows plan i rows sheet).rows[i + k]? =
      (sheet.rows[i + k]?).map (row.rewritten plan) := by
  induction rows generalizing i k sheet with
  | nil => cases hRow
  | cons first rest ih =>
      rw [writeRows]
      cases k with
      | zero =>
          cases hRow
          have hKept :=
            getElem?_writeRows_of_lt plan (Nat.lt_add_one i) rest
              (row.writeTo plan i sheet)
          simp only [Nat.add_zero]
          rw [hKept, row.getElem?_writeTo]
          simp
      | succ k =>
          have hPlace : i + (k + 1) = i + 1 + k := by omega
          have hOther : i ≠ i + 1 + k := by omega
          rw [hPlace, ih hRow, first.getElem?_writeTo]
          simp [hOther]

end Rows

------------------------------------------------------------
-- The sheet at the end
------------------------------------------------------------

/-
  The sheet of a batch at the end is the one at the start in which
  the changes of each row have been written.
-/
theorem frame_eq
    {outcome : Outcome}
    {sheet : Sheet}
    (hStarts : outcome.rows.map (·.initial) = sheet.rows) :
    outcome.frame = (writeRows outcome.plan 0 outcome.rows sheet).rows := by
  apply List.ext_getElem?
  intro k
  cases hRow : outcome.rows[k]? with
  | none =>
      have hShort : sheet.rows.length ≤ k := by
        rw [← hStarts, List.length_map]
        exact List.getElem?_eq_none_iff.mp hRow
      have hNone :
          (writeRows outcome.plan 0 outcome.rows sheet).rows[k]? =
            none := by
        rw [List.getElem?_eq_none_iff, length_writeRows]
        exact hShort
      rw [Outcome.frame, List.getElem?_map, hRow, hNone]
      rfl
  | some row =>
      have hWritten :=
        getElem?_writeRows (i := 0) outcome.plan hRow sheet
      have hStart : sheet.rows[k]? = some row.initial := by
        rw [← hStarts, List.getElem?_map, hRow]
        rfl
      rw [Nat.zero_add, hStart] at hWritten
      rw [Outcome.frame, List.getElem?_map, hRow, hWritten]
      rfl

/-
  The rows with some indices, each of which is read from the sheet
  when it is its turn, after the rows before it have been written.
-/
def checkInPlace
    (context : Context)
    (plan : Constraint.Plan) :
    List Nat → Sheet → Except Failure (List RowOutcome × Sheet)
  | [], sheet => .ok ([], sheet)
  | i :: rest, sheet => do
    let row ← checkRow context plan ((sheet.rows[i]?).getD [])
    let (others, last) ←
      checkInPlace context plan rest (row.writeTo plan i sheet)
    return (row :: others, last)

/-
  It makes no difference when the rows are read: what the rows before
  a row have written is not in its place.
-/
theorem checkInPlace_eq
    {context : Context}
    {plan : Constraint.Plan}
    {rows : List RowOutcome}
    {i : Nat}
    {sheet : Sheet}
    (hStarts :
      ∀ (k : Nat) row, rows[k]? = some row →
        sheet.rows[i + k]? = some row.initial)
    (hChecks :
      ∀ row ∈ rows, checkRow context plan row.initial = .ok row) :
    checkInPlace context plan (List.range' i rows.length) sheet =
      .ok (rows, writeRows plan i rows sheet) := by
  induction rows generalizing i sheet with
  | nil => rfl
  | cons row rest ih =>
      have hStart : sheet.rows[i]? = some row.initial :=
        hStarts 0 row rfl
      have hLater :
          ∀ (k : Nat) other, rest[k]? = some other →
            (row.writeTo plan i sheet).rows[i + 1 + k]? =
              some other.initial := by
        intro k other hOther
        have hPlace : i + (k + 1) = i + 1 + k := by omega
        have hAfter : i ≠ i + 1 + k := by omega
        have hKept := hStarts (k + 1) other hOther
        rw [hPlace] at hKept
        rw [row.getElem?_writeTo, hKept]
        simp [hAfter]
      have hRest :=
        ih hLater fun other hOther =>
          hChecks other (List.mem_cons_of_mem row hOther)
      rw [List.length_cons, List.range'_succ, checkInPlace, hStart,
        Option.getD_some, hChecks row List.mem_cons_self]
      simp only [bind, Except.bind, hRest]
      rfl

/-
  The sheet and the records of a batch never diverge. The sheet at
  the end has the columns that it had at the start, those of the
  plan among them. In each row a field of the plan holds what the
  record of the row holds, and any other field what it held before.
  The record and the verdicts of a row are those of a new record
  with the cells of the row at the start, also where rows are read
  from the sheet only after the rows before them have been written.
-/
theorem sheet_agrees_with_records
    {context : Context}
    {job : String}
    {plan : Constraint.Plan}
    {logging : Bool}
    {records : List (Entries Value)}
    {outcome : Outcome}
    (hColumns : (∃ record ∈ records, record ≠ []) ∨ plan ≠ [])
    (hRun : run context job plan logging records = .ok outcome) :
    ∃ sheet start last : Sheet,
      Sheet.ofRecords records = .ok sheet ∧
      start = sheet.withColumns (plan.map (·.1)) ∧
      checkInPlace context plan (List.range records.length) start =
        .ok (outcome.rows, last) ∧
      outcome.frame = last.rows ∧
      last.IsRectangular ∧
      last.columns = start.columns ∧
      (∀ entry ∈ plan, entry.1 ∈ last.columns) ∧
      ∀ (i : Nat) record, records[i]? = some record →
        ∃ cells row,
          start.rows[i]? = some cells ∧
          outcome.rows[i]? = some row ∧
          (∀ field,
            start.cell i field =
              Sheet.convert (Sheet.converts records field)
                (record.get? field)) ∧
          (Constraint.applyAll context plan).outcome
              (.ofValues cells) =
            (.ok row.verdicts, row.record) ∧
          (∀ entry ∈ plan,
            row.record.get entry.1 = .ok (last.cell i entry.1)) ∧
          ∀ field, field ∉ plan.map (·.1) →
            last.cell i field = start.cell i field := by
  rcases exists_sheet_of_run hRun with
    ⟨sheet, hSheet, hPlan, hStarts, hChecks⟩
  rcases exists_row_of_record hColumns hRun with ⟨hLength, hRows⟩
  rw [rowsShown_of_columns hSheet hColumns] at hStarts
  let start := sheet.withColumns (plan.map (·.1))
  let last := writeRows plan 0 outcome.rows start
  have hNamed : ∀ entry ∈ plan, entry.1 ∈ start.columns :=
    fun entry hEntry =>
      Sheet.mem_columns_withColumns (List.mem_map_of_mem hEntry)
  have hColumnsKept : last.columns = start.columns :=
    columns_writeRows plan 0 outcome.rows start
  have hStart {i : Nat} {row : RowOutcome}
      (hRow : outcome.rows[i]? = some row) :
      start.rows[i]? = some row.initial := by
    rw [← hStarts, List.getElem?_map, hRow]
    rfl
  refine
    ⟨sheet, start, last, hSheet, rfl, ?_, ?_, ?_, hColumnsKept, ?_, ?_⟩
  · rw [List.range_eq_range', ← hLength]
    apply checkInPlace_eq _ hChecks
    intro k row hRow
    rw [Nat.zero_add]
    exact hStart hRow
  · rw [frame_eq hStarts, hPlan]
  · exact
      isRectangular_writeRows 0 outcome.rows
        (Sheet.isRectangular_withColumns hSheet _) hNamed
  · rw [hColumnsKept]
    exact hNamed
  · intro i record hRecord
    rcases hRows i record hRecord with ⟨row, hRow, hCells⟩
    have hCheck := hChecks row (List.mem_of_getElem? hRow)
    have hOutcome := outcome_of_checkRow hCheck
    have hLast :
        last.rows[i]? = some (row.rewritten plan row.initial) := by
      have hWritten := getElem?_writeRows (i := 0) plan hRow start
      rw [Nat.zero_add, hStart hRow] at hWritten
      exact hWritten
    refine
      ⟨row.initial, row, hStart hRow, hRow, ?_, hOutcome, ?_, ?_⟩
    · intro field
      rw [← hCells field, Sheet.cell, hStart hRow]
      rfl
    · intro entry hEntry
      rcases exists_of_checkRow hCheck fun _ _ => rfl with
        ⟨single, hSingle, hSame⟩
      cases hOutcome.symm.trans hSingle
      rw [Sheet.cell, hLast]
      exact hSame.shown_eq entry hEntry
    · intro field hField
      rw [Sheet.cell, Sheet.cell, hLast, hStart hRow]
      simp only [Option.bind_some]
      rw [row.get?_rewritten_of_not_mem hField]

/-
  Of two rows one has an address that is written in small letters;
  the sheet shows it so, beside a number that no rule has touched.
-/
theorem sheet_of_two_rows :
    ∃ (context : Context) (plan : Constraint.Plan)
        (records : List (Entries Value)) (outcome : Outcome)
        (last : Sheet),
      run context "job" plan true records = .ok outcome ∧
      outcome.frame = last.rows ∧
      last.cell 0 "mail" = .text "a@b.org" ∧
      last.cell 0 "size" = .int 5 := by
  let context : Context :=
    ⟨.midnight ⟨2024, 1, 1, by decide⟩, false, "US"⟩
  let mail : Constraint :=
    .mk .text
      { ruleType := "isEmail"
        formatOptions := some [("case", .text "lower")] }
  let plan : Constraint.Plan := [("mail", [mail])]
  let records : List (Entries Value) :=
    [ [("mail", .text "A@b.org"), ("size", .int 5)]
    , [("mail", .text "x"), ("size", .int 7)] ]
  let address : RowOutcome :=
    { initial := [("mail", .text "A@b.org"), ("size", .int 5)]
      record :=
        .linked [("mail", .text "a@b.org"), ("size", .int 5)] []
          [("mail", ["String has been formatted"])]
      verdicts := [("mail", true)] }
  let other : RowOutcome :=
    { initial := [("mail", .text "x"), ("size", .int 7)]
      record :=
        .linked [("mail", .text "x"), ("size", .int 7)]
          [("mail", ["Please enter a valid email address"])] []
      verdicts := [("mail", false)] }
  let outcome : Outcome :=
    { plan := plan
      rows := [address, other]
      log := entriesFrom "job" plan 0 [address, other] }
  have hRun : run context "job" plan true records = .ok outcome := rfl
  rcases sheet_agrees_with_records (.inr (List.cons_ne_nil _ _))
      hRun with
    ⟨_, start, last, hSheet, rfl, -, hFrame, -, -, -, hRows⟩
  rcases hRows 0 _ rfl with
    ⟨_, row, -, hRow, hStart, -, hShown, hKept⟩
  have hMail : last.cell 0 "mail" = .text "a@b.org" := by
    cases hRow
    exact
      (Except.ok.inj
        (hShown ("mail", [mail]) List.mem_cons_self)).symm
  have hSize : last.cell 0 "size" = .int 5 := by
    rw [hKept "size" (by decide), hStart]
    rfl
  exact
    ⟨context, plan, records, outcome, last, hRun, hFrame, hMail, hSize⟩

end Batch

end RecordRules
