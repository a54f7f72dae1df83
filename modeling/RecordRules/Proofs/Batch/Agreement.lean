import RecordRules.Proofs.Batch.Rows
import RecordRules.Proofs.Constraint.SideBySide

/-
  When the rows of a batch come out as their records would alone.

  Main declarations:
    * `Batch.RowOutcome.SameAs`, a row that came out as a record
    * `Batch.exists_row_of_run`
    * `Batch.textPlan`, a plan that writes a field as text
    * `Batch.rows_agree_iff`
-/

namespace RecordRules

open Edit

namespace Batch

------------------------------------------------------------
-- Rows and records
------------------------------------------------------------

/-
  A row has come out as a record: with the same verdicts, errors and
  infos, and with the same values in the fields of a plan, in the
  row itself and in the sheet at the end.
-/
structure RowOutcome.SameAs
    (plan : Constraint.Plan)
    (row : RowOutcome)
    (verdicts : Entries Bool)
    (r : Record) : Prop where
  verdicts_eq : row.verdicts = verdicts
  errors_eq : row.record.errors = r.errors
  infos_eq : row.record.infos = r.infos
  after_eq : ∀ entry ∈ plan, r.get entry.1 = .ok (row.after entry.1)
  shown_eq :
    ∀ entry ∈ plan,
      r.get entry.1 =
        .ok (((row.shownRow plan).get? entry.1).getD .null)

/- A row comes out as a record with its values would. -/
theorem exists_of_checkRow
    {context : Context}
    {plan : Constraint.Plan}
    {row values : Entries Value}
    {outcome : RowOutcome}
    (hCheck : checkRow context plan row = .ok outcome)
    (hValues :
      ∀ entry ∈ plan,
        (row.get? entry.1).getD .null =
          (values.get? entry.1).getD .null) :
    ∃ single,
      (Constraint.applyAll context plan).outcome (.ofValues values) =
          (.ok outcome.verdicts, single) ∧
        outcome.SameAs plan outcome.verdicts single := by
  have hRow := outcome_of_checkRow hCheck
  have hStart :
      Record.SameOn (plan.map (·.1)) (.ofValues row)
        (.ofValues values) := by
    refine ⟨rfl, rfl, rfl, rfl, ?_⟩
    intro field hField
    rcases List.mem_map.mp hField with ⟨entry, hEntry, rfl⟩
    exact congrArg Except.ok (hValues entry hEntry)
  have hRuns :=
    Constraint.applyAll_agrees context plan
      (fun entry hEntry => List.mem_map_of_mem hEntry) _ _ hStart
  rw [hRow] at hRuns
  rcases hSingle :
      (Constraint.applyAll context plan).outcome (.ofValues values) with
    ⟨verdicts, single⟩
  rw [hSingle] at hRuns
  rcases hRuns with ⟨hVerdicts, hEnd⟩
  cases hVerdicts
  have hAfter :
      ∀ entry ∈ plan,
        single.get entry.1 = .ok (outcome.after entry.1) := by
    intro entry hEntry
    rw [← hEnd.get_eq entry.1 (List.mem_map_of_mem hEntry)]
    rcases Record.exists_of_isLinked hEnd.left_linked with
      ⟨values, errors, infos, hRecord⟩
    dsimp only at hRecord
    rw [RowOutcome.after, hRecord]
    rfl
  refine ⟨single, rfl, rfl, hEnd.errors_eq, hEnd.infos_eq, hAfter, ?_⟩
  intro entry hEntry
  rw [hAfter entry hEntry, outcome.getD_shownRow hEntry]

/- A row of a run comes out as a record with its cells would. -/
theorem exists_row_of_run
    {context : Context}
    {job : String}
    {plan : Constraint.Plan}
    {logging : Bool}
    {records : List (Entries Value)}
    {sheet : Sheet}
    {outcome : Outcome}
    (hSheet : Sheet.ofRecords records = .ok sheet)
    (hPlan : plan ≠ [])
    (hRun : run context job plan logging records = .ok outcome)
    {i : Nat}
    {record values : Entries Value}
    (hRecord : records[i]? = some record)
    (hValues :
      ∀ entry ∈ plan,
        Sheet.convert (Sheet.converts records entry.1)
            (record.get? entry.1) =
          (values.get? entry.1).getD .null) :
    ∃ row single, outcome.rows[i]? = some row ∧
      (Constraint.applyAll context plan).outcome (.ofValues values) =
        (.ok row.verdicts, single) ∧
      row.SameAs plan row.verdicts single := by
  rcases exists_of_run hSheet hPlan hRun hRecord with
    ⟨cells, row, hRow, hCheck, hCells⟩
  have hSame :
      ∀ entry ∈ plan,
        (cells.get? entry.1).getD .null =
          (values.get? entry.1).getD .null := by
    intro entry hEntry
    rw [hCells, hValues entry hEntry]
  rcases exists_of_checkRow hCheck hSame with ⟨single, hSingle, hRest⟩
  exact ⟨row, single, hRow, hSingle, hRest⟩

------------------------------------------------------------
-- A plan that writes texts
------------------------------------------------------------

/- The configuration of a field that is written as text. -/
def textConfig (field : String) : Value :=
  .object
    [ (field,
        .list
          [.object
            [ ("validator", .text "StringValidator")
            , ("config", .object [("type", .text "format")])]])]

/- The plan for a field that is written as text. -/
def textPlan (field : String) : Constraint.Plan :=
  [(field, [{ validator := .text, config := { mode := .format } }])]

theorem parseAll_textConfig
    (field : String) :
    Constraint.parseAll (textConfig field) = .ok (textPlan field) :=
  rfl

theorem textPlan_ne_nil
    (field : String) :
    textPlan field ≠ [] :=
  List.cons_ne_nil _ _

/- The record with a value as text, and with a note about that. -/
def written
    (values : Entries Value)
    (field : String)
    (text : List Char) : Record :=
  .linked (values.put field (.text (String.ofList text))) []
    [(field, ["String has been formatted"])]

/- The plan does no more than to format a text without changes. -/
theorem outcome_textPlan
    (context : Context)
    {field : String}
    {r s : Record}
    {v : Value}
    (hFormat :
      (TextRule.format RuleOptions.standard field {}).outcome r =
        (.ok v, s)) :
    (Constraint.applyAll context (textPlan field)).outcome r =
      (.ok [(field, true)], s) := by
  have hApply :
      (Constraint.apply context field
          { validator := .text, config := { mode := .format } }).outcome
        r = (.ok true, s) := by
    have hSteps :
        Constraint.apply context field
            { validator := .text, config := { mode := .format } } =
          (do
            (do let _ ← TextRule.format RuleOptions.standard field {})
            return true) :=
      rfl
    rw [hSteps, outcome_bind, outcome_bind_of_ok hFormat]
    rfl
  rw [textPlan, Constraint.applyAll, Constraint.applyEach, outcome_bind,
    outcome_bind_of_ok hApply]
  rfl

theorem apply_plain
    (text : List Char) :
    TextFormat.apply {} text = .ok text := by
  simp [TextFormat.apply, TextFormat.edited, TextFormat.replaced,
    TextFormat.withCase, TextFormat.padded, Text.truncated,
    bind, Except.bind, pure, Except.pure]

/- An absent value stays. -/
theorem outcome_textPlan_of_isEmpty
    (context : Context)
    {values : Entries Value}
    {field : String}
    (hEmpty : ((values.get? field).getD .null).isEmpty = true) :
    (Constraint.applyAll context (textPlan field)).outcome
        (.ofValues values) =
      (.ok [(field, true)], .ofValues values) := by
  have hGet :
      (getField field).outcome (.ofValues values) =
        (.ok ((values.get? field).getD .null), .ofValues values) :=
    rfl
  apply outcome_textPlan
  unfold TextRule.format
  rw [outcome_bind_of_ok hGet, hEmpty]
  rfl

/- Any other value becomes its text. -/
theorem outcome_textPlan_of_print
    (context : Context)
    {values : Entries Value}
    {field : String}
    {v : Value}
    {text : List Char}
    (hValue : (values.get? field).getD .null = v)
    (hPresent : v.isEmpty = false)
    (hText : v.print = .ok text) :
    (Constraint.applyAll context (textPlan field)).outcome
        (.ofValues values) =
      (.ok [(field, true)], written values field text) := by
  have hGet :
      (getField field).outcome (.ofValues values) =
        (.ok v, .ofValues values) := by
    rw [← hValue]
    rfl
  have hTextOf : TextRule.textOf v = .ok text := by
    rw [TextRule.textOf, hPresent]
    exact hText
  apply outcome_textPlan
  unfold TextRule.format
  rw [outcome_bind_of_ok hGet, hPresent, hTextOf]
  simp only [Bool.false_and, Bool.false_eq_true, if_false,
    ofResult_ok_bind, apply_plain]
  rfl

/- What becomes of a row with null or a number in the field. -/
theorem exists_checkRow_textPlan
    (context : Context)
    {row : Entries Value}
    {field : String}
    (hCell : Sheet.IsPlainNumber ((row.get? field).getD .null)) :
    ∃ outcome, checkRow context (textPlan field) row = .ok outcome ∧
      (∃ text, (outcome.before field).print = .ok text) ∧
        ∃ text, (outcome.after field).print = .ok text := by
  rcases hCell with hNull | ⟨x, hNumber, hNaN⟩
  · have hEmpty : ((row.get? field).getD .null).isEmpty = true := by
      rw [hNull]
      rfl
    have hRun := outcome_textPlan_of_isEmpty context hEmpty
    refine ⟨_, checkRow_of_outcome hRun, ?_, ?_⟩
    · rw [RowOutcome.before, hNull]
      exact ⟨_, rfl⟩
    · rw [RowOutcome.after, Record.ofValues, Record.values, hNull]
      exact ⟨_, rfl⟩
  · have hRun :=
      outcome_textPlan_of_print context hNumber hNaN rfl
    refine ⟨_, checkRow_of_outcome hRun, ?_, ?_⟩
    · rw [RowOutcome.before, hNumber]
      exact ⟨_, rfl⟩
    · rw [RowOutcome.after, written, Record.values,
        Entries.get?_put_self]
      exact ⟨_, rfl⟩

/- A numeric column can be written as text in a whole batch. -/
theorem exists_run_textPlan
    (context : Context)
    (job : String)
    (logging : Bool)
    {records : List (Entries Value)}
    {sheet : Sheet}
    {field : String}
    (hSheet : Sheet.ofRecords records = .ok sheet)
    (hNumeric :
      Sheet.isNumeric (Sheet.cellsOf records field) = .ok true) :
    ∃ outcome,
      run context job (textPlan field) logging records =
        .ok outcome := by
  have hRows :
      ∀ row ∈ (sheet.withColumns [field]).rows, ∃ outcome,
        checkRow context (textPlan field) row = .ok outcome ∧
          ∀ index, ∃ log,
            outcome.rowLog job index (textPlan field) = .ok log := by
    intro row hRow
    rcases Sheet.exists_record hSheet hRow with
      ⟨record, hRecord, hCells⟩
    have hCell := Sheet.convert_isPlainNumber hNumeric hRecord
    rw [← hCells] at hCell
    rcases exists_checkRow_textPlan context hCell with
      ⟨outcome, hCheck, hTexts⟩
    refine ⟨outcome, hCheck, ?_⟩
    apply RowOutcome.exists_rowLog
    intro entry hEntry
    rw [List.mem_singleton.mp hEntry]
    exact hTexts
  rcases exists_runRows logging 0 hRows with ⟨results, hResults⟩
  have hNames : (textPlan field).map (·.1) = [field] := rfl
  rw [run_eq context job logging hSheet (textPlan_ne_nil field),
    hNames, hResults]
  exact ⟨_, rfl⟩

------------------------------------------------------------
-- Agreement
------------------------------------------------------------

/- A field that is written as text holds the text at the end. -/
theorem get_written
    (values : Entries Value)
    (field : String)
    (text : List Char) :
    (written values field text).get field =
      .ok (.text (String.ofList text)) :=
  Record.get_put _ _ _ _ _

/- An integer that became a number has another text than before. -/
theorem exists_textPlan_differs
    (context : Context)
    (job : String)
    (logging : Bool)
    {records : List (Entries Value)}
    {sheet : Sheet}
    (hSheet : Sheet.ofRecords records = .ok sheet)
    {i : Nat}
    {record : Entries Value}
    (hRecord : records[i]? = some record)
    {field : String}
    (hConverted : Sheet.IsConverted records record field) :
    ∃ outcome row verdicts single,
      run context job (textPlan field) logging records = .ok outcome ∧
      outcome.rows[i]? = some row ∧
      (Constraint.applyAll context (textPlan field)).outcome
          (.ofValues (Sheet.withoutNaN record)) =
        (.ok verdicts, single) ∧
      single.get field ≠ .ok (row.after field) := by
  rcases hConverted with ⟨n, hGet, hNumeric⟩
  have hFinite : (Binary64.ofInt n).isFinite = true :=
    Sheet.isNumber_of_isNumeric hNumeric
      (List.mem_of_getElem? hRecord) hGet
  rcases exists_run_textPlan context job logging hSheet hNumeric with
    ⟨outcome, hRun⟩
  rcases exists_of_run hSheet (textPlan_ne_nil field) hRun hRecord with
    ⟨cells, row, hRow, hCheck, hCells⟩
  -- the row becomes the text of the number nearest to the integer
  have hCell :
      (cells.get? field).getD .null = .float (.ofInt n) := by
    rw [hCells, Sheet.converts, hNumeric, hGet]
    rfl
  have hWritten :=
    checkRow_of_outcome
      (outcome_textPlan_of_print context hCell
        (Binary64.isNaN_ofInt n) rfl)
  rw [hCheck] at hWritten
  cases hWritten
  -- the record alone becomes that of the integer
  have hValue :
      ((Sheet.withoutNaN record).get? field).getD .null = .int n := by
    rw [Sheet.withoutNaN,
      Entries.get?_map_values record fun _ => Sheet.plain, hGet]
    rfl
  have hText : (Value.int n).print = .ok (Text.intDigits n) := by
    rw [← Numeric.printInt_of_isFinite hFinite]
    rfl
  refine ⟨outcome, _, _, _, hRun, hRow,
    outcome_textPlan_of_print context hValue rfl hText, ?_⟩
  rw [get_written, RowOutcome.after, written, Record.values,
    Entries.get?_put_self]
  intro hSame
  injection hSame with hSame
  injection hSame with hSame
  exact Numeric.intDigits_ne_shortText n false _
    (String.ofList_injective hSame)

/-
  For all configurations of some fields: where a batch and a record
  alone both give a result, a row of the batch comes out as the
  record.
-/
def AgreesAlone
    (context : Context)
    (job : String)
    (logging : Bool)
    (records : List (Entries Value))
    (i : Nat)
    (record : Entries Value)
    (fields : List String) : Prop :=
  ∀ config plan outcome verdicts single,
    Constraint.parseAll config = .ok plan → plan ≠ [] →
    (∀ entry ∈ plan, entry.1 ∈ fields) →
    run context job plan logging records = .ok outcome →
    (Constraint.applyAll context plan).outcome
        (.ofValues (Sheet.withoutNaN record)) =
      (.ok verdicts, single) →
    ∃ row, outcome.rows[i]? = some row ∧
      row.SameAs plan verdicts single

/-
  Every row of a batch comes out as the record would that holds the
  cells of the row. So it comes out as its own record would alone,
  for all plans on some fields, exactly when the record has no
  integer in these fields that became a number in the sheet.
-/
theorem rows_agree_iff
    (context : Context)
    (job : String)
    (logging : Bool)
    {records : List (Entries Value)}
    {sheet : Sheet}
    (hSheet : Sheet.ofRecords records = .ok sheet)
    {i : Nat}
    {record : Entries Value}
    (hRecord : records[i]? = some record) :
    (∀ plan outcome, plan ≠ [] →
      run context job plan logging records = .ok outcome →
        ∃ row single, outcome.rows[i]? = some row ∧
          (Constraint.applyAll context plan).outcome
              (.ofValues (Sheet.rowOf records record)) =
            (.ok row.verdicts, single) ∧
          row.SameAs plan row.verdicts single) ∧
      ∀ fields,
        AgreesAlone context job logging records i record fields ↔
          ∀ field ∈ fields,
            ¬ Sheet.IsConverted records record field := by
  refine ⟨?_, fun fields => ⟨?_, ?_⟩⟩
  · intro plan outcome hPlan hRun
    apply exists_row_of_run hSheet hPlan hRun hRecord
    intro entry _
    rw [Sheet.get?_rowOf]
  · intro hAgree field hField hConverted
    rcases exists_textPlan_differs context job logging hSheet hRecord
        hConverted with
      ⟨outcome, row, verdicts, single, hRun, hRow, hSingle, hDiffers⟩
    have hFields : ∀ entry ∈ textPlan field, entry.1 ∈ fields := by
      intro entry hEntry
      rw [List.mem_singleton.mp hEntry]
      exact hField
    rcases hAgree (textConfig field) _ outcome _ _
        (parseAll_textConfig field) (textPlan_ne_nil field) hFields
        hRun hSingle with
      ⟨other, hOther, hSame⟩
    rw [hRow] at hOther
    cases hOther
    exact hDiffers (hSame.after_eq _ List.mem_cons_self)
  · intro hKept config plan outcome verdicts single _ hPlan hFields
      hRun hSingle
    have hValues :
        ∀ entry ∈ plan,
          Sheet.convert (Sheet.converts records entry.1)
              (record.get? entry.1) =
            ((Sheet.withoutNaN record).get? entry.1).getD .null :=
      fun entry hEntry =>
        Sheet.convert_of_not_isConverted
          (hKept entry.1 (hFields entry hEntry))
    rcases exists_row_of_run hSheet hPlan hRun hRecord hValues with
      ⟨row, other, hRow, hOther, hSame⟩
    rw [hSingle] at hOther
    cases hOther
    exact ⟨row, hRow, hSame⟩

/-
  Beside a record without the field, an integer is no longer an
  integer, and the other record is as it would be alone.
-/
theorem five_beside_absent :
    ∃ context,
      ¬ AgreesAlone context "job" true [[("a", .int 5)], []] 0
            [("a", .int 5)] ["a"] ∧
        AgreesAlone context "job" true [[("a", .int 5)], []] 1 []
          ["a"] := by
  have hNumeric :
      Sheet.isNumeric
          (Sheet.cellsOf [[("a", .int 5)], []] "a") =
        .ok true :=
    rfl
  refine ⟨⟨.midnight ⟨2024, 1, 1, by decide⟩, false, "US"⟩, ?_, ?_⟩
  · rw [(rows_agree_iff _ "job" true rfl rfl).2]
    intro hKept
    exact hKept "a" List.mem_cons_self ⟨5, rfl, hNumeric⟩
  · rw [(rows_agree_iff _ "job" true rfl rfl).2]
    intro field _ hConverted
    rcases hConverted with ⟨n, hGet, _⟩
    cases hGet

end Batch

end RecordRules
