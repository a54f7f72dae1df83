import RecordRules.Proofs.Numeric.IntegerText
import RecordRules.Proofs.Record.Fields
import RecordRules.Sheet

/-
  The cells of a sheet and the values of the records that it is
  made of.

  Main declarations:
    * `Sheet.converts`, the columns whose integers become numbers
    * `Sheet.exists_row`, the row of a record in a sheet
    * `Sheet.IsConverted`, and `Sheet.convert_of_not_isConverted`
    * `Sheet.convert_isPlainNumber`, the cells of such columns
-/

namespace RecordRules

namespace Sheet

------------------------------------------------------------
-- Columns
------------------------------------------------------------

/- Whether the integers of a column become numbers. -/
def converts
    (records : List (Entries Value))
    (column : String) : Bool :=
  match isNumeric (cellsOf records column) with
  | .ok numeric => numeric
  | .error _ => false

/- The kinds of columns, where all of them can be told. -/
theorem kinds_eq
    {records : List (Entries Value)}
    {columns : List String}
    {kinds : List (String × Bool)}
    (hKinds :
      columns.mapM
          (fun column => do
            return (column, ← isNumeric (cellsOf records column))) =
        (.ok kinds : Except Failure (List (String × Bool)))) :
    kinds =
      columns.map fun column => (column, converts records column) := by
  apply Failure.map_of_mapM _ hKinds
  intro column kind hKind
  rcases Failure.exists_of_bind hKind with ⟨numeric, hNumeric, hEntry⟩
  cases hEntry
  rw [converts, hNumeric]

/- The sheet of records, where all columns can be told. -/
theorem ofRecords_eq
    {records : List (Entries Value)}
    {sheet : Sheet}
    (hSheet : ofRecords records = .ok sheet) :
    sheet =
      { columns := columnsOf records
        rows := records.map fun record =>
          (columnsOf records).map fun column =>
            (column,
              convert (converts records column)
                (record.get? column)) } := by
  unfold ofRecords at hSheet
  rcases Failure.exists_of_bind hSheet with ⟨kinds, hKinds, hRows⟩
  rw [kinds_eq hKinds] at hRows
  cases hRows
  simp [List.map_map, Function.comp_def]

theorem mem_columnsOf
    {records : List (Entries Value)}
    {record : Entries Value}
    {field : String}
    {v : Value}
    (hRecord : record ∈ records)
    (hGet : record.get? field = some v) :
    field ∈ columnsOf records := by
  rw [columnsOf, List.mem_eraseDups, List.mem_flatMap]
  exact ⟨record, hRecord, Entries.mem_names_of_get? hGet⟩

------------------------------------------------------------
-- Rows
------------------------------------------------------------

/-
  The row of a record holds the converted cells of the record, and
  null in all other columns.
-/
theorem exists_row
    {records : List (Entries Value)}
    {sheet : Sheet}
    {record : Entries Value}
    {i : Nat}
    (hSheet : ofRecords records = .ok sheet)
    (hRecord : records[i]? = some record)
    (names : List String) :
    ∃ row, (sheet.withColumns names).rows[i]? = some row ∧
      ∀ field,
        (row.get? field).getD .null =
          convert (converts records field) (record.get? field) := by
  rw [ofRecords_eq hSheet]
  simp only [withColumns, List.getElem?_map, hRecord,
    Option.map_some]
  refine ⟨_, rfl, ?_⟩
  intro field
  rw [Entries.get?_append, Entries.get?_map_names,
    Entries.get?_map_names]
  by_cases hColumn : field ∈ columnsOf records
  · simp [hColumn]
  · have hNone : record.get? field = none := by
      cases hGet : record.get? field with
      | none => rfl
      | some v =>
          have hRow := List.mem_of_getElem? hRecord
          exact absurd (mem_columnsOf hRow hGet) hColumn
    rw [if_neg hColumn, hNone]
    split <;> rfl

/- The same for a row that is known to be in the sheet. -/
theorem exists_record
    {records : List (Entries Value)}
    {sheet : Sheet}
    (hSheet : ofRecords records = .ok sheet)
    {names : List String}
    {row : Entries Value}
    (hRow : row ∈ (sheet.withColumns names).rows) :
    ∃ record ∈ records, ∀ field,
      (row.get? field).getD .null =
        convert (converts records field) (record.get? field) := by
  rcases List.mem_iff_getElem?.mp hRow with ⟨i, hIndex⟩
  cases hRecord : records[i]? with
  | none =>
      rw [ofRecords_eq hSheet] at hIndex
      simp [withColumns, hRecord] at hIndex
  | some record =>
      rcases exists_row hSheet hRecord names with
        ⟨other, hOther, hCells⟩
      rw [hIndex] at hOther
      cases hOther
      exact ⟨record, List.mem_of_getElem? hRecord, hCells⟩

/- The columns that are asked for are there. -/
theorem mem_columns_withColumns
    {sheet : Sheet}
    {names : List String}
    {name : String}
    (hName : name ∈ names) :
    name ∈ (sheet.withColumns names).columns := by
  by_cases hOld : name ∈ sheet.columns
  · simp [withColumns, hOld]
  · simp [withColumns, hOld, hName, List.mem_eraseDups]

/- With a further column there is a row for every record. -/
theorem rowsShown_withColumns
    (sheet : Sheet)
    {names : List String}
    (hSome : names ≠ []) :
    (sheet.withColumns names).rowsShown =
      (sheet.withColumns names).rows := by
  rcases List.exists_cons_of_ne_nil hSome with ⟨name, rest, rfl⟩
  have hColumns :
      (sheet.withColumns (name :: rest)).columns.isEmpty = false := by
    rw [List.isEmpty_eq_false_iff_exists_mem]
    exact ⟨name, mem_columns_withColumns List.mem_cons_self⟩
  rw [rowsShown, hColumns]
  rfl

/- The same where some record has a field. -/
theorem rowsShown_of_record
    {records : List (Entries Value)}
    {sheet : Sheet}
    {record : Entries Value}
    (hSheet : ofRecords records = .ok sheet)
    (hRecord : record ∈ records)
    (hSome : record ≠ [])
    (names : List String) :
    (sheet.withColumns names).rowsShown =
      (sheet.withColumns names).rows := by
  rcases List.exists_cons_of_ne_nil hSome with ⟨entry, rest, rfl⟩
  have hColumn : entry.1 ∈ (sheet.withColumns names).columns := by
    rw [ofRecords_eq hSheet]
    apply List.mem_append_left
    rw [columnsOf, List.mem_eraseDups, List.mem_flatMap]
    exact ⟨_, hRecord, List.mem_cons_self⟩
  have hColumns :
      (sheet.withColumns names).columns.isEmpty = false := by
    rw [List.isEmpty_eq_false_iff_exists_mem]
    exact ⟨entry.1, hColumn⟩
  rw [rowsShown, hColumns]
  rfl

theorem length_rows
    {records : List (Entries Value)}
    {sheet : Sheet}
    (hSheet : ofRecords records = .ok sheet)
    (names : List String) :
    (sheet.withColumns names).rows.length = records.length := by
  rw [ofRecords_eq hSheet, withColumns, List.length_map,
    List.length_map]

------------------------------------------------------------
-- Converted cells
------------------------------------------------------------

/- A record in which values that are no numbers count as null. -/
def withoutNaN (record : Entries Value) : Entries Value :=
  record.map fun entry => (entry.1, plain entry.2)

/- A record in which the cells are those of its row in a sheet. -/
def rowOf
    (records : List (Entries Value))
    (record : Entries Value) : Entries Value :=
  record.map fun entry =>
    (entry.1, convert (converts records entry.1) (some entry.2))

theorem get?_rowOf
    (records : List (Entries Value))
    (record : Entries Value)
    (field : String) :
    ((rowOf records record).get? field).getD .null =
      convert (converts records field) (record.get? field) := by
  rw [rowOf,
    Entries.get?_map_values record fun name v =>
      convert (converts records name) (some v)]
  cases record.get? field <;> rfl

/-
  A record has an integer in a column in which integers become
  numbers with decimals.
-/
def IsConverted
    (records : List (Entries Value))
    (record : Entries Value)
    (field : String) : Prop :=
  ∃ n, record.get? field = some (.int n) ∧
    isNumeric (cellsOf records field) = .ok true

/- Apart from such integers the sheet holds the record's values. -/
theorem convert_of_not_isConverted
    {records : List (Entries Value)}
    {record : Entries Value}
    {field : String}
    (hKept : ¬ IsConverted records record field) :
    convert (converts records field) (record.get? field) =
      ((withoutNaN record).get? field).getD .null := by
  rw [withoutNaN, Entries.get?_map_values record fun _ => plain]
  cases hGet : record.get? field with
  | none => rfl
  | some v =>
      cases v with
      | int n =>
          have hNot : converts records field = false := by
            cases hNumeric : isNumeric (cellsOf records field) with
            | error failure => rw [converts, hNumeric]
            | ok numeric =>
                cases numeric with
                | false => rw [converts, hNumeric]
                | true => exact absurd ⟨n, hGet, hNumeric⟩ hKept
          rw [hNot]
          rfl
      | _ => rfl

------------------------------------------------------------
-- Columns of numbers
------------------------------------------------------------

/- A cell of a column of numbers; its integers are not too large. -/
def IsNumber : Value → Prop
  | .null | .float _ => True
  | .int n => (Binary64.ofInt n).isFinite = true
  | _ => False

/- The first cell of a column of numbers, and its other cells. -/
theorem isNumber_of_cons
    {null wide negative : Bool}
    {cell : Cell}
    {rest : List Cell}
    (hNumbers :
      holdsNumbers null wide negative (cell :: rest) = .ok true) :
    (∀ v, cell = some v → IsNumber v) ∧
      ∃ null wide negative,
        holdsNumbers null wide negative rest = .ok true := by
  cases cell with
  | none => exact ⟨nofun, null, wide, negative, hNumbers⟩
  | some v =>
      cases v with
      | null =>
          refine ⟨?_, true, wide, negative, hNumbers⟩
          intro v hCell
          cases hCell
          trivial
      | float x =>
          refine ⟨?_, null, wide, negative, hNumbers⟩
          intro v hCell
          cases hCell
          trivial
      | int n =>
          rw [holdsNumbers] at hNumbers
          split at hNumbers
          · cases hNumbers
          · rename_i hLarge
            split at hNumbers
            · cases hNumbers
            · refine ⟨?_, _, _, _, hNumbers⟩
              intro v hCell
              cases hCell
              simpa [isTooLarge, IsNumber] using hLarge
      | bool b =>
          rw [holdsNumbers] at hNumbers
          rcases Failure.exists_of_bind hNumbers with ⟨_, _, hFalse⟩
          cases hFalse
      | _ => cases hNumbers

theorem isNumber_of_mem
    {null wide negative : Bool}
    {cells : List Cell}
    (hNumbers : holdsNumbers null wide negative cells = .ok true)
    {v : Value}
    (hCell : some v ∈ cells) :
    IsNumber v := by
  induction cells generalizing null wide negative with
  | nil => cases hCell
  | cons cell rest ih =>
      rcases isNumber_of_cons hNumbers with
        ⟨hFirst, null, wide, negative, hRest⟩
      rcases List.mem_cons.mp hCell with hHere | hThere
      · exact hFirst v hHere.symm
      · exact ih hRest hThere

/- Every value in a numeric column is a number. -/
theorem isNumber_of_isNumeric
    {records : List (Entries Value)}
    {record : Entries Value}
    {field : String}
    {v : Value}
    (hNumeric : isNumeric (cellsOf records field) = .ok true)
    (hRecord : record ∈ records)
    (hGet : record.get? field = some v) :
    IsNumber v := by
  have hCell : some v ∈ cellsOf records field := by
    rw [cellsOf, ← hGet]
    exact List.mem_map_of_mem hRecord
  unfold isNumeric at hNumeric
  rcases Failure.exists_of_bind hNumeric with
    ⟨numbers, hNumbers, hBoth⟩
  cases numbers with
  | false => cases hBoth
  | true => exact isNumber_of_mem hNumbers hCell

/- A cell of a sheet that is null or a number with decimals. -/
def IsPlainNumber (v : Value) : Prop :=
  v = .null ∨ ∃ x, v = .float x ∧ x.isNaN = false

/- A numeric column of a sheet has no integers. -/
theorem convert_isPlainNumber
    {records : List (Entries Value)}
    {record : Entries Value}
    {field : String}
    (hNumeric : isNumeric (cellsOf records field) = .ok true)
    (hRecord : record ∈ records) :
    IsPlainNumber
      (convert (converts records field) (record.get? field)) := by
  rw [converts, hNumeric]
  cases hGet : record.get? field with
  | none => exact .inl rfl
  | some v =>
      have hNumber := isNumber_of_isNumeric hNumeric hRecord hGet
      cases v with
      | null => exact .inl rfl
      | int n => exact .inr ⟨.ofInt n, rfl, Binary64.isNaN_ofInt n⟩
      | float x =>
          cases hNaN : x.isNaN with
          | true =>
              refine .inl ?_
              simp [convert, plain, hNaN]
          | false =>
              refine .inr ⟨x, ?_, hNaN⟩
              simp [convert, plain, hNaN]
      | _ => cases hNumber

end Sheet

end RecordRules
