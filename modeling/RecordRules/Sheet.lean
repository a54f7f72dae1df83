import RecordRules.Failure
import RecordRules.Numeric.Natural
import RecordRules.Value

/-
  Sheets: rows of values under common columns.

  Main declarations:
    * `Sheet.plain`, a cell without what counts as missing
    * `Sheet.isNumeric`, the columns whose integers become numbers
    * `Sheet`, `Sheet.ofRecords`
    * `Sheet.withColumns`, further columns without values
-/

namespace RecordRules

/- Rows with a cell for each column, in the order of the columns. -/
structure Sheet where
  columns : List String
  rows : List (Entries Value)
deriving DecidableEq

namespace Sheet

------------------------------------------------------------
-- Cells
------------------------------------------------------------

/- A cell, null where it holds what is no number. -/
def plain : Value → Value
  | .float x => if x.isNaN then .null else .float x
  | v => v

/-
  A cell before its column is looked at: one that is not there is
  told apart from an explicit null.
-/
abbrev Cell :=
  Option Value

/- Whether a cell is a number with decimals, or missing. -/
def asksForNumbers : Cell → Bool
  | none | some .null | some (.float _) => true
  | _ => false

/- Whether an integer is too large for a number. -/
def isTooLarge (n : Int) : Bool :=
  !(Binary64.ofInt n).isFinite

/- Whether an integer takes a word of 64 bits without a sign. -/
def isWide (n : Int) : Bool :=
  (Numeric.twoPow 63 : Int) ≤ n && n < (Numeric.twoPow 64 : Int)

/- Whether an integer fits no word of 64 bits. -/
def fitsNoWord (n : Int) : Bool :=
  n < -(Numeric.twoPow 63 : Int) || (Numeric.twoPow 64 : Int) ≤ n

/-
  Whether a column holds numbers and missing cells only. Up to the
  first null its integers have to fit a common word of 64 bits, with
  or without a sign. The flags say what came before: a null, an
  integer that takes a word without a sign, and a negative one.
-/
def holdsNumbers
    (null wide negative : Bool) : List Cell → Except Failure Bool
  | [] => .ok true
  | none :: rest => holdsNumbers null wide negative rest
  | some v :: rest =>
    match v with
    | .null => holdsNumbers true wide negative rest
    | .float _ => holdsNumbers null wide negative rest
    | .bool _ => do
      let _ ← holdsNumbers null wide negative rest
      return false
    | .int n =>
      let wide := wide || isWide n
      let negative := negative || n < 0
      if isTooLarge n then
        .error .numberTooLarge
      else if !null && (fitsNoWord n || (wide && negative)) then
        .ok false
      else
        holdsNumbers null wide negative rest
    | _ => .ok false

/- Whether the integers of a column become numbers. -/
def isNumeric (cells : List Cell) : Except Failure Bool := do
  return (← holdsNumbers false false false cells) &&
    cells.any asksForNumbers

/- A cell of a column, in which integers may become numbers. -/
def convert
    (numeric : Bool)
    (cell : Cell) : Value :=
  match cell with
  | none => .null
  | some (.int n) => if numeric then .float (.ofInt n) else .int n
  | some v => plain v

------------------------------------------------------------
-- Sheets
------------------------------------------------------------

/- The columns of records, in the order of their first use. -/
def columnsOf (records : List (Entries Value)) : List String :=
  (records.flatMap fun record => record.map (·.1)).eraseDups

/- The cells of a column. -/
def cellsOf
    (records : List (Entries Value))
    (column : String) : List Cell :=
  records.map fun record => record.get? column

/-
  The sheet of some records. A cell that is not there is null, and
  so is one that is no number. Without columns there are no rows.
-/
def ofRecords
    (records : List (Entries Value)) : Except Failure Sheet := do
  let columns := columnsOf records
  let kinds ← columns.mapM fun column => do
    return (column, ← isNumeric (cellsOf records column))
  return {
    columns := columns
    rows := records.map fun record =>
      kinds.map fun (column, numeric) =>
        (column, convert numeric (record.get? column)) }

/- A sheet with further columns, where they are not there yet. -/
def withColumns
    (sheet : Sheet)
    (names : List String) : Sheet :=
  let further := (names.filter (!sheet.columns.contains ·)).eraseDups
  { columns := sheet.columns ++ further
    rows := sheet.rows.map fun row =>
      row ++ further.map fun name => (name, .null) }

/- The rows of a sheet, of which there are none without columns. -/
def rowsShown (sheet : Sheet) : List (Entries Value) :=
  if sheet.columns.isEmpty then [] else sheet.rows

end Sheet

end RecordRules
