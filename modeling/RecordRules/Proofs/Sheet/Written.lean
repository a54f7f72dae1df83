import RecordRules.Proofs.Sheet.Cells

/-
  Sheets whose cells are written one by one.

  Main declarations:
    * `Sheet.cell` and `Sheet.write`
    * `Sheet.IsRectangular`, and `Sheet.IsRectangular.write`
    * `Sheet.isRectangular_withColumns`
-/

namespace RecordRules

namespace Entries

variable {α : Type}

/- A name that has a value keeps its place with another value. -/
theorem names_put
    {entries : Entries α}
    {name : String}
    (hName : name ∈ entries.map (·.1))
    (value : α) :
    (entries.put name value).map (·.1) = entries.map (·.1) := by
  induction entries with
  | nil => cases hName
  | cons entry rest ih =>
      unfold put
      split
      · rename_i hHere
        rw [List.map_cons, List.map_cons, eq_of_beq hHere]
      · rename_i hOther
        rw [List.map_cons, List.mem_cons] at hName
        rcases hName with rfl | hLater
        · exact absurd (beq_self_eq_true _) hOther
        · rw [List.map_cons, List.map_cons, ih hLater]

end Entries

namespace Sheet

------------------------------------------------------------
-- Cells
------------------------------------------------------------

/- The value in a row and a column, null if there is no such cell. -/
def cell
    (sheet : Sheet)
    (i : Nat)
    (field : String) : Value :=
  ((sheet.rows[i]?).bind fun row => row.get? field).getD .null

/- A sheet with another value in a row and a column. -/
def write
    (sheet : Sheet)
    (i : Nat)
    (field : String)
    (v : Value) : Sheet :=
  { sheet with rows := sheet.rows.modify i fun row => row.put field v }

/- A row of a sheet after a cell has been written. -/
theorem getElem?_write
    (sheet : Sheet)
    (i j : Nat)
    (field : String)
    (v : Value) :
    (sheet.write i field v).rows[j]? =
      (sheet.rows[j]?).map fun row =>
        if i = j then row.put field v else row := by
  rw [write, List.getElem?_modify]
  split <;> simp

theorem length_write
    (sheet : Sheet)
    (i : Nat)
    (field : String)
    (v : Value) :
    (sheet.write i field v).rows.length = sheet.rows.length :=
  List.length_modify ..

------------------------------------------------------------
-- Columns
------------------------------------------------------------

/- Every row has a cell for each column, in their order. -/
def IsRectangular (sheet : Sheet) : Prop :=
  ∀ row ∈ sheet.rows, row.map (·.1) = sheet.columns

theorem IsRectangular.write
    {sheet : Sheet}
    {field : String}
    (hShape : sheet.IsRectangular)
    (hColumn : field ∈ sheet.columns)
    (i : Nat)
    (v : Value) :
    (sheet.write i field v).IsRectangular := by
  intro row hRow
  rcases List.mem_iff_getElem?.mp hRow with ⟨j, hIndex⟩
  rw [getElem?_write, Option.map_eq_some_iff] at hIndex
  rcases hIndex with ⟨old, hOld, rfl⟩
  have hNames := hShape old (List.mem_of_getElem? hOld)
  split
  · rw [← hNames] at hColumn
    exact (Entries.names_put hColumn v).trans hNames
  · exact hNames

/- The sheet of records, with further columns, is rectangular. -/
theorem isRectangular_withColumns
    {records : List (Entries Value)}
    {sheet : Sheet}
    (hSheet : ofRecords records = .ok sheet)
    (names : List String) :
    (sheet.withColumns names).IsRectangular := by
  have hOld : sheet.IsRectangular := by
    rw [ofRecords_eq hSheet]
    intro row hRow
    rcases List.mem_map.mp hRow with ⟨record, -, rfl⟩
    simp [Function.comp_def]
  intro row hRow
  rcases List.mem_map.mp hRow with ⟨old, hMember, rfl⟩
  rw [List.map_append, hOld old hMember]
  simp [withColumns, Function.comp_def]

end Sheet

end RecordRules
