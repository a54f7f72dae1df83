import RecordRules.Proofs.Edit.ConfinedTo
import RecordRules.Rule.Report

/-
  The values of entries and of the fields of records.

  Main declarations:
    * `Entries.get?_put_self`, `Entries.get?_put_of_ne` and the
      values of entries that are built in other ways
    * `Record.get_of_set`, and what else is kept by a field that is
      written
    * `Record.set_of_set` and `Record.exists_set_of_get`
    * `Edit.outcome_setField_linked`
    * `Edit.SameValue`, changes that keep the value of a field
-/

namespace RecordRules

------------------------------------------------------------
-- Entries
------------------------------------------------------------

namespace Entries

variable {α : Type}

theorem get?_cons
    (entry : String × α)
    (rest : Entries α)
    (name : String) :
    get? (entry :: rest) name =
      if entry.1 == name then some entry.2 else get? rest name := by
  unfold get?
  rw [List.find?_cons]
  cases entry.1 == name <;> rfl

theorem get?_put_self
    (entries : Entries α)
    (name : String)
    (value : α) :
    (put entries name value).get? name = some value := by
  induction entries with
  | nil => simp [put, get?]
  | cons entry rest ih =>
      unfold put
      split
      · simp [get?_cons]
      · rename_i hOther
        rw [get?_cons, if_neg hOther, ih]

/- A value that is put twice is put once. -/
theorem put_put_self
    (entries : Entries α)
    (name : String)
    (value : α) :
    put (put entries name value) name value =
      put entries name value := by
  induction entries with
  | nil => simp [put]
  | cons entry rest ih =>
      rw [put]
      split
      · simp [put]
      · rename_i hOther
        rw [put, if_neg hOther, ih]

theorem get?_put_of_ne
    (entries : Entries α)
    {name other : String}
    (hOther : name ≠ other)
    (value : α) :
    (put entries name value).get? other = get? entries other := by
  induction entries with
  | nil => simp [put, get?, hOther]
  | cons entry rest ih =>
      unfold put
      split
      · rename_i hName
        have hEq : entry.1 = name := eq_of_beq hName
        simp [get?_cons, hEq, hOther]
      · rw [get?_cons, get?_cons, ih]

theorem get?_append
    (first second : Entries α)
    (name : String) :
    get? (first ++ second) name =
      (get? first name).or (get? second name) := by
  unfold get?
  rw [List.find?_append]
  cases first.find? (·.1 == name) <;> rfl

/- Entries with a value computed for each of some names. -/
theorem get?_map_names
    (names : List String)
    (f : String → α)
    (name : String) :
    get? (names.map fun other => (other, f other)) name =
      if name ∈ names then some (f name) else none := by
  induction names with
  | nil => rfl
  | cons other rest ih =>
      rw [List.map_cons, get?_cons, ih]
      by_cases hName : other = name
      · simp [hName]
      · have hOther : name ≠ other := fun hEq => hName hEq.symm
        simp [hName, hOther]

/- Entries with every value changed. -/
theorem get?_map_values
    {β : Type}
    (entries : Entries α)
    (f : String → α → β)
    (name : String) :
    get? (entries.map fun entry => (entry.1, f entry.1 entry.2)) name =
      (get? entries name).map (f name) := by
  induction entries with
  | nil => rfl
  | cons entry rest ih =>
      rw [List.map_cons, get?_cons, get?_cons, ih]
      by_cases hName : entry.1 = name
      · simp [hName]
      · simp [hName]

/- Where names differ, the order of entries does not matter. -/
theorem get?_perm
    {entries others : Entries α}
    (hNames : (entries.map (·.1)).Nodup)
    (hPerm : entries.Perm others)
    (name : String) :
    get? entries name = get? others name := by
  induction hPerm with
  | nil => rfl
  | cons entry _ ih =>
      rw [List.map_cons, List.nodup_cons] at hNames
      rw [get?_cons, get?_cons, ih hNames.2]
  | swap first second rest =>
      have hNew : first.1 ≠ second.1 := by
        simp at hNames
        exact fun hEq => hNames.1.1 hEq.symm
      rw [get?_cons, get?_cons, get?_cons, get?_cons]
      by_cases hFirst : first.1 = name
      · have hSecond : second.1 ≠ name := fun hEq =>
          hNew (hFirst.trans hEq.symm)
        simp [hFirst, hSecond]
      · simp [hFirst]
  | trans hFirst _ ihFirst ihSecond =>
      have hMiddle := (hFirst.map (·.1)).nodup_iff.mp hNames
      exact (ihFirst hNames).trans (ihSecond hMiddle)

theorem mem_names_of_get?
    {entries : Entries α}
    {name : String}
    {value : α}
    (hGet : get? entries name = some value) :
    name ∈ entries.map (·.1) := by
  induction entries with
  | nil => cases hGet
  | cons entry rest ih =>
      rw [get?_cons] at hGet
      split at hGet
      · rename_i hName
        simp [eq_of_beq hName]
      · exact List.mem_cons_of_mem _ (ih hGet)

end Entries

------------------------------------------------------------
-- Linked records
------------------------------------------------------------

namespace Record

theorem exists_of_isLinked
    {r : Record}
    (hLinked : r.isLinked = true) :
    ∃ values errors infos, r = linked values errors infos := by
  cases r with
  | linked values errors infos => exact ⟨values, errors, infos, rfl⟩
  | detached cells => cases hLinked

/- A field of a linked record holds what is written to it. -/
theorem get_put
    (values : Entries Value)
    (errors infos : Entries (List String))
    (field : String)
    (v : Value) :
    (linked (values.put field v) errors infos).get field = .ok v := by
  simp [get, Entries.get?_put_self]

------------------------------------------------------------
-- Written fields
------------------------------------------------------------

section Written

variable {field : String} {v : Value} {r s : Record}

/- What is written to a field leaves the messages of a record. -/
theorem messages_of_set
    (hSet : r.set field v = .ok s) :
    s.isLinked = r.isLinked ∧ s.errors = r.errors ∧
      s.infos = r.infos := by
  cases r with
  | linked values errors infos =>
      cases hSet
      exact ⟨rfl, rfl, rfl⟩
  | detached cells =>
      rcases Failure.exists_of_bind hSet with ⟨cell, -, hRecord⟩
      cases hRecord
      exact ⟨rfl, rfl, rfl⟩

/- What is written to a field leaves the values of the others. -/
theorem get?_values_of_set
    {other : String}
    (hSet : r.set field v = .ok s)
    (hOther : field ≠ other) :
    s.values.get? other = r.values.get? other := by
  cases r with
  | linked values errors infos =>
      cases hSet
      exact Entries.get?_put_of_ne values hOther v
  | detached cells =>
      rcases Failure.exists_of_bind hSet with ⟨cell, -, hRecord⟩
      cases hRecord
      exact Entries.get?_put_of_ne cells hOther cell

/- A field that could be written holds what was written. -/
theorem get_of_set
    (hSet : r.set field v = .ok s) :
    s.get field = .ok v := by
  cases r with
  | linked values errors infos =>
      cases hSet
      exact get_put values errors infos field v
  | detached cells =>
      rcases Failure.exists_of_bind hSet with ⟨cell, hCell, hRecord⟩
      cases hRecord
      simp only [get, Entries.get?_put_self, Option.getD_some]
      unfold cellWith at hCell
      split at hCell
      · cases hCell
        rfl
      · cases hCell
        simp only [cellValue, Entries.get?_put_self, Option.getD_some]
      · cases hCell

/- What is written twice is written once. -/
theorem set_of_set
    (hSet : r.set field v = .ok s) :
    s.set field v = .ok s := by
  cases r with
  | linked values errors infos =>
      cases hSet
      rw [set, Entries.put_put_self]
  | detached cells =>
      rcases Failure.exists_of_bind hSet with ⟨cell, hCell, hRecord⟩
      cases hRecord
      have hAgain : cellWith v (some cell) = .ok cell := by
        unfold cellWith at hCell
        split at hCell
        · cases hCell
          simp [cellWith, Entries.put]
        · cases hCell
          rw [cellWith, Entries.put_put_self]
        · cases hCell
      rw [set, Entries.get?_put_self, hAgain]
      change Except.ok _ = _
      rw [Entries.put_put_self]

/- A field that holds something can be written. -/
theorem exists_set_of_get
    {w : Value}
    (hGet : r.get field = .ok w)
    (hSome : w ≠ .null)
    (v : Value) :
    ∃ s, r.set field v = .ok s := by
  cases r with
  | linked values errors infos => exact ⟨_, rfl⟩
  | detached cells =>
      cases hCell : cells.get? field with
      | none =>
          rw [get, hCell] at hGet
          cases hGet
          exact (hSome rfl).elim
      | some cell =>
          rw [get, hCell, Option.getD_some] at hGet
          rw [set, hCell]
          cases cell with
          | object entries => exact ⟨_, rfl⟩
          | null =>
              cases hGet
              exact (hSome rfl).elim
          | _ => cases hGet

end Written

end Record

namespace Edit

theorem outcome_setField_linked
    (values : Entries Value)
    (errors infos : Entries (List String))
    (field : String)
    (v : Value) :
    (setField field v).outcome (.linked values errors infos) =
      (.ok (), .linked (values.put field v) errors infos) :=
  rfl

/- The record after a step holds the same value in a field. -/
def SameValue
    (field : String)
    (r s : Record) : Prop :=
  s.get field = r.get field

theorem annotate_sameValue
    (field : String)
    (note : Note)
    (other message : String) :
    MovesBy (SameValue field) (annotate note other message) := by
  intro r
  rw [outcome_annotate]
  cases r <;> cases note <;> rfl

end Edit

end RecordRules
