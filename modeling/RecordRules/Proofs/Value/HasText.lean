import RecordRules.Proofs.Format.Usable
import RecordRules.Value.Printed

/-
  The values that have a text.

  Main declarations:
    * `Value.hasText`, whether all integers in a value are short
    * `Value.exists_print_iff`
-/

namespace RecordRules

open Numeric

/- Integers with few enough digits have a text. -/
theorem Numeric.exists_printInt_iff
    (n : Int) :
    (∃ text, printInt n = .ok text) ↔ n.natAbs < tenPow maxDigits := by
  rw [← Nat.not_le]
  unfold printInt
  split
  · rename_i hLong
    exact iff_of_false nofun (not_not_intro hLong)
  · rename_i hShort
    exact iff_of_true ⟨_, rfl⟩ hShort

namespace Value

------------------------------------------------------------
-- Short integers
------------------------------------------------------------

mutual

/- Whether every integer in a value has few enough digits. -/
def hasText : Value → Bool
  | int n => decide (n.natAbs < tenPow maxDigits)
  | list items => itemsHaveText items
  | object entries => entriesHaveText entries
  | _ => true

/- The same for the values of a list. -/
def itemsHaveText : List Value → Bool
  | [] => true
  | v :: rest => v.hasText && itemsHaveText rest

/- The same for the entries of an object. -/
def entriesHaveText : List (String × Value) → Bool
  | [] => true
  | (_, v) :: rest => v.hasText && entriesHaveText rest

end

------------------------------------------------------------
-- Texts
------------------------------------------------------------

mutual

/- A value within another one has a text if its integers have one. -/
theorem exists_quoted_iff :
    (v : Value) → ((∃ text, v.quoted = .ok text) ↔ v.hasText = true)
  | null | bool _ | float _ | text _ | stamp _ | day _ => by
      simp [quoted, hasText]
  | int n => by
      rw [quoted, exists_printInt_iff, hasText, decide_eq_true_iff]
  | list items => by
      unfold quoted hasText
      rw [Failure.exists_bind_iff, ← exists_quotedItems_iff items]
      simp [pure, Except.pure]
  | object entries => by
      unfold quoted hasText
      rw [Failure.exists_bind_iff, ← exists_quotedEntries_iff entries]
      simp [pure, Except.pure]

theorem exists_quotedItems_iff :
    (items : List Value) →
      ((∃ texts, quotedItems items = .ok texts) ↔
        itemsHaveText items = true)
  | [] => by simp [quotedItems, itemsHaveText]
  | v :: rest => by
      unfold quotedItems itemsHaveText
      rw [Failure.exists_bind_iff, Bool.and_eq_true,
        ← exists_quoted_iff v, ← exists_quotedItems_iff rest]
      simp [Failure.exists_bind_iff, pure, Except.pure]

theorem exists_quotedEntries_iff :
    (entries : List (String × Value)) →
      ((∃ texts, quotedEntries entries = .ok texts) ↔
        entriesHaveText entries = true)
  | [] => by simp [quotedEntries, entriesHaveText]
  | (_, v) :: rest => by
      unfold quotedEntries entriesHaveText
      rw [Failure.exists_bind_iff, Bool.and_eq_true,
        ← exists_quoted_iff v, ← exists_quotedEntries_iff rest]
      simp [Failure.exists_bind_iff, pure, Except.pure]

end

/- A value has a text if every integer in it has one. -/
theorem exists_print_iff
    (v : Value) :
    (∃ text, v.print = .ok text) ↔ v.hasText = true := by
  cases v with
  | text s | stamp s | day s => simp [print, hasText]
  | _ => exact exists_quoted_iff _

end Value

end RecordRules
