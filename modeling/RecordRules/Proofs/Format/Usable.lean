import Mathlib.Tactic.SplitIfs
import RecordRules.Amount.Format
import RecordRules.Proofs.Edit.Outcome
import RecordRules.Proofs.Numeric.IntegerText
import RecordRules.TextFormat

/-
  Formats with which numbers and texts can be written.

  Main declarations:
    * `NumberFormat.IsUsable`, and `NumberFormat.exists_render_iff`
    * `Replacement.IsUsable`
    * `TextFormat.IsUsable`, and `TextFormat.exists_apply_iff`
-/

namespace RecordRules

open Text

/- A result with a property, from the first part of a sequence. -/
theorem Failure.exists_bind_and_iff
    {α β : Type}
    {p : β → Prop}
    (first : Except Failure α)
    (f : α → Except Failure β) :
    (∃ b, (first >>= f) = .ok b ∧ p b) ↔
      ∃ a, first = .ok a ∧ ∃ b, f a = .ok b ∧ p b := by
  constructor
  · rintro ⟨b, hRun, hHolds⟩
    rcases exists_of_bind hRun with ⟨a, hFirst, hRest⟩
    exact ⟨a, hFirst, b, hRest, hHolds⟩
  · rintro ⟨a, rfl, hRest⟩
    exact hRest

/- A sequence gives a result if both of its parts do. -/
theorem Failure.exists_bind_iff
    {α β : Type}
    (first : Except Failure α)
    (f : α → Except Failure β) :
    (∃ b, (first >>= f) = .ok b) ↔
      ∃ a, first = .ok a ∧ ∃ b, f a = .ok b := by
  simpa using exists_bind_and_iff (p := fun _ => True) first f

------------------------------------------------------------
-- Numbers
------------------------------------------------------------

namespace NumberFormat

/- Whether numbers can be written with the decimals of a format. -/
def IsUsable (format : NumberFormat) : Prop :=
  ∀ decimals ∈ format.decimals,
    0 ≤ decimals ∧ decimals ≤ mostDecimals

theorem decimalCount_eq
    {decimals : Int}
    (hLow : 0 ≤ decimals)
    (hHigh : decimals ≤ mostDecimals) :
    decimalCount decimals = .ok decimals.toNat := by
  have hMost : mostDecimals = 2147483647 := by decide
  have hLargest : largestCount = 9223372036854775807 := by decide
  have hTen : Numeric.tenPow 10 = 10000000000 := by decide
  have hBelow : decimals.natAbs < Numeric.tenPow 10 := by omega
  have hLe : 10 ≤ Numeric.maxDigits := by decide
  have hDigits := Nat.lt_of_lt_of_le hBelow
    (Numeric.tenPow_le_tenPow hLe)
  unfold decimalCount
  rw [if_neg (Nat.not_le.mpr hDigits), if_neg (Int.not_lt.mpr hLow),
    if_neg, if_neg (Int.not_lt.mpr hHigh)]
  rw [hLargest, Int.not_lt]
  rw [hMost] at hHigh
  exact Int.le_trans hHigh (by decide)

theorem exists_decimalCount_iff
    (decimals : Int) :
    (∃ count, decimalCount decimals = .ok count) ↔
      0 ≤ decimals ∧ decimals ≤ mostDecimals := by
  constructor
  · rintro ⟨count, hCount⟩
    unfold decimalCount at hCount
    split_ifs at hCount with hLong hNegative hLargest hMost
    omega
  · rintro ⟨hLow, hHigh⟩
    exact ⟨_, decimalCount_eq hLow hHigh⟩

/- Every number can be written in a usable format, and no other. -/
theorem exists_render_iff
    (format : NumberFormat)
    (x : Binary64) :
    (∃ text, format.render x = .ok text) ↔ format.IsUsable := by
  have hBody :
      (∃ text, format.render x = .ok text) ↔
        ∃ text, format.body x = .ok text := by
    simp only [render, Failure.exists_bind_iff]
    constructor
    · rintro ⟨text, hText, -⟩
      exact ⟨text, hText⟩
    · rintro ⟨text, hText⟩
      exact ⟨text, hText, _, rfl⟩
  rw [hBody]
  unfold body IsUsable
  cases format.decimals with
  | none =>
      simp only [Option.not_mem_none, false_implies, implies_true,
        iff_true]
      split <;> exact ⟨_, rfl⟩
  | some decimals =>
      simp only [Failure.exists_bind_iff, Option.mem_some_iff,
        forall_eq']
      rw [← exists_decimalCount_iff]
      constructor
      · rintro ⟨count, hCount, -⟩
        exact ⟨count, hCount⟩
      · rintro ⟨count, hCount⟩
        exact ⟨count, hCount, _, rfl⟩

end NumberFormat

------------------------------------------------------------
-- Texts
------------------------------------------------------------

/-
  Whether a replacement can be made: one by pattern needs a pattern
  and a substitute that can be read.
-/
def Replacement.IsUsable (r : Replacement) : Prop :=
  r.isPattern = true →
    ∃ pattern pieces,
      Pattern.compile r.search.toList = .ok pattern ∧
      Pattern.readTemplate pattern r.replacement.toList = .ok pieces

namespace TextFormat

/- Whether a width is one to which texts can be filled. -/
def IsWidth (width : Int) : Prop :=
  -(widthLimit : Int) ≤ width ∧ width < widthLimit

/-
  Whether texts can be written in a format: its replacement can be
  made, and texts can be filled to its widths where there is a
  character to fill them with.
-/
structure IsUsable (format : TextFormat) : Prop where
  replace : ∀ r ∈ format.replace, r.IsUsable
  start :
    format.padChar.getD "" ≠ "" →
      ∀ width ∈ format.padStart, IsWidth width
  stop :
    format.padChar.getD "" ≠ "" →
      ∀ width ∈ format.padEnd, IsWidth width

theorem exists_substitute_iff
    (search replacement cs : List Char) :
    (∃ text, Pattern.substitute search replacement cs = .ok text) ↔
      ∃ pattern pieces,
        Pattern.compile search = .ok pattern ∧
        Pattern.readTemplate pattern replacement = .ok pieces := by
  unfold Pattern.substitute
  cases hPattern : Pattern.compile search with
  | error fault =>
      constructor
      · rintro ⟨text, hText⟩
        cases hText
      · rintro ⟨pattern, pieces, hEq, -⟩
        cases hEq
  | ok pattern =>
      cases hPieces : Pattern.readTemplate pattern replacement with
      | error fault =>
          constructor
          · rintro ⟨text, hText⟩
            simp [hPieces, bind, Except.bind] at hText
          · rintro ⟨other, pieces, hEq, hOther⟩
            cases hEq
            rw [hPieces] at hOther
            cases hOther
      | ok pieces =>
          constructor
          · rintro -
            exact ⟨pattern, pieces, rfl, hPieces⟩
          · rintro -
            exact ⟨pattern.replaceAll pieces cs, by
              simp [hPieces, bind, Except.bind, pure, Except.pure]⟩

theorem exists_replaced_iff
    (replace : Option Replacement)
    (cs : List Char) :
    (∃ text, replaced replace cs = .ok text) ↔
      ∀ r ∈ replace, r.IsUsable := by
  unfold replaced
  cases replace with
  | none => simp
  | some r =>
      simp only [Option.mem_some_iff, forall_eq',
        Replacement.IsUsable]
      cases r.isPattern with
      | false => simp
      | true =>
          rw [if_pos rfl, ← exists_substitute_iff _ _ cs]
          cases Pattern.substitute r.search.toList
              r.replacement.toList cs with
          | ok text => simp [Except.mapError]
          | error fault => simp [Except.mapError]

theorem exists_padded_iff
    (pad : Int → Char → List Char → List Char)
    (width : Option Int)
    (filler : Option String)
    (cs : List Char) :
    (∃ text, padded pad width filler cs = .ok text) ↔
      (filler.getD "" ≠ "" → ∀ w ∈ width, IsWidth w) := by
  unfold padded
  cases width with
  | none => simp
  | some width =>
      simp only [Option.mem_some_iff, forall_eq', ne_eq,
        ← String.toList_eq_nil_iff]
      cases (filler.getD "").toList with
      | nil => simp
      | cons c rest =>
          simp only [reduceCtorEq, not_false_eq_true, true_implies,
            IsWidth]
          split
          · rename_i hOutside
            constructor
            · rintro ⟨text, hText⟩
              cases hText
            · intro hWithin
              omega
          · rename_i hWithin
            constructor
            · rintro -
              omega
            · rintro -
              exact ⟨_, rfl⟩

/- Every text can be written in a usable format, and in no other. -/
theorem exists_apply_iff
    (format : TextFormat)
    (cs : List Char) :
    (∃ text, format.apply cs = .ok text) ↔ format.IsUsable := by
  constructor
  · rintro ⟨text, hText⟩
    rcases Failure.exists_of_bind hText with ⟨base, hBase, hText⟩
    rcases Failure.exists_of_bind hText with ⟨left, hLeft, hText⟩
    rcases Failure.exists_of_bind hText with ⟨both, hBoth, -⟩
    exact
      ⟨(exists_replaced_iff _ _).mp ⟨base, hBase⟩,
        (exists_padded_iff _ _ _ _).mp ⟨left, hLeft⟩,
        (exists_padded_iff _ _ _ _).mp ⟨both, hBoth⟩⟩
  · rintro ⟨hReplace, hStart, hStop⟩
    unfold apply edited
    rcases (exists_replaced_iff format.replace _).mpr hReplace with
      ⟨base, hBase⟩
    rw [hBase]
    rcases (exists_padded_iff Text.padStart _ _
        (truncated (format.truncate.getD 0) base)).mpr hStart with
      ⟨left, hLeft⟩
    rcases (exists_padded_iff Text.padEnd _ _ left).mpr hStop with
      ⟨both, hBoth⟩
    simp only [bind, Except.bind, hLeft, hBoth]
    exact ⟨_, rfl⟩

end TextFormat

end RecordRules
