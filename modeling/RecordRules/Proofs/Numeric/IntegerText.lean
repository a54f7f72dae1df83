import RecordRules.Proofs.Text.Ascii
import RecordRules.Value.Printed

/-
  The texts of integers and of the numbers nearest to them.

  Main declarations:
    * `Binary64.log2_le_of_isFinite`, how large an integer with a
      finite nearest number is
    * `Numeric.printInt_of_isFinite`, such integers have a text
    * `Numeric.intDigits_ne_shortText`, which is never that of a
      number with decimals
-/

namespace RecordRules

open Text Numeric

------------------------------------------------------------
-- Finite nearest numbers
------------------------------------------------------------

namespace Binary64

theorem le_exponentOf
    (num den : Nat) :
    (num.log2 : Int) - den.log2 - 53 ≤ exponentOf num den := by
  unfold exponentOf
  dsimp only
  split <;> omega

theorem exponentOf_le_nearestPair
    (num den : Nat) :
    exponentOf num den ≤ (nearestPair num den).2 := by
  unfold nearestPair
  dsimp only
  split
  · dsimp only
    omega
  · exact Int.le_refl _

/- The exponents in range bound the bits of an integer. -/
theorem log2_le_of_isFinite
    {n : Int}
    (hFinite : (ofInt n).isFinite = true) :
    n.natAbs.log2 ≤ 1024 := by
  by_cases hZero : n.natAbs = 0
  · rw [hZero]
    decide
  rw [ofInt, ofRatio, if_neg hZero] at hFinite
  dsimp only at hFinite
  split at hFinite
  · rename_i hCanonical
    have hExponent := hCanonical.2.2.1
    have hEstimate := le_exponentOf n.natAbs 1
    have hPair := exponentOf_le_nearestPair n.natAbs 1
    have hOne : (1 : Nat).log2 = 0 := rfl
    rw [hOne] at hEstimate
    omega
  · cases hFinite

theorem isNaN_ofInt
    (n : Int) :
    (ofInt n).isNaN = false := by
  rw [ofInt, ofRatio]
  dsimp only
  split
  · rfl
  · split <;> rfl

end Binary64

namespace Numeric

theorem tenPow_le_tenPow
    {m n : Nat}
    (hLe : m ≤ n) :
    tenPow m ≤ tenPow n :=
  Nat.pow_le_pow_right (by decide) hLe

/- An integer with a finite nearest number is not too long. -/
theorem printInt_of_isFinite
    {n : Int}
    (hFinite : (Binary64.ofInt n).isFinite = true) :
    printInt n = .ok (intDigits n) := by
  have hLog := Binary64.log2_le_of_isFinite hFinite
  have hBits : n.natAbs < twoPow (n.natAbs.log2 + 1) :=
    Nat.lt_log2_self
  have hBase :
      twoPow (n.natAbs.log2 + 1) ≤ tenPow (n.natAbs.log2 + 1) :=
    Nat.pow_le_pow_left (by decide) _
  have hDigits : n.natAbs.log2 + 1 ≤ maxDigits := by
    rw [maxDigits]
    omega
  have hLength := tenPow_le_tenPow hDigits
  have hShort : ¬ tenPow maxDigits ≤ n.natAbs := by omega
  rw [printInt, if_neg hShort]

------------------------------------------------------------
-- Texts that differ
------------------------------------------------------------

/- The text of an integer has a sign and digits only. -/
theorem eq_or_isDigit_of_mem_intDigits
    {n : Int}
    {c : Char}
    (hMember : c ∈ intDigits n) :
    c = '-' ∨ IsDigit c := by
  have hDigits := (natDigits_isNumeral n.natAbs).2
  unfold intDigits at hMember
  split at hMember
  · rcases List.mem_cons.mp hMember with hSign | hDigit
    · exact .inl hSign
    · exact .inr (hDigits c hDigit)
  · exact .inr (hDigits c hMember)

/- A layout has a point or an exponent. -/
theorem exists_mark_of_layout
    (groups : Bool)
    (coefficient : Nat)
    (place : Int) :
    ∃ c ∈ layout groups coefficient place, c = '.' ∨ c = 'e' := by
  unfold layout
  dsimp only
  split
  · exact ⟨'e', by simp [exponentText], .inr rfl⟩
  · split
    · exact ⟨'.', by simp, .inl rfl⟩
    · exact ⟨'.', by simp, .inl rfl⟩

theorem exists_mark_of_signed
    (negative : Bool)
    {body : List Char}
    (hBody : ∃ c ∈ body, c ≠ '-' ∧ ¬ IsDigit c) :
    ∃ c ∈ Binary64.signed negative body, c ≠ '-' ∧ ¬ IsDigit c := by
  rcases hBody with ⟨c, hMember, hMark⟩
  cases negative with
  | true => exact ⟨c, List.mem_cons_of_mem _ hMember, hMark⟩
  | false => exact ⟨c, hMember, hMark⟩

/- The text of a number has more than a sign and digits. -/
theorem exists_mark_of_shortText
    (groups : Bool)
    (x : Binary64) :
    ∃ c ∈ x.shortText groups, c ≠ '-' ∧ ¬ IsDigit c := by
  cases x with
  | nan => exact ⟨'n', List.mem_cons_self, by decide⟩
  | infinite negative =>
      exact exists_mark_of_signed negative
        ⟨'i', List.mem_cons_self, by decide⟩
  | finite negative mantissa exponent canonical =>
      rw [Binary64.shortText]
      split
      · exact exists_mark_of_signed negative
          ⟨'.', by simp, by decide⟩
      · refine exists_mark_of_signed negative ?_
        rcases exists_mark_of_layout groups
            (shortestDecimal mantissa exponent).1
            (shortestDecimal mantissa exponent).2 with
          ⟨c, hMember, hMark⟩
        refine ⟨c, hMember, ?_⟩
        rcases hMark with hPoint | hExponent
        · rw [hPoint]
          decide
        · rw [hExponent]
          decide

/- No integer has the text of a number with decimals. -/
theorem intDigits_ne_shortText
    (n : Int)
    (groups : Bool)
    (x : Binary64) :
    intDigits n ≠ x.shortText groups := by
  intro hSame
  rcases exists_mark_of_shortText groups x with
    ⟨c, hMember, hSign, hDigit⟩
  rw [← hSame] at hMember
  rcases eq_or_isDigit_of_mem_intDigits hMember with hEq | hEq
  · exact hSign hEq
  · exact hDigit hEq

end Numeric

end RecordRules
