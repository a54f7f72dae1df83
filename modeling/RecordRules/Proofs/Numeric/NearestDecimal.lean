import RecordRules.Proofs.Numeric.NearestNumber
import RecordRules.Proofs.Text.Ascii

/-
  The double-precision number nearest to a decimal.

  Main declarations:
    * `Text.tenPow_le_of_length`, the size of a number by its digits
    * `Decimal.negated`, and `Decimal.toBinary64_negated`
    * `Decimal.Equals`, and `Decimal.toBinary64_eq_finite`, for a
      decimal that is a number of the format
    * `Decimal.isFinite_toBinary64`
-/

namespace RecordRules

open Numeric Text

------------------------------------------------------------
-- Digits and size
------------------------------------------------------------

namespace Text

/- A number is below the power of ten with its count of digits. -/
theorem lt_tenPow_length
    (n : Nat) :
    n < tenPow (natDigits n).length := by
  have hSome := List.length_pos_iff.mpr (natDigits_isNumeral n).1
  exact (Nat.length_toDigits_le_iff (by decide) hSome).mp
    (Nat.le_refl _)

/- A number other than zero has no digits more than it needs. -/
theorem tenPow_le_of_length
    {n k : Nat}
    (hPositive : 0 < n)
    (hLength : k < (natDigits n).length) :
    tenPow k ≤ n := by
  rw [← Nat.not_lt]
  intro hSmall
  cases k with
  | zero =>
      change n < 1 at hSmall
      omega
  | succ k =>
      have hFew :=
        (Nat.length_toDigits_le_iff (by decide)
          (Nat.succ_pos k)).mpr hSmall
      exact Nat.not_lt.mpr hFew hLength

end Text

namespace Decimal

------------------------------------------------------------
-- Signs
------------------------------------------------------------

/- A decimal with the other sign. -/
def negated (d : Decimal) : Decimal :=
  { d with negative := !d.negative }

theorem ofRatio_not
    (negative : Bool)
    (num den : Nat) :
    Binary64.ofRatio (!negative) num den =
      -Binary64.ofRatio negative num den := by
  unfold Binary64.ofRatio
  dsimp only
  split
  · rfl
  · split <;> rfl

/- The nearest number has the sign of the decimal. -/
theorem toBinary64_negated
    (d : Decimal) :
    d.negated.toBinary64 = -d.toBinary64 := by
  unfold toBinary64 negated
  dsimp only
  split
  · rfl
  · split
    · rfl
    · exact ofRatio_not ..

------------------------------------------------------------
-- Range
------------------------------------------------------------

variable {d : Decimal} {m j n : Nat} {k : Int}

/- Powers of two in the range of the format, in decimal digits. -/
theorem twoPow_le_tenPow
    (hBits : j ≤ 33 * n) :
    twoPow j ≤ tenPow (10 * n) := by
  have hBlock : 2 ^ 33 ≤ 10 ^ 10 := by decide
  calc
    2 ^ j ≤ 2 ^ (33 * n) := Nat.pow_le_pow_right (by decide) hBits
    _ = (2 ^ 33) ^ n := Nat.pow_mul ..
    _ ≤ (10 ^ 10) ^ n := Nat.pow_le_pow_left hBlock n
    _ = 10 ^ (10 * n) := (Nat.pow_mul ..).symm

/- The first digit of a decimal that is not too large. -/
theorem length_le
    (hCoefficient : 0 < d.coefficient)
    (hBits : j ≤ 33 * n)
    (hBound :
      d.coefficient * tenPow d.exponent.toNat <
        twoPow j * tenPow (-d.exponent).toNat) :
    ((natDigits d.coefficient).length : Int) + d.exponent ≤
      10 * n := by
  rw [← Int.not_lt]
  intro hLong
  have hSome :=
    List.length_pos_iff.mpr (natDigits_isNumeral d.coefficient).1
  generalize hLength : (natDigits d.coefficient).length = length
    at hLong hSome
  have hDigits : 10 ^ (length - 1) ≤ d.coefficient :=
    tenPow_le_of_length hCoefficient (by omega)
  have hPowers :
      10 ^ (length - 1 + d.exponent.toNat) <
        10 ^ (10 * n + (-d.exponent).toNat) := by
    rw [Nat.pow_add, Nat.pow_add]
    calc
      10 ^ (length - 1) * 10 ^ d.exponent.toNat
          ≤ d.coefficient * 10 ^ d.exponent.toNat :=
        Nat.mul_le_mul_right _ hDigits
      _ < twoPow j * 10 ^ (-d.exponent).toNat := hBound
      _ ≤ 10 ^ (10 * n) * 10 ^ (-d.exponent).toNat :=
        Nat.mul_le_mul_right _ (twoPow_le_tenPow hBits)
  have hExponents := (Nat.pow_lt_pow_iff_right (by decide)).mp hPowers
  omega

/- The first digit of a decimal that is not too small. -/
theorem le_length
    (hBits : j ≤ 33 * n)
    (hBound :
      tenPow (-d.exponent).toNat ≤
        d.coefficient * tenPow d.exponent.toNat * twoPow j) :
    -10 * (n : Int) ≤
      ((natDigits d.coefficient).length : Int) + d.exponent := by
  rw [← Int.not_lt]
  intro hShort
  have hDigits := lt_tenPow_length d.coefficient
  generalize (natDigits d.coefficient).length = length
    at hShort hDigits
  have hPowers :
      10 ^ (-d.exponent).toNat <
        10 ^ (length + d.exponent.toNat + 10 * n) := by
    rw [Nat.pow_add, Nat.pow_add]
    calc
      10 ^ (-d.exponent).toNat
          ≤ d.coefficient * 10 ^ d.exponent.toNat * twoPow j := hBound
      _ < 10 ^ length * 10 ^ d.exponent.toNat * twoPow j :=
        Nat.mul_lt_mul_of_pos_right
          (Nat.mul_lt_mul_of_pos_right hDigits
            (Nat.pow_pos (by decide)))
          (Nat.two_pow_pos j)
      _ ≤ 10 ^ length * 10 ^ d.exponent.toNat * 10 ^ (10 * n) :=
        Nat.mul_le_mul_left _ (twoPow_le_tenPow hBits)
  have hExponents := (Nat.pow_lt_pow_iff_right (by decide)).mp hPowers
  omega

------------------------------------------------------------
-- Nearest numbers
------------------------------------------------------------

/- A decimal is the number `m * 2 ^ k`. -/
def Equals
    (d : Decimal)
    (m : Nat)
    (k : Int) : Prop :=
  d.coefficient * tenPow d.exponent.toNat * twoPow (-k).toNat =
    m * twoPow k.toNat * tenPow (-d.exponent).toNat

namespace Equals

theorem coefficient_pos
    (hEquals : d.Equals m k)
    (hPositive : 0 < m) :
    0 < d.coefficient := by
  rw [← Nat.not_le, Nat.le_zero]
  intro hZero
  have hProduct :
      0 < m * twoPow k.toNat * tenPow (-d.exponent).toNat :=
    Nat.mul_pos (Nat.mul_pos hPositive (Nat.two_pow_pos _))
      (Nat.pow_pos (by decide))
  rw [← hEquals, hZero, Nat.zero_mul, Nat.zero_mul] at hProduct
  omega

/- The numbers of the format have decimals in range. -/
theorem length_le
    (hEquals : d.Equals m k)
    (hCanonical : Binary64.Canonical m k)
    (hPositive : 0 < m) :
    ((natDigits d.coefficient).length : Int) + d.exponent ≤ 330 := by
  rcases hCanonical with ⟨hBelow, -, hHighest, -⟩
  have hBound :
      d.coefficient * tenPow d.exponent.toNat <
        twoPow (53 + k.toNat) * tenPow (-d.exponent).toNat := by
    calc
      d.coefficient * tenPow d.exponent.toNat
          ≤ d.coefficient * tenPow d.exponent.toNat *
              twoPow (-k).toNat :=
        Nat.le_mul_of_pos_right _ (Nat.two_pow_pos _)
      _ = m * twoPow k.toNat * tenPow (-d.exponent).toNat := hEquals
      _ < twoPow 53 * twoPow k.toNat * tenPow (-d.exponent).toNat :=
        Nat.mul_lt_mul_of_pos_right
          (Nat.mul_lt_mul_of_pos_right hBelow (Nat.two_pow_pos _))
          (Nat.pow_pos (by decide))
      _ = twoPow (53 + k.toNat) * tenPow (-d.exponent).toNat :=
        congrArg (· * _) (Nat.pow_add ..).symm
  have hBits : 53 + k.toNat ≤ 33 * 33 := by omega
  have hSize :=
    Decimal.length_le (hEquals.coefficient_pos hPositive) hBits hBound
  omega

theorem le_length
    (hEquals : d.Equals m k)
    (hCanonical : Binary64.Canonical m k)
    (hPositive : 0 < m) :
    -330 ≤ ((natDigits d.coefficient).length : Int) + d.exponent := by
  rcases hCanonical with ⟨-, hLowest, -, -⟩
  have hUnit : 0 < m * twoPow k.toNat :=
    Nat.mul_pos hPositive (Nat.two_pow_pos _)
  have hBound :
      tenPow (-d.exponent).toNat ≤
        d.coefficient * tenPow d.exponent.toNat *
          twoPow (-k).toNat := by
    rw [hEquals]
    exact Nat.le_mul_of_pos_left _ hUnit
  have hBits : (-k).toNat ≤ 33 * 33 := by omega
  have hSize := Decimal.le_length hBits hBound
  omega

end Equals

/- A decimal that is a number of the format is nearest to it. -/
theorem toBinary64_eq_finite
    (hEquals : d.Equals m k)
    (hCanonical : Binary64.Canonical m k)
    (hPositive : 0 < m) :
    d.toBinary64 = .finite d.negative m k hCanonical := by
  have hSome := hEquals.coefficient_pos hPositive
  have hLong := hEquals.length_le hCanonical hPositive
  have hShort := hEquals.le_length hCanonical hPositive
  have hInRange :
      ¬ (d.coefficient = 0 ∨
        ((natDigits d.coefficient).length : Int) + d.exponent <
          -330) := by
    omega
  unfold toBinary64
  dsimp only
  rw [if_neg hInRange, if_neg (Int.not_lt.mpr hLong)]
  exact Binary64.ofRatio_eq_finite d.negative _
    (Nat.pow_pos (by decide)) hPositive hEquals

/- A decimal that is not too large has a finite nearest number. -/
theorem isFinite_toBinary64
    (hBits : j ≤ 1000)
    (hBound :
      d.coefficient * tenPow d.exponent.toNat <
        twoPow j * tenPow (-d.exponent).toNat) :
    d.toBinary64.isFinite = true := by
  unfold toBinary64
  dsimp only
  split
  · rfl
  · rename_i hInRange
    have hWide : j ≤ 33 * 33 := by omega
    have hSize := length_le (by omega) hWide hBound
    have hLong :
        ((natDigits d.coefficient).length : Int) + d.exponent ≤
          330 := by
      omega
    rw [if_neg (Int.not_lt.mpr hLong)]
    exact Binary64.isFinite_ofRatio d.negative
      (Nat.pow_pos (by decide)) hBits hBound

end Decimal

end RecordRules
