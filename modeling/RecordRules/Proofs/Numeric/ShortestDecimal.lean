import RecordRules.Numeric.Shortest
import RecordRules.Proofs.Numeric.NearestNumber

/-
  How large the shortest decimal of a number is.

  Main declarations:
    * `Numeric.Span.Covers`, decimals that do not exceed a span
    * `Numeric.covers_shortestDecimal`
    * `Numeric.shortestDecimal_lt`
-/

namespace RecordRules

namespace Numeric

namespace Span

/- A decimal does not exceed the high end of a span. -/
def Covers
    (span : Span)
    (coefficient : Nat)
    (place : Int) : Prop :=
  coefficient * tenPow place.toNat * span.den ≤
    span.high * tenPow (-place).toNat

variable {span : Span} {coefficient : Nat} {place : Int}

theorem covers_of_holds
    (hHolds : span.holds coefficient place = true) :
    span.Covers coefficient place := by
  unfold holds at hHolds
  dsimp only at hHolds
  split at hHolds
  · rw [Bool.and_eq_true, decide_eq_true_eq, decide_eq_true_eq]
      at hHolds
    exact hHolds.2
  · rw [Bool.and_eq_true, decide_eq_true_eq, decide_eq_true_eq]
      at hHolds
    exact Nat.le_of_lt hHolds.2

/- A neighbour of the value is taken from the span. -/
theorem covers_of_neighbour?
    (hFound : span.neighbour? place = some coefficient) :
    span.Covers coefficient place := by
  unfold neighbour? at hFound
  dsimp only at hFound
  split at hFound
  · rename_i hLower hUpper
    cases hFound
    rcases nearest_eq_or (span.value * tenPow (-place).toNat)
        (span.den * tenPow place.toNat) with hEq | hEq
    · rw [hEq]
      exact covers_of_holds hLower
    · rw [hEq]
      exact covers_of_holds hUpper
  · rename_i hLower _
    cases hFound
    exact covers_of_holds hLower
  · rename_i hUpper
    cases hFound
    exact covers_of_holds hUpper
  · cases hFound

theorem covers_search
    (span : Span)
    (point : Int)
    (count fuel : Nat) :
    span.Covers (span.search point count fuel).1
      (span.search point count fuel).2 := by
  induction fuel generalizing count with
  | zero => simp [search, Covers]
  | succ fuel ih =>
      rw [search]
      split
      · rename_i coefficient hFound
        exact covers_of_neighbour? hFound
      · exact ih (count + 1)

/- A zero at the end of a coefficient counts in its place as well. -/
theorem covers_succ
    (hCovers : span.Covers (coefficient * 10) place) :
    span.Covers coefficient (place + 1) := by
  unfold Covers at hCovers ⊢
  by_cases hUp : 0 ≤ place
  · have hNext : (place + 1).toNat = place.toNat + 1 := by omega
    have hSame : (-(place + 1)).toNat = (-place).toNat := by omega
    have hTen :
        coefficient * tenPow (place.toNat + 1) =
          coefficient * 10 * tenPow place.toNat := by
      rw [Nat.mul_assoc, Nat.mul_comm 10]
      rfl
    rw [hNext, hSame, hTen]
    exact hCovers
  · have hNext : (-place).toNat = (-(place + 1)).toNat + 1 := by omega
    have hSame : (place + 1).toNat = place.toNat := by omega
    have hTen :
        span.high * tenPow ((-(place + 1)).toNat + 1) =
          span.high * tenPow (-(place + 1)).toNat * 10 := by
      rw [Nat.mul_assoc]
      rfl
    rw [hNext, hTen, Nat.mul_right_comm coefficient,
      Nat.mul_right_comm _ 10] at hCovers
    rw [hSame]
    exact Nat.le_of_mul_le_mul_right hCovers (by decide)

theorem covers_dropZeros
    (hCovers : span.Covers coefficient place)
    (fuel : Nat) :
    span.Covers (dropZeros coefficient place fuel).1
      (dropZeros coefficient place fuel).2 := by
  induction fuel generalizing coefficient place with
  | zero => exact hCovers
  | succ fuel ih =>
      rw [dropZeros]
      split
      · rename_i hZero
        refine ih ?_
        have hTen : coefficient = coefficient / 10 * 10 := by omega
        rw [hTen] at hCovers
        exact covers_succ hCovers
      · exact hCovers

end Span

/- The shortest decimal of a number does not exceed its span. -/
theorem covers_shortestDecimal
    (mantissa : Nat)
    (exponent : Int) :
    (Span.of mantissa exponent).Covers
      (shortestDecimal mantissa exponent).1
      (shortestDecimal mantissa exponent).2 :=
  Span.covers_dropZeros (Span.covers_search ..) 17

/-
  The shortest decimal of a number that is not whole is not much
  larger than the mantissas of the format.
-/
theorem shortestDecimal_lt
    {mantissa : Nat}
    {exponent : Int}
    (hBelow : mantissa < twoPow 53)
    (hExponent : exponent ≤ 0) :
    (shortestDecimal mantissa exponent).1 *
        tenPow (shortestDecimal mantissa exponent).2.toNat <
      twoPow 54 *
        tenPow (-(shortestDecimal mantissa exponent).2).toNat := by
  have hCovers := covers_shortestDecimal mantissa exponent
  generalize (shortestDecimal mantissa exponent).1 = coefficient
    at hCovers ⊢
  generalize (shortestDecimal mantissa exponent).2 = place
    at hCovers ⊢
  have hNone : exponent.toNat = 0 := by omega
  have hFull : 4 * mantissa + 2 < 4 * twoPow 54 := by
    have hDouble : twoPow 54 = 2 * twoPow 53 := rfl
    omega
  have hTen : 0 < tenPow (-place).toNat := Nat.pow_pos (by decide)
  have hQuarter :
      4 * (coefficient * tenPow place.toNat) <
        4 * (twoPow 54 * tenPow (-place).toNat) := by
    calc
      4 * (coefficient * tenPow place.toNat)
          ≤ 4 * (coefficient * tenPow place.toNat) *
              twoPow (-exponent).toNat :=
        Nat.le_mul_of_pos_right _ (Nat.two_pow_pos _)
      _ = coefficient * tenPow place.toNat *
            (Span.of mantissa exponent).den := by
        rw [Nat.mul_comm 4, Nat.mul_assoc]
        rfl
      _ ≤ (Span.of mantissa exponent).high *
            tenPow (-place).toNat := hCovers
      _ = (4 * mantissa + 2) * tenPow (-place).toNat := by
        rw [Span.of, hNone]
        exact congrArg (· * _) (Nat.mul_one _)
      _ < 4 * twoPow 54 * tenPow (-place).toNat :=
        Nat.mul_lt_mul_of_pos_right hFull hTen
      _ = 4 * (twoPow 54 * tenPow (-place).toNat) :=
        Nat.mul_assoc ..
  omega

end Numeric

end RecordRules
