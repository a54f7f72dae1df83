import RecordRules.Numeric.Binary64

/-
  The double-precision number nearest to a quotient.

  Main declarations:
    * `Binary64.mantissaAt`, a quotient in units of a power of two
    * `Binary64.exponentOf_spec`, at the exponent of a quotient its
      mantissa has 53 bits, unless the exponent is the lowest one
    * `Binary64.ofRatio_eq_finite`, a quotient that has a place in
      the format is its own nearest number
    * `Binary64.isFinite_ofRatio`
-/

namespace RecordRules

open Numeric

------------------------------------------------------------
-- Rounding
------------------------------------------------------------

namespace Numeric

/- A quotient without a rest is not rounded. -/
theorem nearest_mul_self
    {den : Nat}
    (hDen : 0 < den)
    (n : Nat) :
    nearest (n * den) den = n := by
  unfold nearest
  rw [Nat.mul_div_cancel n hDen, Nat.mul_mod_left, if_pos]
  omega

/- A quotient is rounded to one of its two neighbours. -/
theorem nearest_eq_or
    (num den : Nat) :
    nearest num den = num / den ∨ nearest num den = num / den + 1 := by
  have hParity := Nat.mod_two_eq_zero_or_one (num / den)
  unfold nearest
  dsimp only
  split
  · exact .inl rfl
  · split
    · exact .inr rfl
    · rcases hParity with hEven | hOdd
      · rw [hEven]
        exact .inl rfl
      · rw [hOdd]
        exact .inr rfl

end Numeric

namespace Binary64

------------------------------------------------------------
-- Quotients in units of a power of two
------------------------------------------------------------

/- How many times a power of two goes into a quotient. -/
def mantissaAt
    (num den : Nat)
    (k : Int) : Nat :=
  (scaled num den k).1 / (scaled num den k).2

variable {num den j m : Nat} {k l : Int}

theorem scaled_snd_pos
    (hDen : 0 < den)
    (k : Int) :
    0 < (scaled num den k).2 := by
  unfold scaled
  split
  · exact Nat.mul_pos hDen (Nat.two_pow_pos _)
  · exact hDen

/- A quotient that is a multiple of a power of two. -/
theorem scaled_fst_eq
    (hValue :
      num * twoPow (-k).toNat = m * twoPow k.toNat * den) :
    (scaled num den k).1 = m * (scaled num den k).2 := by
  unfold scaled
  split
  · have hUp : (-k).toNat = 0 := by omega
    rw [hUp] at hValue
    change num * 1 = _ at hValue
    rw [Nat.mul_one] at hValue
    rw [hValue, Nat.mul_assoc, Nat.mul_comm den]
  · have hDown : k.toNat = 0 := by omega
    rw [hDown] at hValue
    change _ = m * 1 * den at hValue
    rw [Nat.mul_one] at hValue
    exact hValue

/- The mantissa without a division. -/
theorem le_mantissaAt_iff
    (hDen : 0 < den)
    (k : Int) :
    m ≤ mantissaAt num den k ↔
      m * twoPow k.toNat * den ≤ num * twoPow (-k).toNat := by
  rw [mantissaAt, Nat.le_div_iff_mul_le (scaled_snd_pos hDen k)]
  unfold scaled
  split
  · have hUp : (-k).toNat = 0 := by omega
    rw [hUp]
    change m * (den * twoPow k.toNat) ≤ num ↔ _ ≤ num * 1
    rw [Nat.mul_one, Nat.mul_assoc, Nat.mul_comm den]
  · have hDown : k.toNat = 0 := by omega
    rw [hDown]
    change m * den ≤ num * twoPow (-k).toNat ↔ m * 1 * den ≤ _
    rw [Nat.mul_one]

/- Twice the unit goes half as often. -/
theorem le_mantissaAt_succ_iff
    (hDen : 0 < den) :
    m ≤ mantissaAt num den (k + 1) ↔
      2 * m ≤ mantissaAt num den k := by
  rw [le_mantissaAt_iff hDen, le_mantissaAt_iff hDen]
  by_cases hUp : 0 ≤ k
  · have hNext : (k + 1).toNat = k.toNat + 1 := by omega
    have hNone : (-(k + 1)).toNat = (-k).toNat := by omega
    have hTwo : m * twoPow (k.toNat + 1) = 2 * m * twoPow k.toNat := by
      rw [twoPow, Nat.pow_eq, Nat.pow_succ, Nat.mul_comm (2 ^ _),
        ← Nat.mul_assoc, Nat.mul_comm m]
      rfl
    rw [hNext, hNone, hTwo]
  · have hNext : (-k).toNat = (-(k + 1)).toNat + 1 := by omega
    have hNone : (k + 1).toNat = k.toNat := by omega
    have hTwo :
        num * twoPow ((-(k + 1)).toNat + 1) =
          2 * (num * twoPow (-(k + 1)).toNat) := by
      rw [twoPow, Nat.pow_eq, Nat.pow_succ, Nat.mul_comm (2 ^ _),
        ← Nat.mul_assoc, Nat.mul_comm num, Nat.mul_assoc]
      rfl
    rw [hNext, hNone, hTwo, Nat.mul_assoc 2, Nat.mul_assoc 2]
    omega

/- A larger unit does not go more often. -/
theorem le_mantissaAt_of_le
    (hDen : 0 < den)
    (hUnits : l ≤ k)
    (hMantissa : m ≤ mantissaAt num den k) :
    m ≤ mantissaAt num den l := by
  rcases Int.le.dest hUnits with ⟨n, rfl⟩
  induction n with
  | zero => simpa using hMantissa
  | succ n ih =>
      refine ih (by omega) ?_
      have hTwice :
          2 * m ≤ mantissaAt num den (l + n) := by
        rw [← le_mantissaAt_succ_iff hDen, Int.add_assoc]
        exact hMantissa
      omega

/- A smaller unit goes twice as often. -/
theorem two_mul_le_mantissaAt
    (hDen : 0 < den)
    (hUnits : l < k)
    (hMantissa : m ≤ mantissaAt num den k) :
    2 * m ≤ mantissaAt num den l := by
  have hTwice : 2 * m ≤ mantissaAt num den (k - 1) := by
    rwa [← le_mantissaAt_succ_iff hDen, Int.sub_add_cancel]
  exact le_mantissaAt_of_le hDen (by omega) hTwice

------------------------------------------------------------
-- Bits
------------------------------------------------------------

/- The bits of a quotient that is large enough. -/
theorem le_log2_sub
    (hDen : 0 < den)
    (hMantissa : twoPow j ≤ mantissaAt num den k) :
    j + k ≤ (num.log2 : Int) - den.log2 := by
  have hSize := (le_mantissaAt_iff hDen k).mp hMantissa
  have hLow : 2 ^ den.log2 ≤ den := Nat.log2_self_le (by omega)
  have hHigh : num < 2 ^ (num.log2 + 1) := Nat.lt_log2_self
  have hPowers :
      2 ^ (j + k.toNat + den.log2) <
        2 ^ (num.log2 + 1 + (-k).toNat) := by
    rw [Nat.pow_add, Nat.pow_add, Nat.pow_add 2 (num.log2 + 1)]
    calc
      2 ^ j * 2 ^ k.toNat * 2 ^ den.log2
          ≤ 2 ^ j * 2 ^ k.toNat * den := Nat.mul_le_mul_left _ hLow
      _ ≤ num * 2 ^ (-k).toNat := hSize
      _ < 2 ^ (num.log2 + 1) * 2 ^ (-k).toNat :=
          Nat.mul_lt_mul_of_pos_right hHigh (Nat.two_pow_pos _)
  have hExponents := (Nat.pow_lt_pow_iff_right (by decide)).mp hPowers
  omega

/- The bits of a quotient that is small enough. -/
theorem log2_sub_le
    (hNum : 0 < num)
    (hDen : 0 < den)
    (hMantissa : mantissaAt num den k < twoPow j) :
    (num.log2 : Int) - den.log2 ≤ j + k := by
  have hSize :=
    Nat.lt_of_not_le
      (mt (le_mantissaAt_iff hDen k).mpr (Nat.not_le.mpr hMantissa))
  have hLow : 2 ^ num.log2 ≤ num := Nat.log2_self_le (by omega)
  have hHigh : den < 2 ^ (den.log2 + 1) := Nat.lt_log2_self
  have hPowers :
      2 ^ (num.log2 + (-k).toNat) <
        2 ^ (j + k.toNat + (den.log2 + 1)) := by
    rw [Nat.pow_add, Nat.pow_add 2 (j + k.toNat), Nat.pow_add 2 j]
    calc
      2 ^ num.log2 * 2 ^ (-k).toNat
          ≤ num * 2 ^ (-k).toNat := Nat.mul_le_mul_right _ hLow
      _ < 2 ^ j * 2 ^ k.toNat * den := hSize
      _ ≤ 2 ^ j * 2 ^ k.toNat * 2 ^ (den.log2 + 1) :=
          Nat.mul_le_mul_left _ (Nat.le_of_lt hHigh)
  have hExponents := (Nat.pow_lt_pow_iff_right (by decide)).mp hPowers
  omega

------------------------------------------------------------
-- The exponent
------------------------------------------------------------

/-
  At the exponent of a quotient its mantissa has 53 bits, or fewer
  at the lowest exponent.
-/
theorem exponentOf_spec
    (hNum : 0 < num)
    (hDen : 0 < den) :
    -1074 ≤ exponentOf num den ∧
      mantissaAt num den (exponentOf num den) < twoPow 53 ∧
      (twoPow 52 ≤ mantissaAt num den (exponentOf num den) ∨
        exponentOf num den = -1074) := by
  have hUnfold :
      exponentOf num den =
        let estimate :=
          max ((num.log2 : Int) - den.log2 - 53) (-1074)
        if twoPow 53 ≤ mantissaAt num den estimate then
          estimate + 1
        else
          estimate :=
    rfl
  rw [hUnfold]
  extract_lets estimate
  have hEstimate :
      -1074 ≤ estimate ∧
        (num.log2 : Int) - den.log2 - 53 ≤ estimate ∧
        (estimate = (num.log2 : Int) - den.log2 - 53 ∨
          estimate = -1074) := by
    omega
  rcases hEstimate with ⟨hLowest, hBits, hWhich⟩
  split
  · rename_i hHigh
    -- the mantissa of the estimate has a bit too many
    refine ⟨by omega, ?_, .inl ?_⟩
    · rw [← Nat.not_le]
      intro hLarge
      have := le_log2_sub hDen hLarge
      omega
    · exact (le_mantissaAt_succ_iff hDen).mpr hHigh
  · rename_i hHigh
    refine ⟨hLowest, Nat.lt_of_not_le hHigh, ?_⟩
    rcases hWhich with hExact | hFloor
    · left
      rw [← Nat.not_lt]
      intro hSmall
      have := log2_sub_le hNum hDen hSmall
      omega
    · exact .inr hFloor

/- A quotient with a place in the format has its exponent there. -/
theorem exponentOf_eq
    (hNum : 0 < num)
    (hDen : 0 < den)
    (hCanonical : Canonical m k)
    (hMantissa : mantissaAt num den k = m) :
    exponentOf num den = k := by
  rcases hCanonical with ⟨hBelow, hLowest, -, hFull⟩
  rcases exponentOf_spec hNum hDen with ⟨hFloor, hSmall, hLarge⟩
  generalize exponentOf num den = l at hFloor hSmall hLarge ⊢
  have hDouble : twoPow 53 = 2 * twoPow 52 := rfl
  rcases Int.lt_trichotomy l k with hLess | hEq | hMore
  · have hFits : twoPow 52 ≤ mantissaAt num den k := by omega
    have := two_mul_le_mantissaAt hDen hLess hFits
    omega
  · exact hEq
  · have hFits : twoPow 52 ≤ mantissaAt num den l := by omega
    have := two_mul_le_mantissaAt hDen hMore hFits
    omega

------------------------------------------------------------
-- Nearest numbers
------------------------------------------------------------

/- A number of the format is nearest to itself. -/
theorem ofRatio_eq_finite
    (negative : Bool)
    (hCanonical : Canonical m k)
    (hDen : 0 < den)
    (hPositive : 0 < m)
    (hValue :
      num * twoPow (-k).toNat = m * twoPow k.toNat * den) :
    ofRatio negative num den = finite negative m k hCanonical := by
  have hNum : 0 < num := by
    rw [← Nat.not_le, Nat.le_zero]
    rintro rfl
    have hProduct : 0 < m * twoPow k.toNat * den :=
      Nat.mul_pos (Nat.mul_pos hPositive (Nat.two_pow_pos _)) hDen
    omega
  have hUnits : 0 < (scaled num den k).2 := scaled_snd_pos hDen k
  have hFirst := scaled_fst_eq hValue
  have hMantissa : mantissaAt num den k = m := by
    rw [mantissaAt, hFirst, Nat.mul_div_cancel m hUnits]
  have hExponent := exponentOf_eq hNum hDen hCanonical hMantissa
  have hPair : nearestPair num den = (m, k) := by
    unfold nearestPair
    dsimp only
    rw [hExponent, hFirst, nearest_mul_self hUnits,
      if_neg (Nat.ne_of_lt hCanonical.1)]
  have hEither : num ≠ 0 := by omega
  unfold ofRatio
  rw [if_neg hEither, hPair]
  exact dif_pos hCanonical

/- The exponent of a quotient that is not too large. -/
theorem exponentOf_lt
    (hNum : 0 < num)
    (hDen : 0 < den)
    (hBits : j ≤ 1000)
    (hBound : num < twoPow j * den) :
    exponentOf num den < 971 := by
  rcases exponentOf_spec hNum hDen with ⟨-, -, hLarge | hLowest⟩
  · have hFew : mantissaAt num den 0 < twoPow j := by
      rw [← Nat.not_le, le_mantissaAt_iff hDen]
      change ¬ twoPow j * 1 * den ≤ num * 1
      rw [Nat.mul_one, Nat.mul_one]
      omega
    have hLeast := le_log2_sub hDen hLarge
    have hMost := log2_sub_le hNum hDen hFew
    omega
  · omega

/- Rounding keeps the mantissa in the format, or moves it up. -/
theorem canonical_nearestPair
    (hNum : 0 < num)
    (hDen : 0 < den)
    (hHigh : exponentOf num den < 971) :
    Canonical (nearestPair num den).1 (nearestPair num den).2 := by
  rcases exponentOf_spec hNum hDen with ⟨hFloor, hSmall, hLarge⟩
  have hNear :=
    nearest_eq_or (scaled num den (exponentOf num den)).1
      (scaled num den (exponentOf num den)).2
  change _ = mantissaAt num den _ ∨ _ = mantissaAt num den _ + 1
    at hNear
  unfold nearestPair
  dsimp only
  split
  · have hFull : twoPow 52 < twoPow 53 := by decide
    exact ⟨hFull, by omega, by omega, .inl (Nat.le_refl _)⟩
  · exact ⟨by omega, hFloor, by omega, by omega⟩

/- A quotient that is not too large has a finite nearest number. -/
theorem isFinite_ofRatio
    (negative : Bool)
    (hDen : 0 < den)
    (hBits : j ≤ 1000)
    (hBound : num < twoPow j * den) :
    (ofRatio negative num den).isFinite = true := by
  unfold ofRatio
  split
  · rfl
  · rename_i hNonzero
    have hNum : 0 < num := by omega
    have hCanonical :=
      canonical_nearestPair hNum hDen
        (exponentOf_lt hNum hDen hBits hBound)
    dsimp only
    rw [dif_pos hCanonical]
    rfl

end Binary64

end RecordRules
