import Mathlib.Data.Nat.Dist
import Mathlib.Tactic.Ring
import RecordRules.Proofs.Numeric.NearestDecimal

/-
  The double-precision number nearest to an integer.

  Main declarations:
    * `Numeric.dist_nearest_le`, a quotient is rounded to a nearest
      natural number
    * `Binary64.dist_nearestPair_le`, and `Binary64.IsNearest`
    * `Binary64.isFinite_ofInt_iff`, the integers with a finite
      nearest number
    * `Binary64.isNearest_ofInt`
    * `Decimal.toBinary64_ofInt`, an integer and its decimal have the
      same nearest number
-/

namespace RecordRules

open Numeric Text

------------------------------------------------------------
-- Rounding
------------------------------------------------------------

theorem Numeric.twoPow_pos
    (j : Nat) :
    0 < twoPow j :=
  Nat.two_pow_pos j

theorem Numeric.twoPow_add
    (i j : Nat) :
    twoPow (i + j) = twoPow i * twoPow j :=
  Nat.pow_add 2 i j

/- No multiple is nearer than that of the rounded quotient. -/
theorem Numeric.dist_nearest_le
    {den : Nat}
    (hDen : 0 < den)
    (num j : Nat) :
    Nat.dist (nearest num den * den) num ≤ Nat.dist (j * den) num := by
  have hSplit := Nat.div_add_mod' num den
  have hRest := Nat.mod_lt num hDen
  have hSide :
      j * den ≤ num / den * den ∨
        num / den * den + den ≤ j * den := by
    rcases Nat.lt_or_ge (num / den) j with hAbove | hBelow
    · right
      have := Nat.mul_le_mul_right den hAbove
      rwa [Nat.succ_mul] at this
    · exact .inl (Nat.mul_le_mul_right den hBelow)
  have hNext : (num / den + 1) * den = num / den * den + den :=
    Nat.succ_mul _ _
  have hParity := Nat.mod_two_eq_zero_or_one (num / den)
  unfold nearest Nat.dist
  dsimp only
  split
  · omega
  · split
    · omega
    · rcases hParity with hEven | hOdd
      · rw [hEven, Nat.add_zero]
        omega
      · rw [hOdd]
        omega

namespace Binary64

variable {num den m : Nat} {k : Int}

/- A mantissa and an exponent in smallest positive numbers. -/
def sizeOf
    (mantissa : Nat)
    (exponent : Int) : Nat :=
  mantissa * twoPow (exponent + 1074).toNat

/- A quotient in units of a power of two and in smallest numbers. -/
theorem scaled_fst_mul
    (num den : Nat)
    (hLowest : -1074 ≤ k) :
    (scaled num den k).1 * (twoPow (k + 1074).toNat * den) =
      num * twoPow 1074 * (scaled num den k).2 := by
  unfold scaled
  split
  · have hUnits : (k + 1074).toNat = k.toNat + 1074 := by omega
    rw [hUnits, twoPow_add]
    generalize twoPow 1074 = unit
    ring
  · have hUnits : 1074 = (k + 1074).toNat + (-k).toNat := by omega
    have hSplit :
        twoPow 1074 =
          twoPow (k + 1074).toNat * twoPow (-k).toNat := by
      rw [← twoPow_add, ← hUnits]
    rw [hSplit]
    ring

/- Rounding up to a further bit does not change the size. -/
theorem sizeOf_nearestPair
    (hNum : 0 < num)
    (hDen : 0 < den) :
    sizeOf (nearestPair num den).1 (nearestPair num den).2 =
      sizeOf
        (Numeric.nearest (scaled num den (exponentOf num den)).1
          (scaled num den (exponentOf num den)).2)
        (exponentOf num den) := by
  have hFloor := (exponentOf_spec hNum hDen).1
  unfold nearestPair
  dsimp only
  split
  · rename_i hCarry
    have hNext :
        (exponentOf num den + 1 + 1074).toNat =
          (exponentOf num den + 1074).toNat + 1 := by
      omega
    rw [hCarry, sizeOf, sizeOf, hNext]
    change twoPow 52 * (twoPow _ * 2) = twoPow 52 * 2 * twoPow _
    ring
  · rfl

/-
  A number of the format is a multiple of the unit of a quotient, or
  smaller than any mantissa of 53 bits makes it.
-/
theorem sizeOf_cases
    (hCanonical : Canonical m k)
    (l : Int) :
    (∃ j, sizeOf m k = j * twoPow (l + 1074).toNat) ∨
      (-1074 < l ∧ sizeOf m k < twoPow 52 * twoPow (l + 1074).toNat) := by
  rcases hCanonical with ⟨hBelow, hLowest, -, -⟩
  rcases Int.lt_or_le k l with hLess | hMore
  · right
    refine ⟨by omega, ?_⟩
    have hBits :
        53 + (k + 1074).toNat ≤ 52 + (l + 1074).toNat := by
      omega
    calc
      sizeOf m k < twoPow 53 * twoPow (k + 1074).toNat :=
        Nat.mul_lt_mul_of_pos_right hBelow (twoPow_pos _)
      _ = twoPow (53 + (k + 1074).toNat) := (twoPow_add ..).symm
      _ ≤ twoPow (52 + (l + 1074).toNat) :=
        Nat.pow_le_pow_right (by decide) hBits
      _ = twoPow 52 * twoPow (l + 1074).toNat := twoPow_add ..
  · left
    have hUnits :
        (k + 1074).toNat = (k - l).toNat + (l + 1074).toNat ∨
          (l + 1074).toNat = 0 := by
      omega
    rcases hUnits with hUnits | hNone
    · refine ⟨m * twoPow (k - l).toNat, ?_⟩
      rw [sizeOf, hUnits, twoPow_add, Nat.mul_assoc]
    · exact ⟨sizeOf m k, by rw [hNone]; exact (Nat.mul_one _).symm⟩

/- No number of the format is nearer to a quotient. -/
theorem dist_nearestPair_le
    (hNum : 0 < num)
    (hDen : 0 < den)
    (hCanonical : Canonical m k) :
    Nat.dist
        (sizeOf (nearestPair num den).1 (nearestPair num den).2 * den)
        (num * twoPow 1074) ≤
      Nat.dist (sizeOf m k * den) (num * twoPow 1074) := by
  rcases exponentOf_spec hNum hDen with ⟨hFloor, -, hLarge⟩
  rw [sizeOf_nearestPair hNum hDen]
  generalize exponentOf num den = l at *
  have hUnit : 0 < (scaled num den l).2 := scaled_snd_pos hDen l
  have hScaled := scaled_fst_mul num den hFloor
  -- the multiples of the unit, against the quotient
  have hMultiple (j : Nat) :
      Nat.dist
          (sizeOf
            (Numeric.nearest (scaled num den l).1
              (scaled num den l).2) l * den)
          (num * twoPow 1074) ≤
        Nat.dist (j * twoPow (l + 1074).toNat * den)
          (num * twoPow 1074) := by
    have hNear := dist_nearest_le hUnit (scaled num den l).1 j
    apply Nat.le_of_mul_le_mul_right _ hUnit
    rw [← Nat.dist_mul_right, ← Nat.dist_mul_right, ← hScaled]
    have hMove (i : Nat) :
        i * twoPow (l + 1074).toNat * den * (scaled num den l).2 =
          i * (scaled num den l).2 *
            (twoPow (l + 1074).toNat * den) := by
      ring
    rw [sizeOf, hMove, hMove, Nat.dist_mul_right, Nat.dist_mul_right]
    exact Nat.mul_le_mul_right _ hNear
  rcases sizeOf_cases hCanonical l with ⟨j, hSize⟩ | ⟨hAbove, hSize⟩
  · rw [hSize]
    exact hMultiple j
  · -- the number lies below a multiple that the quotient reaches
    have hReached : twoPow 52 ≤ mantissaAt num den l := by
      rcases hLarge with hLarge | hLowest
      · exact hLarge
      · omega
    have hBelow :
        twoPow 52 * twoPow (l + 1074).toNat * den ≤
          num * twoPow 1074 := by
      apply Nat.le_of_mul_le_mul_right _ hUnit
      rw [← hScaled, Nat.mul_assoc (twoPow 52),
        Nat.mul_right_comm]
      exact
        Nat.mul_le_mul_right _
          ((Nat.le_div_iff_mul_le hUnit).mp hReached)
    have hLess :
        sizeOf m k * den ≤
          twoPow 52 * twoPow (l + 1074).toNat * den :=
      Nat.mul_le_mul_right _ (Nat.le_of_lt hSize)
    refine Nat.le_trans (hMultiple (twoPow 52)) ?_
    unfold Nat.dist
    omega

------------------------------------------------------------
-- Finite nearest numbers
------------------------------------------------------------

/-
  Integers of this size or more have no finite nearest number: it
  lies halfway between the largest finite one, whose mantissa is odd,
  and `2 ^ 1024`.
-/
def finiteLimit : Nat :=
  (twoPow 54 - 1) * twoPow 970

section Highest

variable {n j : Nat}

/- The mantissa of an integer at an exponent that is not negative. -/
theorem le_mantissaAt_natCast_iff :
    m ≤ mantissaAt n 1 (j : Int) ↔ m * twoPow j ≤ n := by
  have hNone : (-(j : Int)).toNat = 0 := by omega
  rw [le_mantissaAt_iff Nat.one_pos, hNone, Int.toNat_natCast,
    Nat.mul_one]
  change _ ≤ n * 1 ↔ _
  rw [Nat.mul_one]

theorem scaled_natCast : scaled n 1 (j : Int) = (n, twoPow j) := by
  rw [scaled, if_pos (Int.natCast_nonneg j), Int.toNat_natCast,
    Nat.one_mul]

/-
  Integers that are at least halfway to the next power of two have a
  mantissa that rounds to it, as the one below it is odd.
-/
theorem nearest_eq_twoPow_iff
    (hBits : n / twoPow (j + 1) < twoPow 53) :
    Numeric.nearest n (twoPow (j + 1)) = twoPow 53 ↔
      (twoPow 54 - 1) * twoPow j ≤ n := by
  have hUnit : twoPow (j + 1) = 2 * twoPow j := Nat.pow_succ'
  have hPositive : 0 < twoPow j := twoPow_pos j
  have hTop : twoPow 53 = 9007199254740992 := rfl
  have hNext : twoPow 54 = 18014398509481984 := rfl
  rw [hTop] at hBits
  rw [hUnit] at hBits ⊢
  rw [hTop, hNext]
  generalize twoPow j = u at *
  have hSplit := Nat.div_add_mod' n (2 * u)
  have hRest := Nat.mod_lt n (Nat.mul_pos Nat.two_pos hPositive)
  unfold Numeric.nearest
  dsimp only
  generalize n / (2 * u) = q at *
  generalize n % (2 * u) = r at *
  by_cases hMost : q = 9007199254740991
  · subst hMost
    split
    · omega
    · split <;> omega
  · have hLess : q + 1 ≤ 9007199254740991 := by omega
    have hFew := Nat.mul_le_mul_right (2 * u) hLess
    have hParity := Nat.mod_two_eq_zero_or_one q
    rw [Nat.succ_mul] at hFew
    split
    · omega
    · split <;> omega

/- The integers whose nearest pair has a place in the format. -/
theorem canonical_nearestPair_iff
    (hPositive : 0 < n)
    (hHighest : j = 970) :
    Canonical (nearestPair n 1).1 (nearestPair n 1).2 ↔
      n < (twoPow 54 - 1) * twoPow j := by
  rcases exponentOf_spec hPositive Nat.one_pos with
    ⟨hFloor, hSmall, hLarge⟩
  have hPair : exponentOf n 1 ≤ (nearestPair n 1).2 := by
    unfold nearestPair
    dsimp only
    split
    · dsimp only
      omega
    · exact Int.le_refl _
  rcases Int.lt_trichotomy (exponentOf n 1) (j + 1 : Nat) with
    hBelow | hEq | hAbove
  · refine iff_of_true
      (canonical_nearestPair hPositive Nat.one_pos (by omega)) ?_
    rw [← Nat.not_le]
    intro hReached
    have hFits : twoPow 53 ≤ mantissaAt n 1 j := by
      rw [le_mantissaAt_natCast_iff]
      exact
        Nat.le_trans (Nat.mul_le_mul_right _ (by decide)) hReached
    have :=
      le_mantissaAt_of_le Nat.one_pos (l := exponentOf n 1) (by omega)
        hFits
    omega
  · have hMantissa :
        mantissaAt n 1 (exponentOf n 1) = n / twoPow (j + 1) := by
      rw [mantissaAt, hEq, scaled_natCast]
    rw [hMantissa] at hSmall hLarge
    have hNear := nearest_eq_or n (twoPow (j + 1))
    have hRounded :
        nearestPair n 1 =
          if Numeric.nearest n (twoPow (j + 1)) = twoPow 53 then
            (twoPow 52, ((j + 1 : Nat) : Int) + 1)
          else
            (Numeric.nearest n (twoPow (j + 1)), ((j + 1 : Nat) : Int)) := by
      unfold nearestPair
      dsimp only
      rw [hEq, scaled_natCast]
    rw [← Nat.not_le, ← nearest_eq_twoPow_iff hSmall, hRounded]
    split
    · rename_i hCarry
      refine iff_of_false ?_ (not_not_intro hCarry)
      rintro ⟨-, -, hHigh, -⟩
      dsimp only at hHigh
      omega
    · rename_i hCarry
      refine iff_of_true ⟨?_, ?_, ?_, ?_⟩ hCarry
      all_goals
        dsimp only
        omega
  · refine iff_of_false ?_ ?_
    · rintro ⟨-, -, hHigh, -⟩
      omega
    · rw [Nat.not_lt]
      have hReached : twoPow 52 ≤ mantissaAt n 1 (exponentOf n 1) := by
        rcases hLarge with hLarge | hLowest
        · exact hLarge
        · omega
      have hFits : twoPow 52 ≤ mantissaAt n 1 (j + 2 : Nat) :=
        le_mantissaAt_of_le Nat.one_pos (by omega) hReached
      rw [le_mantissaAt_natCast_iff] at hFits
      have hUnit : twoPow (j + 2) = 4 * twoPow j := by
        change 2 ^ (j + 2) = 4 * 2 ^ j
        ring
      rw [hUnit] at hFits
      have hTop : twoPow 52 = 4503599627370496 := rfl
      have hNext : twoPow 54 = 18014398509481984 := rfl
      rw [hTop] at hFits
      rw [hNext]
      omega

end Highest

/- The integers with a finite nearest number. -/
theorem isFinite_ofInt_iff
    (n : Int) :
    (ofInt n).isFinite = true ↔ n.natAbs < finiteLimit := by
  have hLimit : 0 < finiteLimit :=
    Nat.mul_pos (by decide) (twoPow_pos 970)
  unfold ofInt ofRatio
  split
  · rename_i hZero
    exact iff_of_true rfl (by omega)
  · rename_i hNonzero
    rw [finiteLimit,
      ← canonical_nearestPair_iff (Nat.pos_of_ne_zero hNonzero) rfl]
    dsimp only
    split
    · rename_i hCanonical
      exact iff_of_true rfl hCanonical
    · rename_i hCanonical
      exact iff_of_false Bool.false_ne_true hCanonical

/- Integers that are too large have an infinite nearest number. -/
theorem ofInt_eq_infinite
    {n : Int}
    (hLarge : (ofInt n).isFinite = false) :
    ofInt n = infinite (decide (n < 0)) := by
  unfold ofInt ofRatio at hLarge ⊢
  split
  · rename_i hZero
    rw [if_pos hZero] at hLarge
    cases hLarge
  · rename_i hNonzero
    rw [if_neg hNonzero] at hLarge
    dsimp only at hLarge ⊢
    split
    · rename_i hCanonical
      rw [dif_pos hCanonical] at hLarge
      cases hLarge
    · rfl

------------------------------------------------------------
-- Nearest numbers
------------------------------------------------------------

/- A number in smallest positive numbers; only finite ones have any. -/
def units : Binary64 → Int
  | finite negative mantissa exponent _ =>
    unitsOf negative mantissa exponent
  | _ => 0

/- A number is finite, and no finite one is nearer to an integer. -/
structure IsNearest
    (x : Binary64)
    (n : Int) : Prop where
  finite : x.isFinite = true
  nearest :
    ∀ y : Binary64, y.isFinite = true →
      (x.units - n * oneUnits).natAbs ≤ (y.units - n * oneUnits).natAbs

/- The size of a number with its sign. -/
theorem unitsOf_eq
    (negative : Bool)
    (mantissa : Nat)
    (exponent : Int) :
    unitsOf negative mantissa exponent =
      if negative then
        -(sizeOf mantissa exponent : Int)
      else
        (sizeOf mantissa exponent : Int) :=
  rfl

/- The finite number that an integer gives is nearest to it. -/
theorem isNearest_ofInt
    {n : Int}
    (hFinite : (ofInt n).isFinite = true) :
    (ofInt n).IsNearest n := by
  refine ⟨hFinite, fun y hOther => ?_⟩
  cases y with
  | nan => cases hOther
  | infinite negative => cases hOther
  | finite negative m k hCanonical =>
  by_cases hZero : n.natAbs = 0
  · have hNone : n = 0 := Int.natAbs_eq_zero.mp hZero
    have hNothing : (ofInt n).units = 0 := by
      rw [ofInt, ofRatio, if_pos hZero]
      cases decide (n < 0) <;> rfl
    rw [hNothing, hNone, Int.zero_mul]
    exact Nat.zero_le _
  · have hPositive := Nat.pos_of_ne_zero hZero
    have hNear := dist_nearestPair_le hPositive Nat.one_pos hCanonical
    have hOrigin :=
      dist_nearestPair_le hPositive Nat.one_pos
        (m := 0) (k := -1074) (by decide)
    have hNothing : sizeOf 0 (-1074) = 0 := Nat.zero_mul _
    have hSize :
        (n.natAbs : Int) * oneUnits =
          (n.natAbs * twoPow 1074 : Nat) := by
      unfold oneUnits
      generalize twoPow 1074 = one
      exact (Int.natCast_mul ..).symm
    have hSign :
        n * oneUnits = if n < 0 then -((n.natAbs : Int) * oneUnits)
          else (n.natAbs : Int) * oneUnits := by
      split
      · rw [← Int.neg_mul]
        congr 1
        omega
      · congr 1
        omega
    unfold ofInt ofRatio at hFinite ⊢
    rw [if_neg hZero] at hFinite ⊢
    dsimp only at hFinite ⊢
    split at hFinite
    · rename_i hPlace
      rw [dif_pos hPlace, units, units, unitsOf_eq, unitsOf_eq, hSign,
        hSize]
      rw [hNothing] at hOrigin
      simp only [Nat.mul_one, Nat.dist, decide_eq_true_eq]
        at hNear hOrigin ⊢
      generalize sizeOf (nearestPair n.natAbs 1).1
        (nearestPair n.natAbs 1).2 = size at *
      generalize sizeOf m k = other at *
      generalize n.natAbs * twoPow 1074 = target at *
      split <;> split <;> omega
    · cases hFinite

end Binary64

------------------------------------------------------------
-- Decimals
------------------------------------------------------------

/- An integer and its decimal have the same nearest number. -/
theorem Decimal.toBinary64_ofInt
    (n : Int) :
    Decimal.toBinary64 ⟨decide (n < 0), n.natAbs, 0⟩ =
      Binary64.ofInt n := by
  unfold toBinary64
  dsimp only
  split
  · rename_i hSmall
    have hZero : n.natAbs = 0 := by
      rcases hSmall with hZero | hShort
      · exact hZero
      · omega
    rw [Binary64.ofInt, Binary64.ofRatio, if_pos hZero]
  · rename_i hSome
    split
    · rename_i hLong
      have hPositive : 0 < n.natAbs := by omega
      have hLength : 10 * 33 < (natDigits n.natAbs).length := by omega
      have hSize : tenPow (10 * 33) ≤ n.natAbs :=
        tenPow_le_of_length hPositive hLength
      have hLimit : Binary64.finiteLimit ≤ tenPow (10 * 33) :=
        calc
          Binary64.finiteLimit ≤ twoPow 54 * twoPow 970 :=
            Nat.mul_le_mul_right _ (Nat.sub_le _ _)
          _ = twoPow (54 + 970) := (twoPow_add 54 970).symm
          _ ≤ tenPow (10 * 33) := twoPow_le_tenPow (by decide)
      have hInfinite : (Binary64.ofInt n).isFinite = false := by
        rw [← Bool.not_eq_true, Binary64.isFinite_ofInt_iff]
        omega
      exact (Binary64.ofInt_eq_infinite hInfinite).symm
    · rw [Binary64.ofInt]
      change Binary64.ofRatio _ (n.natAbs * 1) 1 = _
      rw [Nat.mul_one]

end RecordRules
