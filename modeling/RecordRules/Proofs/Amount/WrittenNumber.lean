import RecordRules.Proofs.Amount.Layout
import RecordRules.Proofs.Format.Usable
import RecordRules.Proofs.Numeric.ShortestDecimal

/-
  Numbers in a format, and the numbers that are read back.

  Main declarations:
    * `Decimal.Means`, decimals that stand for a number
    * `NumberText.ofInt_means` and `NumberText.ofFixed_means`
    * `NumberFormat.exists_body`
    * `NumberFormat.parse_render`
-/

namespace RecordRules

open Text Numeric

------------------------------------------------------------
-- Numbers that read back
------------------------------------------------------------

namespace Binary64

variable {negative : Bool} {mantissa : Nat} {exponent : Int}
  {canonical : Canonical mantissa exponent}

theorem compare?_self :
    (finite negative mantissa exponent canonical).compare?
        (finite negative mantissa exponent canonical) =
      some .eq := by
  simp [compare?, compareUnits?]

/- Zero equals zero, whatever the signs are. -/
theorem compare?_signedZero
    (other : Bool)
    (hZero : mantissa = 0) :
    (signedZero other).compare?
        (finite negative mantissa exponent canonical) =
      some .eq := by
  subst hZero
  cases other <;> cases negative <;>
    simp [signedZero, compare?, compareUnits?, unitsOf]

/- The size of a whole number. -/
def wholeSize (mantissa : Nat) (exponent : Int) : Nat :=
  mantissa * twoPow exponent.toNat / twoPow (-exponent).toNat

/- A whole number is its size exactly. -/
theorem wholeSize_mul
    (hWhole :
      (finite negative mantissa exponent canonical).isWhole = true) :
    wholeSize mantissa exponent * twoPow (-exponent).toNat =
      mantissa * twoPow exponent.toNat := by
  have hDivides : twoPow (-exponent).toNat ∣ mantissa :=
    Nat.dvd_of_mod_eq_zero (eq_of_beq hWhole)
  exact Nat.div_mul_cancel (Nat.dvd_mul_right_of_dvd hDivides _)

end Binary64

/- A decimal stands for a number that is finite and equal to it. -/
structure Decimal.Means (d : Decimal) (x : Binary64) : Prop where
  finite : d.toBinary64.isFinite = true
  whole :
    x.isWhole = true → d.toBinary64.compare? x = some .eq

namespace Decimal

variable {d : Decimal} {negative : Bool} {mantissa : Nat}
  {exponent : Int} {canonical : Binary64.Canonical mantissa exponent}

/- A decimal of the size and the sign of a whole number. -/
theorem means_of_whole
    (hWhole :
      (Binary64.finite negative mantissa exponent canonical).isWhole =
        true)
    (hValue :
      d.coefficient * tenPow d.exponent.toNat =
        Binary64.wholeSize mantissa exponent *
          tenPow (-d.exponent).toNat)
    (hSign : 0 < mantissa → d.negative = negative) :
    d.Means (.finite negative mantissa exponent canonical) := by
  have hSize := Binary64.wholeSize_mul hWhole
  rcases Nat.eq_zero_or_pos mantissa with hZero | hPositive
  · have hNone : Binary64.wholeSize mantissa exponent = 0 := by
      rw [Binary64.wholeSize, hZero, Nat.zero_mul, Nat.zero_div]
    have hTen : 0 < tenPow d.exponent.toNat := Nat.pow_pos (by decide)
    have hCoefficient : d.coefficient = 0 := by
      rw [hNone, Nat.zero_mul] at hValue
      exact (Nat.mul_eq_zero.mp hValue).resolve_right (by omega)
    have hSame : d.toBinary64 = .signedZero d.negative := by
      rw [toBinary64, if_pos (.inl hCoefficient)]
    refine ⟨?_, fun _ => ?_⟩
    · rw [hSame]
      rfl
    · rw [hSame]
      exact Binary64.compare?_signedZero _ hZero
  · have hEquals : d.Equals mantissa exponent := by
      rw [Equals, hValue, Nat.mul_right_comm, hSize]
    have hSame := toBinary64_eq_finite hEquals canonical hPositive
    rw [hSign hPositive] at hSame
    refine ⟨?_, fun _ => ?_⟩
    · rw [hSame]
      rfl
    · rw [hSame]
      exact Binary64.compare?_self

/- A decimal that is not too large, for a number that is not whole. -/
theorem means_of_lt
    {x : Binary64}
    (hPart : x.isWhole = false)
    (hBound :
      d.coefficient * tenPow d.exponent.toNat <
        twoPow 54 * tenPow (-d.exponent).toNat) :
    d.Means x where
  finite := isFinite_toBinary64 (by decide) hBound
  whole := by
    intro hWhole
    rw [hPart] at hWhole
    cases hWhole

end Decimal

namespace NumberText

variable {negative : Bool} {mantissa : Nat} {exponent : Int}
  {canonical : Binary64.Canonical mantissa exponent}

/- The exponent of a number that is not whole. -/
theorem exponent_neg
    (hPart :
      (Binary64.finite negative mantissa exponent canonical).isWhole =
        false) :
    exponent < 0 := by
  rw [← Int.not_le]
  intro hUp
  have hUnit : (-exponent).toNat = 0 := by omega
  rw [Binary64.isWhole, hUnit] at hPart
  change (mantissa % 1 == 0) = false at hPart
  rw [Nat.mod_one] at hPart
  cases hPart

/- The integer part of a whole number stands for it. -/
theorem ofInt_means
    (hWhole :
      (Binary64.finite negative mantissa exponent canonical).isWhole =
        true) :
    (ofInt (Binary64.finite negative mantissa exponent
        canonical).truncate).decimal.Means
      (.finite negative mantissa exponent canonical) := by
  have hTruncate :
      (Binary64.finite negative mantissa exponent canonical).truncate =
        if negative then
          -(Binary64.wholeSize mantissa exponent : Int)
        else
          Binary64.wholeSize mantissa exponent :=
    rfl
  have hSize := Binary64.wholeSize_mul hWhole
  rw [ofInt_decimal]
  refine Decimal.means_of_whole hWhole ?_ ?_
  · rw [hTruncate]
    dsimp only
    split <;> simp
  · intro hPositive
    have hUnits : 0 < mantissa * twoPow exponent.toNat :=
      Nat.mul_pos hPositive (Nat.two_pow_pos _)
    have hSome : 0 < Binary64.wholeSize mantissa exponent := by
      rw [← hSize] at hUnits
      exact Nat.pos_of_mul_pos_right hUnits
    rw [hTruncate]
    cases negative with
    | true => simp [hSome]
    | false => simp

/- A text with fixed decimals stands for a whole number exactly. -/
theorem ofFixed_means
    (decimals : Nat) :
    (ofFixed negative decimals
        (nearest (mantissa * twoPow exponent.toNat * tenPow decimals)
          (twoPow (-exponent).toNat))).decimal.Means
      (.finite negative mantissa exponent canonical) := by
  have hUp : (-(decimals : Int)).toNat = 0 := by omega
  have hDown : (- -(decimals : Int)).toNat = decimals := by omega
  have hUnit : 0 < twoPow (-exponent).toNat := Nat.two_pow_pos _
  rw [ofFixed_decimal]
  cases hWhole :
      (Binary64.finite negative mantissa exponent canonical).isWhole with
  | true =>
      have hSize := Binary64.wholeSize_mul hWhole
      refine Decimal.means_of_whole hWhole ?_ fun _ => rfl
      dsimp only
      rw [← hSize, Nat.mul_right_comm, nearest_mul_self hUnit, hUp,
        hDown]
      exact Nat.mul_one _
  | false =>
      have hNegative := exponent_neg hWhole
      have hNone : exponent.toNat = 0 := by omega
      have hTen : 0 < tenPow decimals := Nat.pow_pos (by decide)
      refine Decimal.means_of_lt hWhole ?_
      have hBelow : mantissa + 1 ≤ twoPow 53 := canonical.1
      have hHalf : twoPow 53 * tenPow decimals <
          twoPow 54 * tenPow decimals :=
        Nat.mul_lt_mul_of_pos_right (by decide) hTen
      have hFloor :=
        Nat.div_le_self (mantissa * tenPow decimals)
          (twoPow (-exponent).toNat)
      have hMost := Nat.mul_le_mul_right (tenPow decimals) hBelow
      rw [Nat.add_mul] at hMost
      have hUnits : mantissa * twoPow 0 = mantissa := Nat.mul_one _
      dsimp only
      rw [hUp, hDown, hNone, hUnits]
      change _ * 1 < _
      rcases nearest_eq_or (mantissa * tenPow decimals)
          (twoPow (-exponent).toNat) with hEq | hEq
      · rw [hEq]
        omega
      · rw [hEq]
        omega

/- The shortest text of a number that is not whole. -/
theorem exists_shortText
    (hPart :
      (Binary64.finite negative mantissa exponent canonical).isWhole =
        false) :
    ∃ t : NumberText,
      t.decimal.Means (.finite negative mantissa exponent canonical) ∧
      ∀ groups,
        (Binary64.finite negative mantissa exponent
            canonical).shortText groups =
          t.text groups := by
  have hNegative := exponent_neg hPart
  have hSome : mantissa ≠ 0 := by
    rintro rfl
    rw [Binary64.isWhole, Nat.zero_mod] at hPart
    cases hPart
  have hBound := shortestDecimal_lt canonical.1 (Int.le_of_lt hNegative)
  rcases exists_laysOut negative
      (shortestDecimal mantissa exponent).1
      (shortestDecimal mantissa exponent).2 with
    ⟨t, hDecimal, hText⟩
  refine ⟨t, Decimal.means_of_lt hPart ?_, fun groups => ?_⟩
  · rcases hDecimal with hDecimal | ⟨hPlace, hDecimal⟩
    · rw [hDecimal]
      exact hBound
    · have hUp : (-(shortestDecimal mantissa exponent).2).toNat = 0 := by
        omega
      rw [hUp] at hBound
      rw [hDecimal]
      change _ * (_ * 10) * 1 < _ * 10
      rw [Nat.mul_one, ← Nat.mul_assoc]
      exact Nat.mul_lt_mul_of_pos_right hBound (by decide)
  · rw [hText, Binary64.shortText, if_neg hSome]

end NumberText

namespace NumberFormat

open NumberText

variable {format : NumberFormat} {x : Binary64}

/- A finite number is written as a text of its value. -/
theorem exists_body
    (hUsable : format.IsUsable)
    (hFinite : x.isFinite = true) :
    ∃ t : NumberText,
      t.decimal.Means x ∧
      ∀ groups,
        { format with groups := groups }.body x =
          .ok (t.text groups) := by
  cases x with
  | nan | infinite negative => cases hFinite
  | finite negative mantissa exponent canonical =>
      unfold body
      cases hDecimals : format.decimals with
      | some decimals =>
          rcases hUsable decimals hDecimals with ⟨hLow, hHigh⟩
          refine ⟨_, ofFixed_means decimals.toNat, fun groups => ?_⟩
          dsimp only
          rw [decimalCount_eq hLow hHigh, ofFixed_text]
          rfl
      | none =>
          cases hWhole :
              (Binary64.finite negative mantissa exponent
                canonical).isWhole with
          | true =>
              refine ⟨_, ofInt_means hWhole, fun groups => ?_⟩
              rw [ofInt_text]
              rfl
          | false =>
              rcases exists_shortText hWhole with ⟨t, hMeans, hText⟩
              refine ⟨t, hMeans, fun groups => ?_⟩
              rw [← hText groups]
              rfl

/-
  A finite number in a format with one currency mark at most reads
  back as the same number with groups and without them, and a whole
  number reads back as itself.
-/
theorem parse_render
    (hMonetary : format.IsMonetary)
    (hUsable : format.IsUsable)
    (hFinite : x.isFinite = true) :
    ∃ y,
      (∀ groups, ∃ text,
        { format with groups := groups }.render x = .ok text ∧
        Amount.parse (.text (String.ofList text)) = .ok (some y)) ∧
      (x.isWhole = true → y.compare? x = some .eq) := by
  rcases exists_body hUsable hFinite with ⟨t, hMeans, hBody⟩
  refine ⟨t.decimal.toBinary64, fun groups => ?_, hMeans.whole⟩
  have hRead :
      Amount.read? (format.affixed (t.text groups)) =
        some t.decimal.toBinary64 := by
    rw [t.read?_affixed hMonetary, Amount.finite?,
      if_pos hMeans.finite]
  refine ⟨format.affixed (t.text groups), ?_, ?_⟩
  · rw [render, hBody groups]
    rfl
  · have hParse (s : String) :
        Amount.parse (.text s) = .ok (Amount.read? s.toList) :=
      rfl
    rw [hParse, String.toList_ofList, hRead]

/- A negative amount in dollars is read back from its text. -/
theorem dollars_are_read_back :
    ∃ y,
      NumberFormat.render
          { decimals := some 2, groups := true, lead := some "$" }
          (.ofInt (-1234567)) =
        .ok "$-1,234,567.00".toList ∧
      Amount.parse (.text "$-1,234,567.00") = .ok (some y) ∧
      y.compare? (.ofInt (-1234567)) = some .eq := by
  let format : NumberFormat :=
    { decimals := some 2, lead := some "$" }
  let x : Binary64 := .ofInt (-1234567)
  have hMonetary : format.IsMonetary :=
    .lead "$" "" (by decide) (.inl rfl) rfl rfl
  have hUsable : format.IsUsable := by
    intro decimals hMember
    cases hMember
    decide
  have hFinite : x.isFinite = true := by decide +kernel
  have hWhole : x.isWhole = true := by decide +kernel
  rcases parse_render hMonetary hUsable hFinite with
    ⟨y, hRead, hSame⟩
  rcases hRead true with ⟨text, hText, hParse⟩
  have hRender :
      { format with groups := true }.render x =
        .ok "$-1,234,567.00".toList := by
    have hCount : decimalCount 2 = .ok 2 :=
      decimalCount_eq (by decide) (by decide)
    have hBody :
        x.fixedText true 2 = "-1,234,567.00".toList := by
      decide +kernel
    rw [render, body]
    simp only [format, hCount]
    exact congrArg (fun cs => Except.ok ('$' :: (cs ++ []))) hBody
  cases hRender.symm.trans hText
  exact ⟨y, hRender, hParse, hSame hWhole⟩

end NumberFormat

end RecordRules
