import RecordRules.Proofs.Amount.NumberText

/-
  The layouts of numbers, as the parts of their texts.

  Main declarations:
    * `NumberText.pointed`, digits with a point among them
    * `NumberText.ofInt` and `NumberText.ofFixed`
    * `NumberText.LaysOut`, parts of the shortest text of a decimal
    * `NumberText.exists_laysOut`
-/

namespace RecordRules

open Text Numeric

------------------------------------------------------------
-- Digits
------------------------------------------------------------

namespace Numeric

/- Three digits or fewer make no groups. -/
theorem groupedIf_short
    (groups : Bool)
    {digits : List Char}
    (hShort : digits.length ≤ 3) :
    groupedIf groups digits = digits := by
  cases groups with
  | false => rfl
  | true =>
      have hSame : groupReversed digits.reverse = digits.reverse := by
        rw [groupReversed]
        intro a b c d rest hEq
        have hLength := congrArg List.length hEq
        simp only [List.length_reverse, List.length_cons] at hLength
        omega
      rw [groupedIf, if_pos rfl, grouped, hSame, List.reverse_reverse]

theorem le_length_paddedDigits
    (width n : Nat) :
    width ≤ (paddedDigits width n).length := by
  simp only [paddedDigits, List.length_append, List.length_replicate]
  omega

end Numeric

namespace NumberText

------------------------------------------------------------
-- Digits with a point
------------------------------------------------------------

section Pointed

variable
  (negative : Bool)
  {digits : List Char}
  (hDigits : IsNumeral digits)
  {point : Nat}
  (hPoint : 0 < point)
  (exponent : Option Int)

/- Digits with a point after the first few of them. -/
def pointed : NumberText :=
  { negative := negative
    whole := digits.take point
    fraction := digits.drop point
    exponent := exponent
    isNumeral_whole := hDigits.take hPoint
    isDigit_fraction := fun c hMember =>
      hDigits.2 c (List.mem_of_mem_drop hMember) }

/- A point takes as many powers of ten as digits follow it. -/
theorem pointed_decimal :
    (pointed negative hDigits hPoint exponent).decimal =
      ⟨negative, numeralValue digits,
        exponent.getD 0 - (digits.length - point : Nat)⟩ := by
  simp only [decimal, pointed, List.take_append_drop, List.length_drop]

/- A point after the last digit is left out. -/
theorem pointed_text_of_le
    (hAll : digits.length ≤ point)
    (groups : Bool) :
    (pointed negative hDigits hPoint none).text groups =
      Binary64.signed negative (groupedIf groups digits) := by
  have hWhole : digits.take point = digits :=
    List.take_of_length_le hAll
  have hNone : digits.drop point = [] := List.drop_eq_nil_of_le hAll
  simp [text, body, rest, exponentPart, pointed, hWhole, hNone]

theorem pointed_text_of_lt
    (hSome : point < digits.length)
    (groups : Bool) :
    (pointed negative hDigits hPoint none).text groups =
      Binary64.signed negative
        (groupedIf groups (digits.take point) ++
          '.' :: digits.drop point) := by
  have hFraction : (digits.drop point).isEmpty = false := by
    rw [List.isEmpty_eq_false_iff, Ne, List.drop_eq_nil_iff]
    omega
  simp [text, body, rest, exponentPart, pointed, hFraction]

end Pointed

------------------------------------------------------------
-- Integers
------------------------------------------------------------

/- The parts of the text of an integer. -/
def ofInt (n : Int) : NumberText :=
  pointed (decide (n < 0)) (natDigits_isNumeral n.natAbs)
    (List.length_pos_iff.mpr (natDigits_isNumeral n.natAbs).1) none

theorem ofInt_text
    (groups : Bool)
    (n : Int) :
    (ofInt n).text groups = intText groups n := by
  rw [ofInt, pointed_text_of_le _ _ _ (Nat.le_refl _), intText,
    Binary64.signed]
  simp only [decide_eq_true_eq]

theorem ofInt_decimal
    (n : Int) :
    (ofInt n).decimal = ⟨decide (n < 0), n.natAbs, 0⟩ := by
  rw [ofInt, pointed_decimal, numeralValue_natDigits, Nat.sub_self]
  rfl

------------------------------------------------------------
-- Fixed decimals
------------------------------------------------------------

/- The digits of a coefficient with some of them after the point. -/
def ofFixed
    (negative : Bool)
    (decimals coefficient : Nat) : NumberText :=
  have hLength := le_length_paddedDigits (decimals + 1) coefficient
  pointed negative (paddedDigits_isNumeral (decimals + 1) coefficient)
    (Nat.sub_pos_of_lt hLength) none

theorem ofFixed_text
    (groups negative : Bool)
    (decimals num den : Nat) :
    (ofFixed negative decimals
        (nearest (num * tenPow decimals) den)).text groups =
      Binary64.signed negative
        (fixedLayout groups decimals num den) := by
  have hLength :=
    le_length_paddedDigits (decimals + 1)
      (nearest (num * tenPow decimals) den)
  rw [ofFixed, fixedLayout]
  rcases Nat.eq_zero_or_pos decimals with rfl | hSome
  · rw [pointed_text_of_le _ _ _ (by omega)]
    simp
  · rw [pointed_text_of_lt _ _ _ (by omega)]
    simp only [if_neg (Nat.ne_of_gt hSome)]

theorem ofFixed_decimal
    (negative : Bool)
    (decimals coefficient : Nat) :
    (ofFixed negative decimals coefficient).decimal =
      ⟨negative, coefficient, -decimals⟩ := by
  have hLength := le_length_paddedDigits (decimals + 1) coefficient
  rw [ofFixed, pointed_decimal, numeralValue_paddedDigits,
    Nat.sub_sub_self (by omega)]
  exact congrArg (Decimal.mk negative coefficient) (Int.zero_sub _)

------------------------------------------------------------
-- Shortest texts
------------------------------------------------------------

section Layout

variable
  (negative : Bool)
  (coefficient : Nat)
  (place : Int)

/-
  The parts of the shortest text of a decimal, in groups and without
  them. A whole decimal has a zero after its point, which the parts
  count as one of its digits.
-/
structure LaysOut (t : NumberText) : Prop where
  decimal :
    t.decimal = ⟨negative, coefficient, place⟩ ∨
      0 ≤ place ∧
        t.decimal =
          ⟨negative, coefficient * tenPow (place.toNat + 1), -1⟩
  text :
    ∀ groups,
      t.text groups =
        Binary64.signed negative (layout groups coefficient place)

/- A decimal that is too large or too small for plain digits. -/
def NeedsExponent : Prop :=
  ((natDigits coefficient).length : Int) + place ≤ -widestZeros ∨
    widestPoint < (natDigits coefficient).length + place

variable {coefficient place}

/- A number far from one is written with an exponent. -/
theorem exists_laysOut_exponent
    (hFar : NeedsExponent coefficient place) :
    ∃ t, LaysOut negative coefficient place t := by
  have hDigits := natDigits_isNumeral coefficient
  have hSome := List.length_pos_iff.mpr hDigits.1
  refine
    ⟨pointed negative hDigits Nat.one_pos
      (some ((natDigits coefficient).length + place - 1)),
      .inl ?_, fun groups => ?_⟩
  · have hExponent :
        ((natDigits coefficient).length : Int) + place - 1 -
            ((natDigits coefficient).length - 1 : Nat) =
          place := by
      omega
    rw [pointed_decimal, numeralValue_natDigits, Option.getD_some,
      hExponent]
  · have hShort : ((natDigits coefficient).take 1).length ≤ 3 := by
      rw [List.length_take]
      omega
    rw [NeedsExponent] at hFar
    rw [NumberText.text, body, rest, exponentPart, layout]
    simp only [pointed, if_pos hFar, groupedIf_short groups hShort,
      Option.map_some, Option.getD_some, List.append_assoc]
    rfl

/- A small number is written with zeros after the point. -/
theorem exists_laysOut_small
    (hNear : ¬ NeedsExponent coefficient place)
    (hPoint : ((natDigits coefficient).length : Int) + place ≤ 0) :
    ∃ t, LaysOut negative coefficient place t := by
  have hDigits := natDigits_isNumeral coefficient
  have hSome := List.length_pos_iff.mpr hDigits.1
  let zeros := (-((natDigits coefficient).length + place)).toNat
  refine
    ⟨pointed negative (hDigits.zeros_append (zeros + 1)) Nat.one_pos
      none, .inl ?_, fun groups => ?_⟩
  · have hExponent :
        0 - ((zeros + 1 + (natDigits coefficient).length - 1 : Nat) :
            Int) =
          place := by
      omega
    rw [pointed_decimal, numeralValue_zeros_append,
      numeralValue_natDigits, List.length_append,
      List.length_replicate, Option.getD_none, hExponent]
  · have hShort : ['0'].length ≤ 3 := by decide
    rw [NeedsExponent] at hNear
    rw [pointed_text_of_lt, layout, if_neg hNear, if_pos hPoint]
    · exact congrArg
        (fun lead => Binary64.signed negative (lead ++ _))
        (groupedIf_short groups hShort)
    · rw [List.length_append, List.length_replicate]
      omega

/- In the middle range the digits stand around the point. -/
theorem layout_of_pos
    (groups : Bool)
    {point : Nat}
    (hNear : ¬ NeedsExponent coefficient place)
    (hPositive : 0 < point)
    (hPoint : ((natDigits coefficient).length : Int) + place = point) :
    layout groups coefficient place =
      groupedIf groups
          ((natDigits coefficient).take point ++
            List.replicate
              (point - (natDigits coefficient).length) '0') ++
        '.' ::
          (if ((natDigits coefficient).drop point).isEmpty then
            ['0']
          else
            (natDigits coefficient).drop point) := by
  have hAbove : ¬ (point : Int) ≤ 0 := by omega
  rw [NeedsExponent, hPoint] at hNear
  rw [layout]
  simp only [hPoint, if_neg hNear, if_neg hAbove, Int.toNat_natCast]

/- A large number may have some of its digits after the point. -/
theorem exists_laysOut_among
    (hNear : ¬ NeedsExponent coefficient place)
    (hPoint : 0 < ((natDigits coefficient).length : Int) + place)
    (hPlace : place < 0) :
    ∃ t, LaysOut negative coefficient place t := by
  have hDigits := natDigits_isNumeral coefficient
  rcases Int.eq_ofNat_of_zero_le (Int.le_of_lt hPoint) with
    ⟨point, hEq⟩
  have hPositive : 0 < point := by omega
  have hSome : point < (natDigits coefficient).length := by omega
  refine
    ⟨pointed negative hDigits hPositive none, .inl ?_, fun groups => ?_⟩
  · have hExponent :
        0 - (((natDigits coefficient).length - point : Nat) : Int) =
          place := by
      omega
    rw [pointed_decimal, numeralValue_natDigits, Option.getD_none,
      hExponent]
  · have hFraction :
        ((natDigits coefficient).drop point).isEmpty = false := by
      rw [List.isEmpty_eq_false_iff, Ne, List.drop_eq_nil_iff]
      omega
    have hFilled : point - (natDigits coefficient).length = 0 := by
      omega
    rw [pointed_text_of_lt _ _ _ hSome,
      layout_of_pos groups hNear hPositive hEq, hFraction, hFilled,
      List.replicate_zero, List.append_nil,
      if_neg Bool.false_ne_true]

/- A number that is whole has a zero after the point. -/
theorem exists_laysOut_whole
    (hNear : ¬ NeedsExponent coefficient place)
    (hPlace : 0 ≤ place) :
    ∃ t, LaysOut negative coefficient place t := by
  have hDigits := natDigits_isNumeral coefficient
  have hSome := List.length_pos_iff.mpr hDigits.1
  let point := (natDigits coefficient).length + place.toNat
  have hPositive : 0 < point := by omega
  have hEq :
      ((natDigits coefficient).length : Int) + place = point := by
    omega
  have hLength :
      (natDigits coefficient ++
          List.replicate (place.toNat + 1) '0').length =
        point + 1 := by
    rw [List.length_append, List.length_replicate]
    omega
  refine
    ⟨pointed negative (hDigits.append_zeros (place.toNat + 1)) hPositive
      none, .inr ⟨hPlace, ?_⟩, fun groups => ?_⟩
  · rw [pointed_decimal, numeralValue_append_zeros,
      numeralValue_natDigits, hLength, Nat.add_sub_cancel_left]
    rfl
  · have hFilled :
        point - (natDigits coefficient).length = place.toNat := by
      omega
    have hWhole :
        (natDigits coefficient).take point = natDigits coefficient :=
      List.take_of_length_le (by omega)
    have hNone : (natDigits coefficient).drop point = [] :=
      List.drop_eq_nil_of_le (by omega)
    have hParts :
        natDigits coefficient ++
            List.replicate (place.toNat + 1) '0' =
          (natDigits coefficient ++ List.replicate place.toNat '0') ++
            ['0'] := by
      rw [List.replicate_succ', List.append_assoc]
    have hZeros :
        (natDigits coefficient ++
            List.replicate place.toNat '0').length =
          point := by
      rw [List.length_append, List.length_replicate]
    rw [pointed_text_of_lt _ _ _ (by omega),
      layout_of_pos groups hNear hPositive hEq, hFilled, hWhole, hNone,
      hParts, List.take_left' hZeros, List.drop_left' hZeros]
    rfl

variable (coefficient place)

/- The shortest text of a decimal is the text of some parts. -/
theorem exists_laysOut :
    ∃ t, LaysOut negative coefficient place t := by
  by_cases hFar : NeedsExponent coefficient place
  · exact exists_laysOut_exponent negative hFar
  by_cases hPoint :
      ((natDigits coefficient).length : Int) + place ≤ 0
  · exact exists_laysOut_small negative hFar hPoint
  by_cases hPlace : place < 0
  · exact exists_laysOut_among negative hFar (by omega) hPlace
  · exact exists_laysOut_whole negative hFar (by omega)

end Layout

end NumberText

end RecordRules
