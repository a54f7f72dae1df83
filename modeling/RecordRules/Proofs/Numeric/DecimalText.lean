import RecordRules.Numeric.Decimal

/-
  The texts that are read as decimals.

  Main declarations:
    * `Text.isSign` and `Text.isExponentMark`
    * `Numeric.IsExponentText`
    * `Decimal.exists_parts_of_read?`, a sign, then digits with points,
      then an exponent
-/

namespace RecordRules

open Text

------------------------------------------------------------
-- Marks
------------------------------------------------------------

namespace Text

/- A plus or a minus. -/
def isSign (c : Char) : Bool :=
  c == '+' || c == '-'

/- What stands before the exponent of a number. -/
def isExponentMark (c : Char) : Bool :=
  c == 'e' || c == 'E'

/- Digits of every script, and points. -/
def IsPointed (cs : List Char) : Prop :=
  ∀ c ∈ cs, isDecimal c = true ∨ c = '.'

section Classes

variable {p : Char → Bool} {c : Char}

/- A class of characters without the two signs. -/
theorem isSign_of_class
    (hPlus : p '+' = false)
    (hMinus : p '-' = false)
    (hClass : p c = true) :
    isSign c = false := by
  rw [isSign, Bool.or_eq_false_iff, beq_eq_false_iff_ne,
    beq_eq_false_iff_ne]
  constructor
  · rintro rfl
    rw [hPlus] at hClass
    cases hClass
  · rintro rfl
    rw [hMinus] at hClass
    cases hClass

/- A class of characters without the two marks. -/
theorem isExponentMark_of_class
    (hSmall : p 'e' = false)
    (hCapital : p 'E' = false)
    (hClass : p c = true) :
    isExponentMark c = false := by
  rw [isExponentMark, Bool.or_eq_false_iff, beq_eq_false_iff_ne,
    beq_eq_false_iff_ne]
  constructor
  · rintro rfl
    rw [hSmall] at hClass
    cases hClass
  · rintro rfl
    rw [hCapital] at hClass
    cases hClass

theorem not_isSign_of_isDecimal
    (hDigit : isDecimal c = true) :
    isSign c = false :=
  isSign_of_class (by decide) (by decide) hDigit

theorem not_isExponentMark_of_isDecimal
    (hDigit : isDecimal c = true) :
    isExponentMark c = false :=
  isExponentMark_of_class (by decide) (by decide) hDigit

theorem not_isSign_of_isBlank
    (hBlank : isBlank c = true) :
    isSign c = false :=
  isSign_of_class (by decide) (by decide) hBlank

theorem not_isExponentMark_of_isBlank
    (hBlank : isBlank c = true) :
    isExponentMark c = false :=
  isExponentMark_of_class (by decide) (by decide) hBlank

theorem not_isExponentMark_of_isSign
    (hSign : isSign c = true) :
    isExponentMark c = false :=
  isExponentMark_of_class (by decide) (by decide) hSign

end Classes

namespace IsPointed

variable {cs : List Char}

theorem not_isSign
    (hPointed : IsPointed cs) :
    ∀ c ∈ cs, isSign c = false := by
  intro c hMember
  rcases hPointed c hMember with hDigit | rfl
  · exact not_isSign_of_isDecimal hDigit
  · rfl

theorem not_isExponentMark
    (hPointed : IsPointed cs) :
    ∀ c ∈ cs, isExponentMark c = false := by
  intro c hMember
  rcases hPointed c hMember with hDigit | rfl
  · exact not_isExponentMark_of_isDecimal hDigit
  · rfl

end IsPointed

end Text

------------------------------------------------------------
-- Parts
------------------------------------------------------------

namespace Numeric

/- A sign is taken from a text that starts with one. -/
theorem takeSign_cases
    (cs : List Char) :
    (takeSign cs = (false, cs) ∧ ∀ c ∈ cs.head?, isSign c = false) ∨
      ∃ c rest, cs = c :: rest ∧ isSign c = true ∧
        takeSign cs = (c == '-', rest) := by
  unfold takeSign
  split
  · exact .inr ⟨'-', _, rfl, rfl, rfl⟩
  · exact .inr ⟨'+', _, rfl, rfl, rfl⟩
  · rename_i hMinus hPlus
    refine .inl ⟨rfl, ?_⟩
    cases cs with
    | nil => exact nofun
    | cons c rest =>
        rintro d hHead
        cases hHead
        rw [isSign, Bool.or_eq_false_iff, beq_eq_false_iff_ne,
          beq_eq_false_iff_ne]
        exact
          ⟨fun hEq => hPlus rest (by rw [hEq]),
            fun hEq => hMinus rest (by rw [hEq])⟩

/- What is taken from a text are digits at its start. -/
theorem exists_takeDigits
    (cs : List Char) :
    ∃ digits, cs = digits ++ (takeDigits cs).2 ∧
      (∀ c ∈ digits, isDecimal c = true) ∧
        (takeDigits cs).1 = digits.filterMap digitValue? := by
  induction cs with
  | nil => exact ⟨[], rfl, nofun, rfl⟩
  | cons c rest ih =>
      unfold takeDigits
      cases hValue : digitValue? c with
      | none => exact ⟨[], rfl, nofun, rfl⟩
      | some d =>
          have hDigit : isDecimal c = true := by
            rw [isDecimal, hValue]
            rfl
          rcases ih with ⟨digits, hSplit, hDigits, hValues⟩
          refine ⟨c :: digits, ?_, ?_, ?_⟩
          · rw [List.cons_append, ← hSplit]
          · exact List.forall_mem_cons.mpr ⟨hDigit, hDigits⟩
          · rw [List.filterMap_cons_some hValue, ← hValues]

/- A fraction has a point and digits. -/
theorem exists_takeFraction
    (cs : List Char) :
    ∃ fraction, cs = fraction ++ (takeFraction cs).2 ∧
      IsPointed fraction := by
  unfold takeFraction
  split
  · rename_i rest
    rcases exists_takeDigits rest with ⟨digits, hSplit, hDigits, -⟩
    refine ⟨'.' :: digits, ?_, ?_⟩
    · rw [List.cons_append, ← hSplit]
    · exact List.forall_mem_cons.mpr
        ⟨.inr rfl, fun c hMember => .inl (hDigits c hMember)⟩
  · exact ⟨[], rfl, nofun⟩

/- An exponent, which has a mark, perhaps a sign, and digits. -/
inductive IsExponentText : List Char → Prop where
  | none : IsExponentText []
  | some
      (mark : Char)
      (rest : List Char)
      (hMark : isExponentMark mark = true)
      (hDigits : ∀ c ∈ (takeSign rest).2, isDecimal c = true) :
      IsExponentText (mark :: rest)

/- A text of which nothing is left is an exponent. -/
theorem isExponentText_of_takeExponent
    {cs : List Char}
    (hAll : (takeExponent cs).2 = []) :
    IsExponentText cs := by
  cases cs with
  | nil => exact .none
  | cons mark rest =>
      simp only [takeExponent] at hAll
      split at hAll
      · rename_i hMark
        split at hAll
        · cases hAll
        · rcases exists_takeDigits (takeSign rest).2 with
            ⟨digits, hSplit, hDigits, -⟩
          refine .some mark rest hMark ?_
          rw [hSplit, hAll, List.append_nil]
          exact hDigits
      · cases hAll

/- There is no point in an exponent. -/
theorem IsExponentText.point_not_mem
    {cs : List Char}
    (hExponent : IsExponentText cs) :
    '.' ∉ cs := by
  cases hExponent with
  | none => exact List.not_mem_nil
  | some mark rest hMark hDigits =>
      have hPoint : '.' ∉ (takeSign rest).2 := fun hMember =>
        absurd (hDigits '.' hMember) (by decide)
      have hRest : '.' ∉ rest := by
        rcases takeSign_cases rest with
          ⟨hNone, -⟩ | ⟨c, more, rfl, hSign, hTaken⟩
        · rwa [hNone] at hPoint
        · rw [hTaken] at hPoint
          rw [List.mem_cons, not_or]
          refine ⟨?_, hPoint⟩
          rintro rfl
          cases hSign
      rw [List.mem_cons, not_or]
      refine ⟨?_, hRest⟩
      rintro rfl
      cases hMark

end Numeric

namespace Decimal

open Numeric

variable {cs : List Char} {d : Decimal}

/- A text that is read as a decimal has its sign and three parts. -/
theorem exists_parts_of_read?
    (hRead : read? cs = some d) :
    d.negative = (takeSign cs).1 ∧
      ∃ body exponent, (takeSign cs).2 = body ++ exponent ∧
        IsPointed body ∧ IsExponentText exponent := by
  unfold read? at hRead
  dsimp only at hRead
  split at hRead
  · cases hRead
  · rename_i hParts
    rcases exists_takeDigits (takeSign cs).2 with
      ⟨whole, hWhole, hDigits, -⟩
    rcases exists_takeFraction (takeDigits (takeSign cs).2).2 with
      ⟨fraction, hFraction, hPointed⟩
    have hExponent :
        (takeExponent
          (takeFraction (takeDigits (takeSign cs).2).2).2).2 = [] := by
      simp only [Bool.or_eq_true, not_or, Bool.not_eq_true',
        Bool.not_eq_false] at hParts
      exact List.isEmpty_iff.mp hParts.2
    refine ⟨by rw [← Option.some.inj hRead], whole ++ fraction, _, ?_, ?_,
      isExponentText_of_takeExponent hExponent⟩
    · rw [List.append_assoc, ← hFraction, ← hWhole]
    · intro c hMember
      rcases List.mem_append.mp hMember with hFirst | hSecond
      · exact .inl (hDigits c hFirst)
      · exact hPointed c hSecond

/- Exponent marks are in the exponent only, after all points. -/
theorem exists_front_of_read?
    (hRead : read? cs = some d) :
    ∃ front exponent, cs = front ++ exponent ∧
      (∀ c ∈ front, isExponentMark c = false) ∧ '.' ∉ exponent := by
  rcases exists_parts_of_read? hRead with
    ⟨-, body, exponent, hSplit, hBody, hExponent⟩
  rcases takeSign_cases cs with
    ⟨hNone, -⟩ | ⟨c, rest, rfl, hSign, hTaken⟩
  · rw [hNone] at hSplit
    exact
      ⟨body, exponent, hSplit, hBody.not_isExponentMark,
        hExponent.point_not_mem⟩
  · rw [hTaken] at hSplit
    refine ⟨c :: body, exponent, ?_, ?_, hExponent.point_not_mem⟩
    · rw [List.cons_append, ← hSplit]
    · exact List.forall_mem_cons.mpr
        ⟨not_isExponentMark_of_isSign hSign, hBody.not_isExponentMark⟩

/- No exponent mark comes before a point. -/
theorem not_isExponentMark_of_read?
    {before after : List Char}
    (hRead : read? (before ++ '.' :: after) = some d) :
    ∀ c ∈ before, isExponentMark c = false := by
  rcases exists_front_of_read? hRead with
    ⟨front, exponent, hSplit, hFront, hPoint⟩
  rcases List.append_eq_append_iff.mp hSplit with
    ⟨between, rfl, -⟩ | ⟨between, -, hRest⟩
  · exact fun c hMember =>
      hFront c (List.mem_append_left _ hMember)
  · refine (hPoint ?_).elim
    rw [hRest]
    simp

end Decimal

end RecordRules
