import RecordRules.Date.Natural.Steps
import RecordRules.Proofs.Date.Tokens

/-
  The pieces of a written date: short numerals and names of months.

  Main declarations:
    * `Date.Piece`, `Date.Piece.text` and `Date.Piece.push`
    * `Date.Piece.Plain`, what no piece is taken for
    * `Date.Piece.text_plain`
-/

namespace RecordRules

namespace Date

open Text Numeric

------------------------------------------------------------
-- Pieces
------------------------------------------------------------

/- A numeral of at most four digits, or the name of a month. -/
inductive Piece where
  | numeral
      (digits : List Char)
      (isNumeral : IsNumeral digits)
      (isShort : digits.length ≤ 4)
  | name
      (month : Nat)
      (isMonth : 1 ≤ month ∧ month ≤ 12)
      (cut : Bool)

namespace Piece

/- The name of a month, cut to three letters or whole. -/
def nameText
    (month : Nat)
    (cut : Bool) : List Char :=
  if cut then
    (Component.nameOfMonth month).take 3
  else
    Component.nameOfMonth month

/- The characters of a piece. -/
def text : Piece → List Char
  | numeral digits _ _ => digits
  | name month _ cut => nameText month cut

/- Whether a piece is a numeral. -/
def IsNumber : Piece → Prop
  | numeral .. => True
  | name .. => False

/-
  The members of a date with a further piece. A number between
  spaces is a whole year above 100, one between marks if it has
  more than two digits.
-/
def push
    (spaced : Bool)
    (m : Members) : Piece → Answer Members
  | numeral digits _ _ =>
    if spaced then
      m.pushQuantity ⟨numeralValue digits, 0⟩
    else
      m.pushToken digits false
  | name month _ _ => m.pushMonth month

------------------------------------------------------------
-- Names of months
------------------------------------------------------------

/- A property of all names of months, checked one by one. -/
theorem forall_nameText
    {P : Nat → List Char → Prop}
    (hAll :
      ∀ month < 13, 1 ≤ month → ∀ cut, P month (nameText month cut))
    {month : Nat}
    (hMonth : 1 ≤ month ∧ month ≤ 12)
    (cut : Bool) :
    P month (nameText month cut) :=
  hAll month (by omega) hMonth.1 cut

end Piece

------------------------------------------------------------
-- Numerals among the words
------------------------------------------------------------

/- A numeral is no word. -/
theorem small_ne_of_isNumeral
    {digits : List Char}
    (hNumeral : IsNumeral digits)
    {word : String}
    (hWord : ∀ c ∈ word.toList, ¬ IsDigit c) :
    small digits ≠ word := by
  rcases digits with _ | ⟨c, rest⟩
  · exact (hNumeral.1 rfl).elim
  intro hEq
  have hMember : c ∈ word.toList := by
    simp [← hEq, small, hNumeral.lower_eq]
  exact hWord c hMember (hNumeral.2 c (by simp))

theorem unit?_of_isNumeral
    {digits : List Char}
    (hNumeral : IsNumeral digits) :
    unit? digits = none := by
  unfold unit?
  split
  case h_10 => rfl
  all_goals
    rename_i hWord
    exact absurd hWord (small_ne_of_isNumeral hNumeral (by decide))

theorem halfDay?_of_isNumeral
    {digits : List Char}
    (hNumeral : IsNumeral digits) :
    halfDay? digits = none := by
  unfold halfDay?
  split
  case h_5 => rfl
  all_goals
    rename_i hWord
    exact absurd hWord (small_ne_of_isNumeral hNumeral (by decide))

theorem not_mem_of_isNumeral
    {digits : List Char}
    (hNumeral : IsNumeral digits)
    {words : List String}
    (hWords : ∀ word ∈ words, ∀ c ∈ word.toList, ¬ IsDigit c) :
    words.contains (small digits) = false := by
  rw [Bool.eq_false_iff, Ne, List.contains_iff_mem]
  intro hMember
  exact small_ne_of_isNumeral hNumeral (hWords _ hMember) rfl

theorem isFiller_of_isNumeral
    {digits : List Char}
    (hNumeral : IsNumeral digits) :
    isFiller digits = false :=
  not_mem_of_isNumeral hNumeral (by decide)

theorem isNumberWord_of_isNumeral
    {digits : List Char}
    (hNumeral : IsNumeral digits) :
    isNumberWord digits = false := by
  have hWords :
      ["nan", "inf", "infinity"].contains (small digits) = false :=
    not_mem_of_isNumeral hNumeral (by decide)
  rw [isNumberWord, hWords, Bool.false_and]

theorem isOf_of_isNumeral
    {digits : List Char}
    (hNumeral : IsNumeral digits) :
    isOf digits = false := by
  have hWord : small digits ≠ "of" :=
    small_ne_of_isNumeral hNumeral (by decide)
  simp [isOf, hWord]

theorem month?_of_isNumeral
    {digits : List Char}
    (hNumeral : IsNumeral digits) :
    month? digits = none := by
  have hSept : small digits ≠ "sept" :=
    small_ne_of_isNumeral hNumeral (by decide)
  have hNames :
      monthNames.findIdx? (isNameOrShort (small digits)) = none := by
    apply List.findIdx?_eq_none_iff.mpr
    intro name hMember
    have hLetters :
        ∀ name ∈ monthNames, ∀ c ∈ lower name.toList, ¬ IsDigit c := by
      decide
    rcases digits with _ | ⟨c, rest⟩
    · exact (hNumeral.1 rfl).elim
    have hDigit := hNumeral.2 c (by simp)
    have hWhole : c :: rest ≠ lower name.toList := by
      intro hEq
      exact hLetters name hMember c (by simp [← hEq]) hDigit
    have hShort : c :: rest ≠ (lower name.toList).take 3 := by
      intro hEq
      have hTaken : c ∈ (lower name.toList).take 3 := by
        simp [← hEq]
      exact hLetters name hMember c (List.mem_of_mem_take hTaken)
        hDigit
    simp [isNameOrShort, small, hNumeral.lower_eq, hWhole, hShort]
  simp [month?, hSept, hNames]

theorem read?_of_isNumeral
    {digits : List Char}
    (hNumeral : IsNumeral digits) :
    Quantity.read? digits = some ⟨numeralValue digits, 0⟩ := by
  simp [Quantity.read?, hNumeral.takeDigits_eq, takeFraction,
    hNumeral.1, numeralValue]

theorem isNumeral_of_isNumeral
    {digits : List Char}
    (hNumeral : IsNumeral digits) :
    isNumeral digits = true := by
  have hForms : digits.all isDigitForm = true := by
    apply List.all_eq_true.mpr
    intro c hMember
    exact (hNumeral.2 c hMember).isDigitForm
  simp [isNumeral, hForms, hNumeral.1]

theorem wholeNumber_of_isNumeral
    {digits : List Char}
    (hNumeral : IsNumeral digits)
    (hShort : digits.length ≤ maxDigits) :
    wholeNumber digits = .ok (numeralValue digits) := by
  have hLength : ¬ maxDigits < digits.length := by omega
  simp [wholeNumber, demand, hNumeral.mapM_digitValue?, hNumeral.1,
    hLength, numeralValue, bind, Except.bind, pure, Except.pure]

------------------------------------------------------------
-- What pieces are not taken for
------------------------------------------------------------

/- A token that is no word with a meaning for times. -/
def IsPlain (token : Token) : Prop :=
  unit? token = none ∧ halfDay? token = none ∧ isOf token = false

instance (token : Token) : Decidable (IsPlain token) := by
  unfold IsPlain
  infer_instance

namespace Piece

theorem text_isPlain
    (p : Piece) :
    IsPlain p.text := by
  cases p with
  | numeral digits hNumeral hShort =>
      exact
        ⟨unit?_of_isNumeral hNumeral,
          halfDay?_of_isNumeral hNumeral,
          isOf_of_isNumeral hNumeral⟩
  | name month hMonth cut =>
      exact forall_nameText (P := fun _ text => IsPlain text)
        (by decide) hMonth cut

theorem text_isRun
    (p : Piece) :
    IsRun p.text := by
  cases p with
  | numeral digits hNumeral hShort => exact .inl hNumeral
  | name month hMonth cut =>
      refine .inr ?_
      unfold IsWord
      exact
        forall_nameText
          (P := fun _ text =>
            text ≠ [] ∧ ∀ c ∈ text, isLetter c = true)
          (by decide) hMonth cut

end Piece

end Date

end RecordRules
