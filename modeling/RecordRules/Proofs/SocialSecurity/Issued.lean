import RecordRules.Proofs.Text.Ascii
import RecordRules.SocialSecurity

/-
  Social security numbers that are issued, and those that are valid.

  Main declarations:
    * `SocialSecurity.values`, the digits of a text by their values
    * `SocialSecurity.IsIssued`, the values of issued numbers
    * `SocialSecurity.IsBarred`, what keeps nine digits from being
      valid
    * `SocialSecurity.isValid_iff_issued`
    * `SocialSecurity.isValid_grouped`, numbers with hyphens
-/

namespace RecordRules

open Text

------------------------------------------------------------
-- Digits of every script
------------------------------------------------------------

namespace Text

/- A decimal digit is the ASCII digit of its value if it is in ASCII. -/
theorem eq_digit_iff
    {c d : Char}
    {value n : Nat}
    (hOwn : d.toNat = 48 + n)
    (hSmall : n < 10)
    (hValue : digitValue? c = some value) :
    c = d ↔ c.toNat < 128 ∧ value = n := by
  have hDigit : IsDigit d := by
    rw [IsDigit]
    omega
  constructor
  · rintro rfl
    rw [hDigit.digitValue?_eq] at hValue
    cases hValue
    omega
  · rintro ⟨hAscii, rfl⟩
    rw [digitValue?, if_pos hAscii, asciiDigit?] at hValue
    split at hValue
    · have hSame := Option.some.inj hValue
      refine Char.toNat_inj.mp ?_
      omega
    · cases hValue

end Text

namespace SocialSecurity

------------------------------------------------------------
-- Issued numbers
------------------------------------------------------------

/- The decimal digits of a text, each by its value. -/
def values (cs : List Char) : List Nat :=
  cs.filterMap digitValue?

section Parts

variable {α : Type} (digits : List α)

/- The first three digits of a number. -/
def area : List α :=
  digits.take 3

/- The two digits in the middle of a number. -/
def group : List α :=
  (digits.drop 3).take 2

/- The last four digits of a number. -/
def serial : List α :=
  digits.drop 5

variable {digits}

theorem mem_of_mem_area
    {d : α}
    (hMember : d ∈ area digits) :
    d ∈ digits :=
  List.mem_of_mem_take hMember

theorem mem_of_mem_group
    {d : α}
    (hMember : d ∈ group digits) :
    d ∈ digits :=
  List.mem_of_mem_drop (List.mem_of_mem_take hMember)

theorem mem_of_mem_serial
    {d : α}
    (hMember : d ∈ serial digits) :
    d ∈ digits :=
  List.mem_of_mem_drop hMember

end Parts

/-
  Nine values that are the area, the group and the serial of a number
  that is issued.
-/
structure IsIssued (values : List Nat) : Prop where
  nine : values.length = 9
  area_ne_zero : digitsValue (area values) ≠ 0
  area_ne_666 : digitsValue (area values) ≠ 666
  area_lt : digitsValue (area values) < 900
  group_ne_zero : digitsValue (group values) ≠ 0
  serial_ne_zero : digitsValue (serial values) ≠ 0

/-
  What keeps nine digits from being valid: a part that is not issued,
  as far as the digits that decide this are written in ASCII.
-/
inductive IsBarred (digits : List Char) : Prop where
  | area
      (hAscii : IsAscii (area digits))
      (hValue :
        digitsValue (values (area digits)) = 0 ∨
          digitsValue (values (area digits)) = 666)
  | nines
      (hAscii : ∀ c ∈ digits.head?, c.toNat < 128)
      (hValue : 900 ≤ digitsValue (values (area digits)))
  | group
      (hAscii : IsAscii (group digits))
      (hValue : digitsValue (values (group digits)) = 0)
  | serial
      (hAscii : IsAscii (serial digits))
      (hValue : digitsValue (values (serial digits)) = 0)

------------------------------------------------------------
-- Valid numbers
------------------------------------------------------------

theorem foldl_digits_eq_zero_iff
    (start : Nat)
    (values : List Nat) :
    values.foldl (fun value d => 10 * value + d) start = 0 ↔
      start = 0 ∧ ∀ d ∈ values, d = 0 := by
  induction values generalizing start with
  | nil => simp
  | cons d rest ih =>
      have hNext : 10 * start + d = 0 ↔ start = 0 ∧ d = 0 := by omega
      rw [List.foldl_cons, ih, List.forall_mem_cons, hNext, and_assoc]

/- Digits are zeros of ASCII if they are in ASCII and without value. -/
theorem all_zeros_iff
    {digits : List Char}
    (hDigits : ∀ c ∈ digits, isDecimal c = true) :
    (∀ c ∈ digits, c = '0') ↔
      IsAscii digits ∧ digitsValue (values digits) = 0 := by
  rw [digitsValue, foldl_digits_eq_zero_iff, values]
  simp only [true_and, List.mem_filterMap, forall_exists_index, and_imp]
  constructor
  · intro hZeros
    refine ⟨fun c hMember => ?_, fun d c hMember hValue => ?_⟩
    · rw [hZeros c hMember]
      decide
    · rw [hZeros c hMember] at hValue
      exact (Option.some.inj hValue).symm
  · rintro ⟨hAscii, hValues⟩ c hMember
    rcases Option.isSome_iff_exists.mp (hDigits c hMember) with
      ⟨value, hValue⟩
    exact
      (eq_digit_iff rfl (by decide) hValue).mpr
        ⟨hAscii c hMember, hValues value c hMember hValue⟩

/- An area is reserved if it is in ASCII and not issued. -/
theorem isReservedArea_iff
    {a b c : Char}
    {x y z : Nat}
    (hFirst : digitValue? a = some x)
    (hSecond : digitValue? b = some y)
    (hThird : digitValue? c = some z) :
    isReservedArea [a, b, c] = true ↔
      (IsAscii [a, b, c] ∧
          (digitsValue [x, y, z] = 0 ∨ digitsValue [x, y, z] = 666)) ∨
        (a.toNat < 128 ∧ 900 ≤ digitsValue [x, y, z]) := by
  have hReserved :
      isReservedArea [a, b, c] = true ↔
        (a = '0' ∧ b = '0' ∧ c = '0') ∨
          (a = '6' ∧ b = '6' ∧ c = '6') ∨ a = '9' := by
    unfold isReservedArea
    split <;> simp_all
  have hZero {d : Char} {value : Nat}
      (hValue : digitValue? d = some value) :
      d = '0' ↔ d.toNat < 128 ∧ value = 0 :=
    eq_digit_iff rfl (by decide) hValue
  have hSix {d : Char} {value : Nat}
      (hValue : digitValue? d = some value) :
      d = '6' ↔ d.toNat < 128 ∧ value = 6 :=
    eq_digit_iff rfl (by decide) hValue
  have hNine : a = '9' ↔ a.toNat < 128 ∧ x = 9 :=
    eq_digit_iff rfl (by decide) hFirst
  have hHundreds := digitValue?_lt_ten hFirst
  have hTens := digitValue?_lt_ten hSecond
  have hUnits := digitValue?_lt_ten hThird
  rw [hReserved, hNine, hSix hFirst, hSix hSecond, hSix hThird,
    hZero hFirst, hZero hSecond, hZero hThird]
  simp only [IsAscii, digitsValue, List.forall_mem_cons,
    List.not_mem_nil, List.foldl_cons, List.foldl_nil, false_imp_iff,
    implies_true, and_true]
  omega

theorem isBarred_iff
    (digits : List Char) :
    IsBarred digits ↔
      ((IsAscii (area digits) ∧
            (digitsValue (values (area digits)) = 0 ∨
              digitsValue (values (area digits)) = 666)) ∨
          ((∀ c ∈ digits.head?, c.toNat < 128) ∧
            900 ≤ digitsValue (values (area digits)))) ∨
        (IsAscii (group digits) ∧
          digitsValue (values (group digits)) = 0) ∨
        (IsAscii (serial digits) ∧
          digitsValue (values (serial digits)) = 0) := by
  constructor
  · rintro (⟨hAscii, hValue⟩ | ⟨hAscii, hValue⟩ | ⟨hAscii, hValue⟩ |
      ⟨hAscii, hValue⟩)
    · exact .inl (.inl ⟨hAscii, hValue⟩)
    · exact .inl (.inr ⟨hAscii, hValue⟩)
    · exact .inr (.inl ⟨hAscii, hValue⟩)
    · exact .inr (.inr ⟨hAscii, hValue⟩)
  · rintro ((⟨hAscii, hValue⟩ | ⟨hAscii, hValue⟩) | ⟨hAscii, hValue⟩ |
      ⟨hAscii, hValue⟩)
    · exact .area hAscii hValue
    · exact .nines hAscii hValue
    · exact .group hAscii hValue
    · exact .serial hAscii hValue

/- Digits are valid if there are nine of them and no part is barred. -/
theorem isIssuable_iff
    {digits : List Char}
    (hDigits : ∀ c ∈ digits, isDecimal c = true) :
    isIssuable digits = true ↔
      digits.length = 9 ∧ ¬ IsBarred digits := by
  unfold isIssuable
  split
  · rename_i a b c d e f g h i
    have hValue (x : Char) (hMember : x ∈ [a, b, c, d, e, f, g, h, i]) :
        ∃ value, digitValue? x = some value :=
      Option.isSome_iff_exists.mp (hDigits x hMember)
    rcases hValue a (by simp) with ⟨x, hFirst⟩
    rcases hValue b (by simp) with ⟨y, hSecond⟩
    rcases hValue c (by simp) with ⟨z, hThird⟩
    have hValues : values [a, b, c] = [x, y, z] := by
      simp [values, hFirst, hSecond, hThird]
    have hArea := isReservedArea_iff hFirst hSecond hThird
    have hGroup :=
      all_zeros_iff fun x hMember => hDigits x (mem_of_mem_group hMember)
    have hSerial :=
      all_zeros_iff fun x hMember => hDigits x (mem_of_mem_serial hMember)
    rw [isBarred_iff, ← hGroup, ← hSerial]
    rw [← hValues] at hArea
    simp only [area, group, serial, List.take_succ_cons, List.take_zero,
      List.drop_succ_cons, List.drop_zero, List.head?_cons,
      Option.mem_some_iff, forall_eq', ← hArea]
    simp [and_assoc]
  · rename_i hOther
    have hLength : digits.length ≠ 9 := by
      intro hNine
      rcases digits with _ | ⟨a, _ | ⟨b, _ | ⟨c, _ | ⟨d, _ | ⟨e, _ | ⟨f,
        _ | ⟨g, _ | ⟨h, _ | ⟨i, _ | ⟨j, more⟩⟩⟩⟩⟩⟩⟩⟩⟩⟩
      all_goals first
        | exact hOther a b c d e f g h i rfl
        | simp at hNine
    simp [hLength]

------------------------------------------------------------
-- Texts
------------------------------------------------------------

theorem isDecimal_of_mem_digits
    {cs : List Char} :
    ∀ c ∈ digits cs, isDecimal c = true :=
  fun _ hMember => (List.mem_filter.mp hMember).2

/- Digits have their values one by one. -/
theorem values_eq_map
    {digits : List Char}
    (hDigits : ∀ c ∈ digits, isDecimal c = true) :
    values digits = digits.map fun c => (digitValue? c).getD 0 := by
  induction digits with
  | nil => rfl
  | cons c rest ih =>
      rcases Option.isSome_iff_exists.mp (hDigits c (by simp)) with
        ⟨value, hValue⟩
      have hRest := ih fun d hMember => hDigits d (by simp [hMember])
      rw [values, List.filterMap_cons_some hValue, List.map_cons, hValue]
      exact congrArg _ hRest

/- What has a value is a digit. -/
theorem values_digits
    (cs : List Char) :
    values (digits cs) = values cs := by
  rw [values, digits, List.filterMap_filter, values]
  refine congrArg (fun f => cs.filterMap f) (funext fun c => ?_)
  rw [isDecimal]
  cases digitValue? c <;> rfl

/- The values of a text in the order of its digits. -/
theorem values_eq
    (cs : List Char) :
    values cs = (digits cs).map fun c => (digitValue? c).getD 0 := by
  rw [← values_digits, values_eq_map isDecimal_of_mem_digits]

section Issued

variable {cs : List Char}

/- The parts of the values are the values of the parts. -/
theorem values_parts
    (cs : List Char) :
    values (area (digits cs)) = area (values cs) ∧
      values (group (digits cs)) = group (values cs) ∧
      values (serial (digits cs)) = serial (values cs) := by
  have hSame
      (part : List Char)
      (hPart : ∀ c ∈ part, c ∈ digits cs) :
      values part = part.map fun c => (digitValue? c).getD 0 :=
    values_eq_map fun c hMember =>
      isDecimal_of_mem_digits c (hPart c hMember)
  rw [values_eq cs, hSame _ fun _ => mem_of_mem_area,
    hSame _ fun _ => mem_of_mem_group, hSame _ fun _ => mem_of_mem_serial]
  simp only [area, group, serial, List.map_take, List.map_drop, and_self]

theorem length_values
    (cs : List Char) :
    (values cs).length = (digits cs).length := by
  rw [values_eq, List.length_map]

/- What is barred is not issued. -/
theorem IsIssued.not_isBarred
    (hIssued : IsIssued (values cs)) :
    ¬ IsBarred (digits cs) := by
  rcases values_parts cs with ⟨hArea, hGroup, hSerial⟩
  rintro (⟨-, hZero | hReserved⟩ | ⟨-, hNines⟩ | ⟨-, hZero⟩ | ⟨-, hZero⟩)
  · exact hIssued.area_ne_zero (hArea ▸ hZero)
  · exact hIssued.area_ne_666 (hArea ▸ hReserved)
  · exact Nat.not_lt.mpr hNines (hArea ▸ hIssued.area_lt)
  · exact hIssued.group_ne_zero (hGroup ▸ hZero)
  · exact hIssued.serial_ne_zero (hSerial ▸ hZero)

/- Nine digits of ASCII are issued if they are not barred. -/
theorem isIssued_of_isAscii
    (hAscii : IsAscii (digits cs))
    (hNine : (digits cs).length = 9)
    (hFree : ¬ IsBarred (digits cs)) :
    IsIssued (values cs) := by
  rcases values_parts cs with ⟨hArea, hGroup, hSerial⟩
  rw [isBarred_iff, hArea, hGroup, hSerial] at hFree
  have hFirst : IsAscii (area (digits cs)) :=
    fun c hMember => hAscii c (mem_of_mem_area hMember)
  have hSecond : IsAscii (group (digits cs)) :=
    fun c hMember => hAscii c (mem_of_mem_group hMember)
  have hThird : IsAscii (serial (digits cs)) :=
    fun c hMember => hAscii c (mem_of_mem_serial hMember)
  have hHead : ∀ c ∈ (digits cs).head?, c.toNat < 128 :=
    fun c hMember => hAscii c (List.mem_of_mem_head? hMember)
  simp only [hFirst, hSecond, hThird, true_and, not_or, not_and,
    Nat.not_le] at hFree
  rcases hFree with
    ⟨⟨⟨hZero, hReserved⟩, hNines⟩, hMiddle, hLast⟩
  exact
    ⟨by rw [length_values, hNine], hZero, hReserved, hNines hHead,
      hMiddle, hLast⟩

end Issued

/-
  A text is valid exactly if it has nine digits, of any script, and no
  part of them is barred; only digits of ASCII bar a part. So all that
  is issued is valid, and of texts with the digits of ASCII nothing
  else is.
-/
theorem isValid_iff_issued
    (cs : List Char) :
    (isValid cs = true ↔
        (digits cs).length = 9 ∧ ¬ IsBarred (digits cs)) ∧
      (IsIssued (values cs) → isValid cs = true) ∧
      (IsAscii (digits cs) →
        (isValid cs = true ↔ IsIssued (values cs))) := by
  have hValid : isValid cs = true ↔
      (digits cs).length = 9 ∧ ¬ IsBarred (digits cs) :=
    isIssuable_iff isDecimal_of_mem_digits
  have hIssued (hIssued : IsIssued (values cs)) : isValid cs = true :=
    hValid.mpr
      ⟨(length_values cs).symm.trans hIssued.nine, hIssued.not_isBarred⟩
  refine ⟨hValid, hIssued, fun hAscii => ⟨fun hGood => ?_, hIssued⟩⟩
  rcases hValid.mp hGood with ⟨hNine, hFree⟩
  exact isIssued_of_isAscii hAscii hNine hFree

/- Three zeros of another script pass as an area, which is not issued. -/
theorem foreign_zeros_are_valid :
    isValid "\u0660\u0660\u0660-12-3456".toList = true ∧
      values "\u0660\u0660\u0660-12-3456".toList =
        [0, 0, 0, 1, 2, 3, 4, 5, 6] ∧
      ¬ IsIssued (values "\u0660\u0660\u0660-12-3456".toList) := by
  let cs : List Char := "\u0660\u0660\u0660-12-3456".toList
  have hValues : values cs = [0, 0, 0, 1, 2, 3, 4, 5, 6] := by
    decide +kernel
  have hFree : ¬ IsBarred (digits cs) := by
    rw [isBarred_iff]
    decide +kernel
  have hNine : (digits cs).length = 9 := by
    decide +kernel
  refine ⟨(isValid_iff_issued cs).1.mpr ⟨hNine, hFree⟩, hValues, ?_⟩
  rw [hValues]
  exact fun hIssued => hIssued.area_ne_zero rfl

------------------------------------------------------------
-- Numbers with hyphens
------------------------------------------------------------

/- Hyphens leave the digits of a number. -/
theorem digits_grouped
    {ds : List Char}
    (hDigits : ∀ c ∈ ds, isDecimal c = true) :
    digits (grouped ds) = ds := by
  have hParts : ds.take 3 ++ ((ds.drop 3).take 2 ++ ds.drop 5) = ds := by
    have hRest := List.take_append_drop 2 (ds.drop 3)
    rw [List.drop_drop] at hRest
    rw [hRest, List.take_append_drop]
  have hHyphen : isDecimal '-' = false := by decide
  have hAll : ds.filter isDecimal = ds := List.filter_eq_self.mpr hDigits
  rw [digits, grouped]
  simp only [List.filter_append, List.filter_cons, hHyphen,
    Bool.false_eq_true, if_false]
  rw [← List.filter_append, ← List.filter_append, List.append_assoc,
    hParts, hAll]

/- A number with hyphens is valid if its digits are. -/
theorem isValid_grouped
    (cs : List Char) :
    isValid (grouped (digits cs)) = isValid cs := by
  rw [isValid, digits_grouped isDecimal_of_mem_digits, isValid]

end SocialSecurity

end RecordRules
