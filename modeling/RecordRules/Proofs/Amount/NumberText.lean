import RecordRules.Amount.Format
import RecordRules.Proofs.Amount.Currency
import RecordRules.Proofs.Amount.Grouping
import RecordRules.Proofs.Numeric.NearestDecimal

/-
  The texts of numbers, and the numbers that are read from them.

  Main declarations:
    * `NumberText`, the parts of the text of a number
    * `NumberText.text`, with groups or without
    * `NumberText.decimal`, and `NumberText.read?_text`
    * `NumberFormat.IsMonetary`, formats with one currency mark
    * `NumberText.read?_affixed`
-/

namespace RecordRules

open Text Numeric Amount

------------------------------------------------------------
-- Parts of a text
------------------------------------------------------------

/-
  The parts of the text of a number: its sign, the digits before and
  after the point, and an exponent.
-/
structure NumberText where
  negative : Bool
  whole : List Char
  fraction : List Char
  exponent : Option Int
  isNumeral_whole : IsNumeral whole
  isDigit_fraction : ∀ c ∈ fraction, IsDigit c

namespace NumberText

/- The exponent of a number with its mark, where there is one. -/
def exponentPart (t : NumberText) : List Char :=
  (t.exponent.map exponentText).getD []

/- What follows the digits before the point. -/
def rest (t : NumberText) : List Char :=
  (if t.fraction.isEmpty then [] else '.' :: t.fraction) ++
    t.exponentPart

/- The text of a number without its sign. -/
def body
    (t : NumberText)
    (groups : Bool) : List Char :=
  groupedIf groups t.whole ++ t.rest

/- The text of a number, in groups where they are wanted. -/
def text
    (t : NumberText)
    (groups : Bool) : List Char :=
  Binary64.signed t.negative (t.body groups)

/- The decimal that a text stands for. -/
def decimal (t : NumberText) : Decimal :=
  { negative := t.negative
    coefficient := numeralValue (t.whole ++ t.fraction)
    exponent := t.exponent.getD 0 - t.fraction.length }

/- A text without its sign. -/
def absolute (t : NumberText) : NumberText :=
  { t with negative := false }

variable (t : NumberText)

------------------------------------------------------------
-- Reading the decimal
------------------------------------------------------------

theorem takeExponent_exponentText
    (exponent : Int) :
    takeExponent (exponentText exponent) = (exponent, []) := by
  have hDigits := paddedDigits_isNumeral 2 exponent.natAbs
  have hTaken := hDigits.takeDigits_eq
  have hSize := numeralValue_paddedDigits 2 exponent.natAbs
  rw [numeralValue] at hSize
  by_cases hNegative : exponent < 0
  · simp only [exponentText, hNegative, if_true, takeExponent,
      takeSign, hTaken, hSize, List.isEmpty_map, List.isEmpty_iff,
      hDigits.1, if_false, BEq.rfl, Bool.true_or]
    exact Prod.ext (by dsimp only; omega) rfl
  · simp only [exponentText, hNegative, if_false, takeExponent,
      takeSign, hTaken, hSize, List.isEmpty_map, List.isEmpty_iff,
      hDigits.1, BEq.rfl, Bool.true_or, if_true, Bool.false_eq_true]
    exact Prod.ext (by dsimp only; omega) rfl

theorem takeExponent_exponentPart :
    takeExponent t.exponentPart = (t.exponent.getD 0, []) := by
  unfold exponentPart
  cases t.exponent with
  | none => rfl
  | some exponent => exact takeExponent_exponentText exponent

/- An exponent starts with its mark. -/
theorem exponentPart_head
    {c : Char}
    (hHead : c ∈ t.exponentPart.head?) :
    c = 'e' := by
  unfold exponentPart at hHead
  cases hExponent : t.exponent with
  | none =>
      rw [hExponent] at hHead
      cases hHead
  | some exponent =>
      rw [hExponent] at hHead
      cases hHead
      rfl

theorem exponentPart_stopsDigits : StopsDigits t.exponentPart := by
  intro c hHead
  rw [t.exponentPart_head hHead]
  decide

theorem takeFraction_rest :
    takeFraction t.rest =
      (t.fraction.map fun c => c.toNat - 48, t.exponentPart) := by
  unfold rest
  split
  · rename_i hNone
    rw [List.isEmpty_iff.mp hNone, List.nil_append, List.map_nil]
    unfold takeFraction
    split
    · rename_i more hEq
      have hPoint := t.exponentPart_head (c := '.') (by rw [hEq]; rfl)
      cases hPoint
    · rfl
  · exact takeDigits_append t.isDigit_fraction
      t.exponentPart_stopsDigits

theorem rest_stopsDigits : StopsDigits t.rest := by
  intro c hHead
  unfold rest at hHead
  split at hHead
  · exact t.exponentPart_stopsDigits c hHead
  · cases hHead
    decide

theorem takeSign_of_isNumeral
    {digits : List Char}
    (hNumeral : IsNumeral digits)
    (more : List Char) :
    takeSign (digits ++ more) = (false, digits ++ more) := by
  rcases List.exists_cons_of_ne_nil hNumeral.1 with ⟨d, others, rfl⟩
  have hDigit : IsDigit d := hNumeral.2 d (by simp)
  rw [List.cons_append]
  unfold takeSign
  split
  · rename_i hEq
    cases hEq
    exact absurd hDigit (by decide)
  · rename_i hEq
    cases hEq
    exact absurd hDigit (by decide)
  · rfl

/- A text without groups is read as its decimal. -/
theorem read?_signed :
    Decimal.read? (Binary64.signed t.negative (t.whole ++ t.rest)) =
      some t.decimal := by
  have hSign :
      takeSign (Binary64.signed t.negative (t.whole ++ t.rest)) =
        (t.negative, t.whole ++ t.rest) := by
    cases t.negative with
    | true => rfl
    | false => exact takeSign_of_isNumeral t.isNumeral_whole t.rest
  have hWhole :=
    takeDigits_append t.isNumeral_whole.2 t.rest_stopsDigits
  have hSome :
      (t.whole.map (fun c : Char => c.toNat - 48) ++
        t.fraction.map fun c : Char => c.toNat - 48).isEmpty =
        false := by
    simp [t.isNumeral_whole.1]
  unfold Decimal.read?
  simp only [hSign, hWhole, t.takeFraction_rest,
    t.takeExponent_exponentPart, hSome, List.isEmpty_nil, Bool.not_true,
    Bool.or_self, Bool.false_eq_true, if_false]
  simp [decimal, numeralValue]

------------------------------------------------------------
-- Characters of a text
------------------------------------------------------------

/- The characters of an exponent. -/
theorem mem_exponentPart
    {c : Char}
    (hMember : c ∈ t.exponentPart) :
    IsDigit c ∨ c ∈ ['e', '+', '-'] := by
  unfold exponentPart at hMember
  cases hExponent : t.exponent with
  | none =>
      rw [hExponent] at hMember
      cases hMember
  | some exponent =>
      rw [hExponent] at hMember
      have hDigits := paddedDigits_isNumeral 2 exponent.natAbs
      simp only [Option.map_some, Option.getD_some, exponentText,
        List.mem_cons] at hMember
      rcases hMember with rfl | hSign | hDigit
      · exact .inr (by decide)
      · right
        rw [hSign]
        split <;> decide
      · exact .inl (hDigits.2 c hDigit)

/- What follows the whole part has digits and a few marks. -/
theorem mem_rest
    {c : Char}
    (hMember : c ∈ t.rest) :
    IsDigit c ∨ c ∈ ['.', 'e', '+', '-'] := by
  unfold rest at hMember
  rcases List.mem_append.mp hMember with hFraction | hExponent
  · split at hFraction
    · cases hFraction
    · rcases List.mem_cons.mp hFraction with rfl | hDigit
      · exact .inr (by decide)
      · exact .inl (t.isDigit_fraction c hDigit)
  · exact (t.mem_exponentPart hExponent).imp_right
      (List.mem_cons_of_mem _)

/- A text that ends with digits. -/
theorem exists_getLast?_of_isNumeral
    {digits : List Char}
    (hNumeral : IsNumeral digits)
    (before : List Char) :
    ∃ c, (before ++ digits).getLast? = some c ∧ IsDigit c := by
  refine ⟨digits.getLast hNumeral.1, ?_, ?_⟩
  · rw [List.getLast?_append,
      List.getLast?_eq_some_getLast hNumeral.1, Option.some_or]
  · exact hNumeral.2 _ (List.getLast_mem hNumeral.1)

/- The text of a number ends with a digit. -/
theorem body_getLast?
    (groups : Bool) :
    ∃ c, (t.body groups).getLast? = some c ∧ IsDigit c := by
  unfold body rest exponentPart
  cases t.exponent with
  | some exponent =>
      have hDigits := paddedDigits_isNumeral 2 exponent.natAbs
      have hExponent :
          ∃ before, exponentText exponent =
            before ++ paddedDigits 2 exponent.natAbs :=
        ⟨['e', _], rfl⟩
      rcases hExponent with ⟨before, hExponent⟩
      rw [Option.map_some, Option.getD_some, hExponent,
        ← List.append_assoc, ← List.append_assoc]
      exact exists_getLast?_of_isNumeral hDigits _
  | none =>
      rw [Option.map_none, Option.getD_none, List.append_nil]
      split
      · rw [List.append_nil, (groupedIf_ends groups t.whole).2]
        exact exists_getLast?_of_isNumeral t.isNumeral_whole []
      · rename_i hSome
        rw [List.isEmpty_iff] at hSome
        rw [← List.singleton_append, ← List.append_assoc]
        exact exists_getLast?_of_isNumeral
          ⟨hSome, t.isDigit_fraction⟩ _

/- The text of a number starts with a digit after its sign. -/
theorem body_head?
    (groups : Bool) :
    ∃ c, (t.body groups).head? = some c ∧ IsDigit c := by
  have hSome := t.isNumeral_whole.1
  refine ⟨t.whole.head hSome, ?_,
    t.isNumeral_whole.2 _ (List.head_mem hSome)⟩
  rw [body, List.head?_append, (groupedIf_ends groups t.whole).1,
    List.head?_eq_some_head hSome, Option.some_or]

/- A sign and digits are at the ends of the text of a number. -/
theorem text_framed
    (groups : Bool) :
    Framed IsNumberEnd (t.text groups) := by
  rcases t.body_head? groups with ⟨c, hHead, hFirst⟩
  rcases t.body_getLast? groups with ⟨d, hLast, hSecond⟩
  unfold text
  cases t.negative with
  | false => exact ⟨⟨c, hHead, .inl hFirst⟩, ⟨d, hLast, .inl hSecond⟩⟩
  | true =>
      refine ⟨⟨'-', rfl, .inr rfl⟩, ⟨d, ?_, .inl hSecond⟩⟩
      rw [Binary64.signed, if_pos rfl, List.getLast?_cons, hLast,
        Option.getD_some]

------------------------------------------------------------
-- Reading the text
------------------------------------------------------------

theorem comma_not_mem_rest : ',' ∉ t.rest :=
  fun hMember => absurd (t.mem_rest hMember) (by decide)

/- There are no spaces in the text of a number. -/
theorem filter_text
    (groups : Bool) :
    (t.text groups).filter (· != ' ') = t.text groups := by
  refine filter_of_not_mem fun hMember => ?_
  rcases Binary64.eq_or_mem_of_mem_signed hMember with hEq | hBody
  · cases hEq
  · rcases List.mem_append.mp hBody with hWhole | hRest
    · rcases eq_or_mem_of_mem_groupedIf hWhole with hEq | hDigit
      · cases hEq
      · exact absurd (t.isNumeral_whole.2 _ hDigit) (by decide)
    · exact absurd (t.mem_rest hRest) (by decide)

/- A text beside a currency is left without its groups. -/
theorem plain_of_split
    {cs : List Char}
    {groups : Bool}
    (hSplit : (splitCurrency cs).2 = t.text groups) :
    plain cs = Binary64.signed t.negative (t.whole ++ t.rest) := by
  rw [plain, hSplit, filter_text]
  exact withoutMarks_groupedIf t.negative groups t.isNumeral_whole
    t.comma_not_mem_rest t.rest_stopsDigits

/- A text from which the parts are left is read as their decimal. -/
theorem readUnsigned?_of_plain
    {cs : List Char}
    (hPlain : plain cs = Binary64.signed t.negative (t.whole ++ t.rest)) :
    readUnsigned? cs = finite? t.decimal.toBinary64 := by
  rw [readUnsigned?, hPlain, t.read?_signed]
  rfl

/- What does not start with a minus is read as a whole. -/
theorem read?_of_head
    {cs : List Char}
    {c : Char}
    (hStrip : strip cs = cs)
    (hHead : cs.head? = some c)
    (hSign : c ≠ '-') :
    Amount.read? cs = readUnsigned? cs := by
  unfold Amount.read?
  rw [hStrip]
  split
  · cases hHead
  · cases hHead
    exact (hSign rfl).elim
  · rfl

theorem finite?_neg
    (x : Binary64) :
    (finite? x).map (-·) = finite? (-x) := by
  cases x <;> rfl

/- A minus in front of a text is the sign of its number. -/
theorem read?_of_plain
    {cs : List Char}
    {c : Char}
    (hSeen : Framed (fun c => isBlank c = false) cs)
    (hHead : cs.head? = some c)
    (hSign : c ≠ '-')
    (hPlain : plain cs = t.whole ++ t.rest) :
    Amount.read? (Binary64.signed t.negative cs) =
      finite? t.decimal.toBinary64 := by
  have hStrip := hSeen.strip_eq
  have hUnsigned :
      readUnsigned? cs = finite? t.absolute.decimal.toBinary64 :=
    t.absolute.readUnsigned?_of_plain hPlain
  cases hNegative : t.negative with
  | false =>
      have hSame : t.absolute.decimal = t.decimal := by
        rw [absolute, ← hNegative]
      rw [← hSame, ← hUnsigned]
      exact read?_of_head hStrip hHead hSign
  | true =>
      have hSame : t.absolute.decimal.negated = t.decimal := by
        rw [Decimal.negated, decimal, decimal, hNegative]
        rfl
      have hMinus : Framed (fun c => isBlank c = false) ['-'] :=
        ⟨⟨'-', rfl, rfl⟩, ⟨'-', rfl, rfl⟩⟩
      have hWhole : strip ('-' :: cs) = '-' :: cs :=
        (hMinus.around hSeen []).strip_eq
      rw [← hSame, Decimal.toBinary64_negated, ← finite?_neg,
        ← hUnsigned]
      change Amount.read? ('-' :: cs) = _
      unfold Amount.read?
      rw [hWhole]
      exact congrArg (fun cs => (readUnsigned? cs).map (-·)) hStrip

/- A minus in front of a number is its sign. -/
theorem read?_text_append
    {groups : Bool}
    {tail : List Char}
    (hSeen :
      Framed (fun c => isBlank c = false) (t.body groups ++ tail))
    (hSplit :
      (splitCurrency (t.body groups ++ tail)).2 = t.body groups) :
    Amount.read? (t.text groups ++ tail) =
      finite? t.decimal.toBinary64 := by
  rcases t.body_head? groups with ⟨first, hHead, hFirst⟩
  have hStart : (t.body groups ++ tail).head? = some first := by
    rw [List.head?_append, hHead, Option.some_or]
  rw [text, Binary64.signed_append]
  exact t.read?_of_plain hSeen hStart (hFirst.ne (by decide))
    (t.absolute.plain_of_split hSplit)

end NumberText

------------------------------------------------------------
-- Currencies
------------------------------------------------------------

/-
  A format puts nothing around a number, or one currency mark on one
  side of it, with a space between them or without.
-/
inductive NumberFormat.IsMonetary (format : NumberFormat) : Prop where
  | plain
      (hLead : format.lead.getD "" = "")
      (hTail : format.tail.getD "" = "")
  | lead
      (mark gap : String)
      (hMark : mark ∈ currencyMarks)
      (hGap : IsGap gap.toList)
      (hLead : format.lead = some (mark ++ gap))
      (hTail : format.tail.getD "" = "")
  | tail
      (mark gap : String)
      (hMark : mark ∈ currencyMarks)
      (hGap : IsGap gap.toList)
      (hLead : format.lead.getD "" = "")
      (hTail : format.tail = some (gap ++ mark))

/- A currency mark hides the sign of the number that follows it. -/
theorem NumberText.read?_mark_append
    (t : NumberText)
    (groups : Bool)
    {mark gap : String}
    (hMark : mark ∈ currencyMarks)
    (hGap : IsGap gap.toList) :
    Amount.read? (mark.toList ++ (gap.toList ++ t.text groups)) =
      finite? t.decimal.toBinary64 := by
  have hText := t.text_framed groups
  have hSeen :=
    (mark_framed hMark).around (hText.mono IsNumberEnd.isBlank)
      gap.toList
  rcases (mark_framed hMark).head with ⟨c, hHead, -⟩
  have hStart :
      (mark.toList ++ (gap.toList ++ t.text groups)).head? =
        some c := by
    rw [List.head?_append, hHead, Option.some_or]
  have hSign : c ≠ '-' := by
    rintro rfl
    exact not_mem_of_standsApart hMark (.inr (.inl rfl))
      (List.mem_of_mem_head? hHead)
  rw [read?_of_head hSeen.strip_eq hStart hSign]
  exact t.readUnsigned?_of_plain
    (t.plain_of_split (splitCurrency_lead hMark hGap hText))

/- A number with its currency is read as its decimal. -/
theorem NumberText.read?_affixed
    {format : NumberFormat}
    (hMonetary : format.IsMonetary)
    (t : NumberText)
    (groups : Bool) :
    Amount.read? (format.affixed (t.text groups)) =
      finite? t.decimal.toBinary64 := by
  have hBody : Framed IsNumberEnd (t.body groups) :=
    t.absolute.text_framed groups
  cases hMonetary with
  | plain hLead hTail =>
      have hNone : t.body groups ++ [] = t.body groups :=
        List.append_nil _
      have hSeen :
          Framed (fun c => isBlank c = false) (t.body groups ++ []) := by
        rw [hNone]
        exact hBody.mono IsNumberEnd.isBlank
      have hSplit :
          (splitCurrency (t.body groups ++ [])).2 = t.body groups := by
        rw [hNone, splitCurrency_of_framed hBody]
      rw [NumberFormat.affixed, hLead, hTail]
      exact t.read?_text_append hSeen hSplit
  | lead mark gap hMark hGap hLead hTail =>
      rw [NumberFormat.affixed, hLead, hTail]
      simp only [Option.getD_some, String.toList_append,
        List.append_assoc, String.toList_empty, List.append_nil]
      exact t.read?_mark_append groups hMark hGap
  | tail mark gap hMark hGap hLead hTail =>
      have hSeen :=
        (hBody.mono IsNumberEnd.isBlank).around (mark_framed hMark)
          gap.toList
      have hSplit := splitCurrency_tail hMark hGap hBody
      rw [NumberFormat.affixed, hLead, hTail]
      simp only [Option.getD_some, String.toList_append]
      exact t.read?_text_append hSeen hSplit

end RecordRules
