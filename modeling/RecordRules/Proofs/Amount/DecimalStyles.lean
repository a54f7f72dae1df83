import RecordRules.Proofs.Amount.NumberText
import RecordRules.Proofs.Amount.Scripts

/-
  The ways to write one number with a fraction, which are all read as
  that number.

  Main declarations:
    * `Amount.DecimalStyle`, its `body` and the numbers that it `Suits`
    * `Amount.IsPriced`, what a currency puts around a number
    * `Amount.withoutMarks_body`
    * `Amount.styles_are_read_alike`
-/

namespace RecordRules

open Text Numeric

namespace Amount

------------------------------------------------------------
-- Styles
------------------------------------------------------------

/-
  A point or a comma before the fraction, with the digits before it
  in groups of three or not.
-/
inductive DecimalStyle where
  | plain
  | comma
  | american
  | european

namespace DecimalStyle

/- The digits before the fraction. -/
def front (whole : List Char) : DecimalStyle → List Char
  | plain | comma => whole
  | american => grouped whole
  | european => (grouped whole).map toPoint

/- What stands before the fraction. -/
def mark : DecimalStyle → Char
  | plain | american => '.'
  | comma | european => ','

/- The text of a number in a style. -/
def body
    (style : DecimalStyle)
    (whole fraction : List Char) : List Char :=
  style.front whole ++ style.mark :: fraction

/-
  The numbers that a style is for: a comma for the point has a short
  fraction behind it, or a group before it.
-/
def Suits
    (whole fraction : List Char) : DecimalStyle → Prop
  | plain | american => True
  | comma => fraction.length ≤ 2
  | european => 4 ≤ whole.length

end DecimalStyle

/-
  A currency mark before or after a number, with a space between them
  or without, or none.
-/
inductive IsPriced : List Char → List Char → Prop where
  | bare : IsPriced [] []
  | lead
      (mark : String)
      (gap : List Char)
      (hMark : mark ∈ currencyMarks)
      (hGap : IsGap gap) :
      IsPriced (mark.toList ++ gap) []
  | tail
      (mark : String)
      (gap : List Char)
      (hMark : mark ∈ currencyMarks)
      (hGap : IsGap gap) :
      IsPriced [] (gap ++ mark.toList)

------------------------------------------------------------
-- Groups with points
------------------------------------------------------------

section Groups

variable {digits : List Char}

theorem toPoint_of_isDigit
    {c : Char}
    (hDigit : IsDigit c) :
    toPoint c = c := by
  have hComma : c ≠ ',' := hDigit.ne (by decide)
  rw [toPoint, if_neg (by simpa using hComma)]

theorem not_mem_of_digits
    {mark : Char}
    (hMark : ¬ IsDigit mark)
    (hDigits : ∀ c ∈ digits, IsDigit c) :
    mark ∉ digits :=
  fun hMember => hMark (hDigits mark hMember)

/- Digits have no marks that could be changed. -/
theorem unmarked_of_digits
    (hDigits : ∀ c ∈ digits, IsDigit c) :
    digits.map toPoint = digits ∧
      digits.filter (· != '.') = digits :=
  ⟨map_toPoint (not_mem_of_digits (by decide) hDigits),
    filter_of_not_mem (not_mem_of_digits (by decide) hDigits)⟩

/- Points between digits are taken out again. -/
theorem filter_pointed_reversed
    (hDigits : ∀ c ∈ digits, IsDigit c) :
    ((groupReversed digits).map toPoint).filter (· != '.') = digits := by
  induction digits using groupReversed.induct with
  | case1 a b c d rest ih =>
      have hRest := ih fun e hMember => hDigits e (by simp [hMember])
      have hThree : ∀ e ∈ [a, b, c], IsDigit e :=
        fun e hMember => hDigits e (by
          simp only [List.mem_cons, List.not_mem_nil] at hMember ⊢
          tauto)
      have hGroup :
          (([a, b, c].map toPoint).filter (· != '.')) = [a, b, c] := by
        rw [(unmarked_of_digits hThree).1,
          (unmarked_of_digits hThree).2]
      have hSplit :
          groupReversed (a :: b :: c :: d :: rest) =
            [a, b, c] ++ ',' :: groupReversed (d :: rest) := by
        rw [groupReversed]
        rfl
      rw [hSplit, List.map_append, List.filter_append, hGroup,
        List.map_cons]
      change [a, b, c] ++
        ((groupReversed (d :: rest)).map toPoint).filter (· != '.') = _
      rw [hRest]
      rfl
  | case2 short hShort =>
      rw [groupReversed, (unmarked_of_digits hDigits).1,
        (unmarked_of_digits hDigits).2]
      exact hShort

theorem filter_pointed
    (hDigits : ∀ c ∈ digits, IsDigit c) :
    ((grouped digits).map toPoint).filter (· != '.') = digits := by
  have hReversed : ∀ c ∈ digits.reverse, IsDigit c :=
    fun c hMember => hDigits c (List.mem_reverse.mp hMember)
  rw [grouped, List.map_reverse, List.filter_reverse,
    filter_pointed_reversed hReversed, List.reverse_reverse]

/- Four digits or more make two groups. -/
theorem comma_mem_grouped
    (hLong : 4 ≤ digits.length) :
    ',' ∈ grouped digits := by
  rw [← List.length_reverse] at hLong
  rw [grouped, List.mem_reverse]
  rcases hReversed : digits.reverse with
    _ | ⟨a, _ | ⟨b, _ | ⟨c, _ | ⟨d, rest⟩⟩⟩⟩
  all_goals rw [hReversed] at hLong
  · simp at hLong
  · simp at hLong
  · simp at hLong
  · simp at hLong
  · rw [groupReversed]
    simp

end Groups

------------------------------------------------------------
-- Marks taken out
------------------------------------------------------------

section Marks

variable {whole fraction : List Char}

/- A comma before digits is the last mark. -/
theorem lastMark?_comma
    (cs : List Char)
    (hFraction : ∀ c ∈ fraction, IsDigit c) :
    lastMark? (cs ++ ',' :: fraction) = some ',' := by
  have hNone :
      fraction.reverse.find? (fun c => c == '.' || c == ',') = none := by
    rw [List.find?_eq_none]
    intro c hMember hMark
    have hDigit := hFraction c (List.mem_reverse.mp hMember)
    simp only [Bool.or_eq_true, beq_iff_eq] at hMark
    rcases hMark with rfl | rfl <;> exact absurd hDigit (by decide)
  rw [lastMark?, List.reverse_append, List.reverse_cons,
    List.append_assoc, List.find?_append, hNone]
  rfl

/- A short run of digits is a fraction. -/
theorem isShortFraction_of_length
    (hFraction : IsNumeral fraction)
    (hShort : fraction.length ≤ 2) :
    isShortFraction fraction = true := by
  rcases fraction with _ | ⟨a, _ | ⟨b, _ | ⟨c, rest⟩⟩⟩
  · exact absurd rfl hFraction.1
  · exact (hFraction.2 a (by simp)).isDecimal
  · have hFirst := (hFraction.2 a (by simp)).isDecimal
    have hSecond := (hFraction.2 b (by simp)).isDecimal
    simp [isShortFraction, hFirst, hSecond]
  · simp at hShort

/- A comma is the decimal mark where a short fraction follows it. -/
theorem hasDecimalComma_of_short
    (hWhole : IsNumeral whole)
    (hFraction : IsNumeral fraction)
    (hShort : fraction.length ≤ 2) :
    hasDecimalComma (whole ++ ',' :: fraction) = true := by
  have hPoint : (whole ++ ',' :: fraction).contains '.' = false := by
    rw [← Bool.not_eq_true, List.contains_iff_mem, List.mem_append,
      List.mem_cons]
    rintro (hMember | hEq | hMember)
    · exact absurd (hWhole.2 _ hMember) (by decide)
    · cases hEq
    · exact absurd (hFraction.2 _ hMember) (by decide)
  have hComma : StopsDigits (',' :: fraction) := by
    rintro c hHead
    cases hHead
    decide
  have hDigits :
      ((whole ++ ',' :: fraction).takeWhile isDecimal).isEmpty =
        false := by
    rcases List.exists_cons_of_ne_nil hWhole.1 with ⟨d, rest, rfl⟩
    have hFirst := (hWhole.2 d (by simp)).isDecimal
    rw [List.cons_append, List.takeWhile_cons_of_pos hFirst]
    rfl
  rw [hasDecimalComma, hPoint, Bool.false_and,
    if_neg Bool.false_ne_true, isCommaDecimal,
    dropWhile_isDecimal_append hWhole.2 hComma, hDigits]
  exact isShortFraction_of_length hFraction hShort

/- A comma is the decimal mark where groups with points precede it. -/
theorem hasDecimalComma_of_long
    (hFraction : ∀ c ∈ fraction, IsDigit c)
    (hLong : 4 ≤ whole.length) :
    hasDecimalComma ((grouped whole).map toPoint ++ ',' :: fraction) =
      true := by
  have hPoint :
      ((grouped whole).map toPoint ++ ',' :: fraction).contains '.' =
        true := by
    rw [List.contains_iff_mem, List.mem_append]
    exact .inl (List.mem_map.mpr ⟨',', comma_mem_grouped hLong, rfl⟩)
  have hComma :
      ((grouped whole).map toPoint ++ ',' :: fraction).contains ',' =
        true := by
    simp
  rw [hasDecimalComma, hPoint, hComma, Bool.and_self, if_pos rfl,
    lastMark?_comma _ hFraction]
  rfl

/- A decimal comma behind digits, in groups with points or not. -/
theorem withoutMarks_comma
    {first : List Char}
    (hWhole : ∀ c ∈ whole, IsDigit c)
    (hFraction : ∀ c ∈ fraction, IsDigit c)
    (hFirst : first.filter (· != '.') = whole)
    (hComma : hasDecimalComma (first ++ ',' :: fraction) = true) :
    withoutMarks (first ++ ',' :: fraction) =
      whole ++ '.' :: fraction := by
  have hKept : withDecimalPoint first = whole := by
    rw [withDecimalPoint_eq, hFirst]
    exact (unmarked_of_digits hWhole).1
  rw [withoutMarks, hComma, if_pos rfl, withDecimalPoint_append, hKept]
  · exact fun hMember => absurd (hFraction _ hMember) (by decide)
  · exact fun hMember => absurd (hFraction _ hMember) (by decide)

/- In every style a number is left with a point and no groups. -/
theorem withoutMarks_body
    {style : DecimalStyle}
    (hWhole : IsNumeral whole)
    (hFraction : IsNumeral fraction)
    (hSuits : style.Suits whole fraction) :
    withoutMarks (style.body whole fraction) =
      whole ++ '.' :: fraction := by
  have hNoComma : ',' ∉ '.' :: fraction := by
    rw [List.mem_cons, not_or]
    exact
      ⟨by decide, fun hMember =>
        absurd (hFraction.2 _ hMember) (by decide)⟩
  have hStops : StopsDigits ('.' :: fraction) := by
    rintro c hHead
    cases hHead
    decide
  cases style with
  | plain =>
      exact withoutMarks_groupedIf false false hWhole hNoComma hStops
  | american =>
      exact withoutMarks_groupedIf false true hWhole hNoComma hStops
  | comma =>
      exact withoutMarks_comma hWhole.2 hFraction.2
        (unmarked_of_digits hWhole.2).2
        (hasDecimalComma_of_short hWhole hFraction hSuits)
  | european =>
      exact withoutMarks_comma hWhole.2 hFraction.2
        (filter_pointed hWhole.2)
        (hasDecimalComma_of_long hFraction.2 hSuits)

end Marks

------------------------------------------------------------
-- Texts of numbers
------------------------------------------------------------

section Bodies

variable
  {whole fraction : List Char}
  {c : Char}
  (style : DecimalStyle)

/- The digits before the fraction start with the first of them. -/
theorem head?_front
    (hWhole : ∀ c ∈ whole, IsDigit c) :
    (style.front whole).head? = whole.head? := by
  have hGrouped : (grouped whole).head? = whole.head? :=
    (groupedIf_ends true whole).1
  cases style with
  | plain | comma => rfl
  | american => exact hGrouped
  | european =>
      change ((grouped whole).map toPoint).head? = _
      rw [List.head?_map, hGrouped]
      cases hHead : whole.head? with
      | none => rfl
      | some c =>
          have hDigit := hWhole c (List.mem_of_mem_head? hHead)
          rw [Option.map_some, toPoint_of_isDigit hDigit]

theorem mem_front
    (hMember : c ∈ style.front whole) :
    c ∈ [',', '.'] ∨ c ∈ whole := by
  have hGrouped (d : Char) (hThere : d ∈ groupedIf true whole) :
      d = ',' ∨ d ∈ whole :=
    eq_or_mem_of_mem_groupedIf hThere
  cases style with
  | plain | comma => exact .inr hMember
  | american =>
      rcases hGrouped c hMember with rfl | hDigit
      · exact .inl (by simp)
      · exact .inr hDigit
  | european =>
      rcases List.mem_map.mp hMember with ⟨d, hThere, rfl⟩
      unfold toPoint
      split
      · exact .inl (by simp)
      · rename_i hOther
        rcases hGrouped d hThere with rfl | hDigit
        · exact (hOther rfl).elim
        · exact .inr hDigit

/- There are no spaces in the text of a number. -/
theorem filter_body
    (hWhole : ∀ c ∈ whole, IsDigit c)
    (hFraction : ∀ c ∈ fraction, IsDigit c) :
    (style.body whole fraction).filter (· != ' ') =
      style.body whole fraction := by
  refine filter_of_not_mem fun hMember => ?_
  rcases List.mem_append.mp hMember with hFront | hRest
  · rcases mem_front style hFront with hMark | hDigit
    · exact absurd hMark (by decide)
    · exact absurd (hWhole _ hDigit) (by decide)
  · rcases List.mem_cons.mp hRest with hMark | hDigit
    · cases style <;> cases hMark
    · exact absurd (hFraction _ hDigit) (by decide)

/- Digits are at the ends of the text of a number. -/
theorem body_framed
    (hWhole : IsNumeral whole)
    (hFraction : IsNumeral fraction) :
    Framed IsDigit (style.body whole fraction) := by
  have hHead := List.head?_eq_some_head hWhole.1
  have hLast := List.getLast?_eq_some_getLast hFraction.1
  refine ⟨⟨_, ?_, hWhole.2 _ (List.head_mem hWhole.1)⟩,
    ⟨_, ?_, hFraction.2 _ (List.getLast_mem hFraction.1)⟩⟩
  · rw [DecimalStyle.body, List.head?_append,
      head?_front style hWhole.2, hHead, Option.some_or]
  · rw [DecimalStyle.body, List.getLast?_append, List.getLast?_cons,
      hLast]
    rfl

end Bodies

------------------------------------------------------------
-- Prices
------------------------------------------------------------

section Prices

variable {whole fraction before after cs : List Char}

/- What a currency puts around a number is taken away. -/
theorem IsPriced.splitCurrency_eq
    (hPriced : IsPriced before after)
    (hFramed : Framed IsNumberEnd cs) :
    (splitCurrency (before ++ (cs ++ after))).2 = cs := by
  cases hPriced with
  | bare =>
      rw [List.nil_append, List.append_nil,
        splitCurrency_of_framed hFramed]
  | lead mark gap hMark hGap =>
      rw [List.append_nil, List.append_assoc]
      exact splitCurrency_lead hMark hGap hFramed
  | tail mark gap hMark hGap =>
      exact splitCurrency_tail hMark hGap hFramed

/- A number with its currency is seen at both ends. -/
theorem IsPriced.framed
    (hPriced : IsPriced before after)
    (hFramed : Framed IsNumberEnd cs) :
    Framed (fun c => isBlank c = false) (before ++ (cs ++ after)) := by
  have hSeen := hFramed.mono IsNumberEnd.isBlank
  cases hPriced with
  | bare => rwa [List.nil_append, List.append_nil]
  | lead mark gap hMark hGap =>
      rw [List.append_nil, List.append_assoc]
      exact (mark_framed hMark).around hSeen gap
  | tail mark gap hMark hGap =>
      exact hSeen.around (mark_framed hMark) gap

/- A number with its currency does not start with a minus. -/
theorem IsPriced.exists_head?
    (hPriced : IsPriced before after)
    (hFramed : Framed IsDigit cs) :
    ∃ c, (before ++ (cs ++ after)).head? = some c ∧ c ≠ '-' := by
  rcases hFramed.head with ⟨d, hHead, hDigit⟩
  have hOther : d ≠ '-' := hDigit.ne (by decide)
  cases hPriced with
  | bare =>
      exact ⟨d, by rw [List.nil_append, List.append_nil, hHead], hOther⟩
  | lead mark gap hMark hGap =>
      rcases (mark_framed hMark).head with ⟨c, hFirst, -⟩
      refine ⟨c, ?_, ?_⟩
      · rw [List.append_assoc, List.head?_append, hFirst, Option.some_or]
      · rintro rfl
        exact not_mem_of_standsApart hMark (.inr (.inl rfl))
          (List.mem_of_mem_head? hFirst)
  | tail mark gap hMark hGap =>
      refine ⟨d, ?_, hOther⟩
      rw [List.nil_append, List.head?_append, hHead, Option.some_or]

/- The parts of a number with a fraction. -/
def numberText
    (negative : Bool)
    (hWhole : IsNumeral whole)
    (hFraction : IsNumeral fraction) : NumberText :=
  ⟨negative, whole, fraction, none, hWhole, hFraction.2⟩

/- In every style a number in ASCII digits is read as its decimal. -/
theorem read?_body
    {style : DecimalStyle}
    (negative : Bool)
    (hWhole : IsNumeral whole)
    (hFraction : IsNumeral fraction)
    (hSuits : style.Suits whole fraction)
    (hPriced : IsPriced before after) :
    Amount.read?
        (Binary64.signed negative
          (before ++ (style.body whole fraction ++ after))) =
      finite?
        (numberText negative hWhole hFraction).decimal.toBinary64 := by
  have hDigits := body_framed style hWhole hFraction
  have hEnds : Framed IsNumberEnd (style.body whole fraction) :=
    hDigits.mono fun c hDigit => .inl hDigit
  rcases hPriced.exists_head? hDigits with ⟨c, hHead, hSign⟩
  have hRest :
      (numberText negative hWhole hFraction).rest = '.' :: fraction := by
    have hSome : fraction.isEmpty = false := by
      simpa using hFraction.1
    rw [NumberText.rest, numberText]
    dsimp only
    rw [hSome, if_neg Bool.false_ne_true]
    exact List.append_nil _
  refine NumberText.read?_of_plain (numberText negative hWhole hFraction)
    (hPriced.framed hEnds) hHead hSign ?_
  rw [hRest, plain, hPriced.splitCurrency_eq hEnds,
    filter_body style hWhole.2 hFraction.2,
    withoutMarks_body hWhole hFraction hSuits]
  rfl

end Prices

------------------------------------------------------------
-- Digits of every script
------------------------------------------------------------

section Scripts

variable {whole fraction before after : List Char}

theorem groupReversed_asciiText
    (digits : List Char) :
    groupReversed (asciiText digits) =
      asciiText (groupReversed digits) := by
  induction digits using groupReversed.induct with
  | case1 a b c d rest ih =>
      rw [asciiText_cons d rest] at ih
      simp only [asciiText_cons, groupReversed, ih]
      rfl
  | case2 short hShort =>
      rcases short with _ | ⟨a, _ | ⟨b, _ | ⟨c, _ | ⟨d, rest⟩⟩⟩⟩
      · rfl
      · rfl
      · rfl
      · rfl
      · exact (hShort a b c d rest rfl).elim

theorem grouped_asciiText
    (digits : List Char) :
    grouped (asciiText digits) = asciiText (grouped digits) := by
  have hReversed := groupReversed_asciiText digits.reverse
  rw [asciiText, List.map_reverse] at hReversed
  rw [grouped, asciiText, hReversed, asciiText, ← List.map_reverse,
    grouped, asciiText]

theorem toPoint_asciiForm
    (c : Char) :
    toPoint (asciiForm c) = asciiForm (toPoint c) := by
  have hComma : isDecimal ',' = false := by decide
  rw [toPoint, toPoint, asciiForm_beq hComma]
  split
  · rfl
  · rfl

/- A number in any script has its groups and marks in ASCII as well. -/
theorem asciiText_body
    (style : DecimalStyle)
    (whole fraction : List Char) :
    asciiText (style.body whole fraction) =
      style.body (asciiText whole) (asciiText fraction) := by
  have hMark : asciiForm style.mark = style.mark := by
    cases style <;> rfl
  have hFront :
      asciiText (style.front whole) = style.front (asciiText whole) := by
    cases style with
    | plain | comma => rfl
    | american => exact (grouped_asciiText whole).symm
    | european =>
        change asciiText ((grouped whole).map toPoint) =
          (grouped (asciiText whole)).map toPoint
        rw [grouped_asciiText, asciiText, asciiText, List.map_map,
          List.map_map]
        exact List.map_congr_left fun c _ => (toPoint_asciiForm c).symm
  rw [DecimalStyle.body, asciiText_append, asciiText_cons, hMark, hFront,
    DecimalStyle.body]

/- A currency has no digits. -/
theorem IsPriced.asciiText_eq
    (hPriced : IsPriced before after) :
    asciiText before = before ∧ asciiText after = after := by
  have hGaps {gap : List Char} (hGap : IsGap gap) :
      asciiText gap = gap := by
    rcases hGap with rfl | rfl <;> rfl
  have hMarks {mark : String} (hMark : mark ∈ currencyMarks) :
      asciiText mark.toList = mark.toList :=
    asciiText_of_no_digits (not_isDecimal_of_mark mark hMark)
  cases hPriced with
  | bare => exact ⟨rfl, rfl⟩
  | lead mark gap hMark hGap =>
      rw [asciiText_append, hMarks hMark, hGaps hGap]
      exact ⟨rfl, rfl⟩
  | tail mark gap hMark hGap =>
      rw [asciiText_append, hMarks hMark, hGaps hGap]
      exact ⟨rfl, rfl⟩

theorem asciiText_signed
    (negative : Bool)
    (cs : List Char) :
    asciiText (Binary64.signed negative cs) =
      Binary64.signed negative (asciiText cs) := by
  cases negative <;> rfl

/- The decimal that digits of any script before and after a point are. -/
def decimalOf
    (negative : Bool)
    (whole fraction : List Char) : Decimal :=
  { negative := negative
    coefficient :=
      digitsValue ((whole ++ fraction).filterMap digitValue?)
    exponent := -fraction.length }

/- In every style a number in digits of any script is read. -/
theorem parse_body
    (style : DecimalStyle)
    (negative : Bool)
    (hWhole : IsDecimalText whole)
    (hFraction : IsDecimalText fraction)
    (hSuits : style.Suits whole fraction)
    (hPriced : IsPriced before after) :
    parse
        (.text
          (String.ofList
            (Binary64.signed negative
              (before ++ (style.body whole fraction ++ after))))) =
      .ok
        (finite? (decimalOf negative whole fraction).toBinary64) := by
  have hSame :
      style.Suits (asciiText whole) (asciiText fraction) := by
    cases style with
    | plain | american => trivial
    | comma => exact (length_asciiText fraction).trans_le hSuits
    | european => exact hSuits.trans_eq (length_asciiText whole).symm
  rcases hPriced.asciiText_eq with ⟨hBefore, hAfter⟩
  have hText :
      asciiText
          (Binary64.signed negative
            (before ++ (style.body whole fraction ++ after))) =
        Binary64.signed negative
          (before ++
            (style.body (asciiText whole) (asciiText fraction) ++
              after)) := by
    rw [asciiText_signed, asciiText_append, asciiText_append,
      asciiText_body, hBefore, hAfter]
  have hDecimal :
      (numberText negative hWhole.isNumeral hFraction.isNumeral).decimal =
        decimalOf negative whole fraction := by
    have hAll : ∀ c ∈ whole ++ fraction, isDecimal c = true := by
      rw [List.forall_mem_append]
      exact ⟨hWhole.2, hFraction.2⟩
    rw [NumberText.decimal, numberText, decimalOf, ← asciiText_append,
      IsDecimalText.numeralValue_asciiText hAll, length_asciiText]
    simp
  have hRead :=
    read?_body negative hWhole.isNumeral hFraction.isNumeral hSame hPriced
  rw [← hText, read?_asciiText, hDecimal] at hRead
  change Except.ok (Amount.read? (String.ofList _).toList) = _
  rw [String.toList_ofList, hRead]

/-
  A number in the American style, in the European one or with a comma
  for the point is read as its plain text with the same sign is, with
  any currency mark on one side of it or none. The minus leads the
  whole text, and the digits are of any script.
-/
theorem styles_are_read_alike
    {style : DecimalStyle}
    (negative : Bool)
    (hWhole : IsDecimalText whole)
    (hFraction : IsDecimalText fraction)
    (hSuits : style.Suits whole fraction)
    (hPriced : IsPriced before after) :
    parse
          (.text
            (String.ofList
              (Binary64.signed negative
                (before ++ (style.body whole fraction ++ after))))) =
        parse
          (.text
            (String.ofList
              (Binary64.signed negative (whole ++ '.' :: fraction)))) ∧
      parse
          (.text
            (String.ofList
              (Binary64.signed negative (whole ++ '.' :: fraction)))) =
        .ok
          (finite? (decimalOf negative whole fraction).toBinary64) := by
  have hPlain :=
    parse_body .plain negative hWhole hFraction trivial .bare
  rw [List.nil_append, List.append_nil] at hPlain
  exact
    ⟨(parse_body style negative hWhole hFraction hSuits hPriced).trans
        hPlain.symm,
      hPlain⟩

/- Points between groups and a comma before cents. -/
theorem european_price_is_read :
    IsDecimalText "1234567".toList ∧
      IsDecimalText "89".toList ∧
      DecimalStyle.european.Suits "1234567".toList "89".toList ∧
      IsPriced "EUR ".toList [] ∧
      parse (.text "-EUR 1.234.567,89") = parse (.text "-1234567.89") ∧
      parse (.text "-1234567.89") =
        .ok (finite? (Decimal.mk true 123456789 (-2)).toBinary64) := by
  have hWhole : IsDecimalText "1234567".toList :=
    ⟨by decide, by decide⟩
  have hFraction : IsDecimalText "89".toList := ⟨by decide, by decide⟩
  have hPriced : IsPriced "EUR ".toList [] :=
    .lead "EUR" [' '] (by decide) (.inr rfl)
  have hSuits :
      DecimalStyle.european.Suits "1234567".toList "89".toList := by
    change 4 ≤ "1234567".toList.length
    decide
  rcases styles_are_read_alike true hWhole hFraction hSuits hPriced with
    ⟨hAlike, hValue⟩
  exact ⟨hWhole, hFraction, hSuits, hPriced, hAlike, hValue⟩

end Scripts

end Amount

end RecordRules
