import Mathlib.Data.List.TakeWhile
import RecordRules.Amount.Reading
import RecordRules.Numeric.Printed
import RecordRules.Proofs.Text.Ascii

/-
  Digits in groups of three, and their marks taken out again.

  Main declarations:
    * `Numeric.grouped_append_ne_nil` and `Numeric.mem_grouped`
    * `Amount.foldr_joinGroup`, the groups of digits are joined
    * `Amount.ungroup_eq_self`, a text without commas
    * `Amount.exists_of_hasDecimalComma`, a text around its decimal
      comma
    * `Amount.withoutMarks_groupedIf`
-/

namespace RecordRules

open Text Numeric

------------------------------------------------------------
-- Characters of grouped digits
------------------------------------------------------------

namespace Numeric

/- Groups add commas only. -/
theorem eq_or_mem_of_mem_groupReversed
    {digits : List Char}
    {c : Char}
    (hMember : c ∈ groupReversed digits) :
    c = ',' ∨ c ∈ digits := by
  induction digits using groupReversed.induct with
  | case1 a b c' d rest ih =>
      rw [groupReversed] at hMember
      simp only [List.mem_cons] at hMember ih ⊢
      rcases hMember with hEq | hEq | hEq | hEq | hLater
      · exact .inr (.inl hEq)
      · exact .inr (.inr (.inl hEq))
      · exact .inr (.inr (.inr (.inl hEq)))
      · exact .inl hEq
      · rcases ih hLater with hComma | hDigit
        · exact .inl hComma
        · exact .inr (.inr (.inr (.inr hDigit)))
  | case2 short hShort =>
      rw [groupReversed] at hMember
      · exact .inr hMember
      · exact hShort

/- Groups leave the first and the last digit at their ends. -/
theorem groupReversed_ends
    (digits : List Char) :
    (groupReversed digits).head? = digits.head? ∧
      (groupReversed digits).getLast? = digits.getLast? := by
  induction digits using groupReversed.induct with
  | case1 a b c d rest ih =>
      rw [groupReversed]
      refine ⟨rfl, ?_⟩
      simp only [List.getLast?_cons, ih.2, Option.getD_some]
  | case2 short hShort =>
      rw [groupReversed]
      · exact ⟨rfl, rfl⟩
      · exact hShort

/- Grouped or not, digits start and end with digits. -/
theorem groupedIf_ends
    (groups : Bool)
    (digits : List Char) :
    (groupedIf groups digits).head? = digits.head? ∧
      (groupedIf groups digits).getLast? = digits.getLast? := by
  rcases groupReversed_ends digits.reverse with ⟨hHead, hLast⟩
  cases groups with
  | false => exact ⟨rfl, rfl⟩
  | true =>
      rw [groupedIf, if_pos rfl, grouped, List.head?_reverse,
        List.getLast?_reverse, hHead, hLast, List.head?_reverse,
        List.getLast?_reverse]
      exact ⟨rfl, rfl⟩

theorem eq_or_mem_of_mem_groupedIf
    {groups : Bool}
    {digits : List Char}
    {c : Char}
    (hMember : c ∈ groupedIf groups digits) :
    c = ',' ∨ c ∈ digits := by
  cases groups with
  | false => exact .inr hMember
  | true =>
      rw [groupedIf, if_pos rfl, grouped, List.mem_reverse] at hMember
      rcases eq_or_mem_of_mem_groupReversed hMember with
        hComma | hDigit
      · exact .inl hComma
      · exact .inr (List.mem_reverse.mp hDigit)

end Numeric

/- A sign belongs to the first part of a text. -/
theorem Binary64.signed_append
    (negative : Bool)
    (first second : List Char) :
    signed negative first ++ second =
      signed negative (first ++ second) := by
  cases negative <;> rfl

theorem Binary64.eq_or_mem_of_mem_signed
    {negative : Bool}
    {cs : List Char}
    {c : Char}
    (hMember : c ∈ signed negative cs) :
    c = '-' ∨ c ∈ cs := by
  cases negative with
  | false => exact .inr hMember
  | true => exact List.mem_cons.mp hMember

/- A character that is not there is left out of nothing. -/
theorem Text.filter_of_not_mem
    {mark : Char}
    {cs : List Char}
    (hNone : mark ∉ cs) :
    cs.filter (· != mark) = cs := by
  rw [List.filter_eq_self]
  intro c hMember
  rw [bne_iff_ne]
  rintro rfl
  exact hNone hMember

namespace Amount

------------------------------------------------------------
-- Groups joined
------------------------------------------------------------

/- A text that loses its comma to a digit before it. -/
def Joins (base joined : List Char) : Prop :=
  ∀ d, IsDigit d → joinGroup d base = d :: joined

/- Only a comma is ever lost. -/
theorem joinGroup_of_head
    {cs : List Char}
    (hHead : ∀ c ∈ cs.head?, c ≠ ',')
    (d : Char) :
    joinGroup d cs = d :: cs := by
  unfold joinGroup
  split
  · exact absurd rfl (hHead ',' rfl)
  · rfl

theorem joins_self
    {cs : List Char}
    (hHead : ∀ c ∈ cs.head?, c ≠ ',') :
    Joins cs cs :=
  fun d _ => joinGroup_of_head hHead d

/- A comma between digits and a group of three is lost. -/
theorem joins_comma
    {a b c : Char}
    {rest : List Char}
    (hFirst : IsDigit a)
    (hSecond : IsDigit b)
    (hThird : IsDigit c) :
    Joins (',' :: a :: b :: c :: rest) (a :: b :: c :: rest) := by
  intro d hDigit
  have hGroup : startsWithGroup (a :: b :: c :: rest) = true := by
    simp [startsWithGroup, hFirst.isDecimal, hSecond.isDecimal,
      hThird.isDecimal]
  simp [joinGroup, hDigit.isDecimal, hGroup]

/- Digits before a text are put there one by one. -/
theorem foldr_joinGroup_digits
    {digits base joined : List Char}
    (hDigits : ∀ c ∈ digits, IsDigit c)
    (hJoins : Joins base joined)
    (hSome : digits ≠ []) :
    digits.foldr joinGroup base = digits ++ joined := by
  induction digits with
  | nil => exact (hSome rfl).elim
  | cons d rest ih =>
      have hFirst : IsDigit d := hDigits d (by simp)
      rcases rest with _ | ⟨e, rest⟩
      · exact hJoins d hFirst
      · have hSecond : IsDigit e := hDigits e (by simp)
        have hRest := ih (fun c hMember => hDigits c (by simp [hMember]))
          nofun
        rw [List.foldr_cons, hRest]
        refine joinGroup_of_head ?_ d
        intro c hHead
        cases hHead
        exact hSecond.ne (by decide)

/-
  The groups of digits before a text are joined. The induction is on
  the groups from the right: the comma of each is lost to the group
  before it.
-/
theorem foldr_joinGroup_grouped
    {reversed base joined : List Char}
    (hDigits : ∀ c ∈ reversed, IsDigit c)
    (hJoins : Joins base joined)
    (hSome : reversed ≠ []) :
    (groupReversed reversed).reverse.foldr joinGroup base =
      reversed.reverse ++ joined := by
  induction reversed using groupReversed.induct generalizing base joined with
  | case1 a b c d rest ih =>
      have hFirst : IsDigit a := hDigits a (by simp)
      have hSecond : IsDigit b := hDigits b (by simp)
      have hThird : IsDigit c := hDigits c (by simp)
      have hGroup :
          [c, b, a].foldr joinGroup base = [c, b, a] ++ joined := by
        refine foldr_joinGroup_digits ?_ hJoins nofun
        simp [hFirst, hSecond, hThird]
      have hComma :
          [',', c, b, a].foldr joinGroup base =
            ',' :: c :: b :: a :: joined := by
        rw [List.foldr_cons, hGroup]
        refine joinGroup_of_head ?_ ','
        intro e hHead
        cases hHead
        exact hThird.ne (by decide)
      have hNext :
          Joins (',' :: c :: b :: a :: joined) (c :: b :: a :: joined) :=
        joins_comma hThird hSecond hFirst
      have hMore :=
        ih (fun e hMember => hDigits e (by simp [hMember])) hNext nofun
      rw [groupReversed]
      simp only [List.reverse_cons, List.append_assoc, List.cons_append,
        List.nil_append] at hMore ⊢
      rw [List.foldr_append, hComma]
      simpa using hMore
  | case2 short hShort =>
      rw [groupReversed]
      · refine foldr_joinGroup_digits ?_ hJoins (by simpa using hSome)
        simpa using hDigits
      · exact hShort

/- A text without commas has no groups. -/
theorem ungroup_eq_self
    {cs : List Char}
    (hComma : ',' ∉ cs) :
    ungroup cs = cs := by
  induction cs with
  | nil => rfl
  | cons c rest ih =>
      rw [List.mem_cons, not_or] at hComma
      have hRest : rest.foldr joinGroup [] = rest := ih hComma.2
      rw [ungroup, List.foldr_cons, hRest]
      refine joinGroup_of_head ?_ c
      rintro d hHead rfl
      exact hComma.2 (List.mem_of_mem_head? hHead)

/- Groups before a text without commas are joined. -/
theorem ungroup_groupedIf
    {whole rest : List Char}
    (groups : Bool)
    (hWhole : IsNumeral whole)
    (hComma : ',' ∉ rest) :
    ungroup (groupedIf groups whole ++ rest) = whole ++ rest := by
  cases groups with
  | false =>
      refine ungroup_eq_self ?_
      rw [List.mem_append, not_or]
      exact ⟨fun hMember => absurd (hWhole.2 _ hMember) (by decide),
        hComma⟩
  | true =>
      have hJoins : Joins rest rest := by
        refine joins_self ?_
        rintro c hHead rfl
        exact hComma (List.mem_of_mem_head? hHead)
      have hRest : rest.foldr joinGroup [] = rest :=
        ungroup_eq_self hComma
      rw [ungroup, groupedIf, if_pos rfl, List.foldr_append, hRest,
        grouped, foldr_joinGroup_grouped _ hJoins, List.reverse_reverse]
      · simpa using hWhole.1
      · simpa using hWhole.2

------------------------------------------------------------
-- Decimal commas
------------------------------------------------------------

/- A comma before a group is followed by more than two digits. -/
theorem isShortFraction_eq_false
    {cs : List Char}
    (hGroup : startsWithGroup cs = true) :
    isShortFraction cs = false := by
  unfold startsWithGroup at hGroup
  split at hGroup
  · rename_i a b c rest
    have hThird : isDecimal c = true :=
      (Bool.and_eq_true_iff.mp hGroup).2
    have hEnd : c ≠ '\n' := by
      rintro rfl
      exact absurd hThird (by decide)
    cases rest with
    | nil => simp [isShortFraction, hEnd]
    | cons d rest => rfl
  · cases hGroup

/- Digits are dropped up to a text that starts with none. -/
theorem dropWhile_isDecimal_append
    {digits tail : List Char}
    (hDigits : ∀ c ∈ digits, IsDigit c)
    (hStops : StopsDigits tail) :
    (digits ++ tail).dropWhile isDecimal = tail := by
  rw [List.dropWhile_append_of_pos fun c hMember =>
    (hDigits c hMember).isDecimal]
  cases tail with
  | nil => rfl
  | cons c more => rw [List.dropWhile, hStops c rfl]

/-
  The first comma among grouped digits has a group after it, like
  one in the text that follows.
-/
theorem startsWithGroup_of_grouped
    {reversed tail rest : List Char}
    (hDigits : ∀ c ∈ reversed, IsDigit c)
    (hStops : StopsDigits tail)
    (hTail : ∀ more, tail = ',' :: more → startsWithGroup more = true)
    (hDrop :
      ((groupReversed reversed).reverse ++ tail).dropWhile isDecimal =
        ',' :: rest) :
    startsWithGroup rest = true := by
  induction reversed using groupReversed.induct generalizing tail with
  | case1 a b c d more ih =>
      have hGroup :
          startsWithGroup (c :: b :: a :: tail) = true := by
        have hFirst := (hDigits a (by simp)).isDecimal
        have hSecond := (hDigits b (by simp)).isDecimal
        have hThird := (hDigits c (by simp)).isDecimal
        simp [startsWithGroup, hFirst, hSecond, hThird]
      have hComma : StopsDigits (',' :: c :: b :: a :: tail) := by
        intro e hHead
        cases hHead
        decide
      have hNext :
          ∀ others, ',' :: c :: b :: a :: tail = ',' :: others →
            startsWithGroup others = true := by
        rintro others hEq
        cases hEq
        exact hGroup
      have hRest :
          ((groupReversed (d :: more)).reverse ++
              ',' :: c :: b :: a :: tail).dropWhile isDecimal =
            ',' :: rest := by
        simpa [groupReversed] using hDrop
      exact ih (fun e hMember => hDigits e (by simp [hMember])) hComma
        hNext hRest
  | case2 short hShort =>
      have hShortDigits : ∀ c ∈ short.reverse, IsDigit c :=
        fun c hMember => hDigits c (List.mem_reverse.mp hMember)
      rw [groupReversed,
        dropWhile_isDecimal_append hShortDigits hStops] at hDrop
      · exact hTail rest hDrop
      · exact hShort

/- In grouped digits the comma is not the decimal mark. -/
theorem isCommaDecimal_groupedIf
    {whole rest : List Char}
    (groups : Bool)
    (hWhole : IsNumeral whole)
    (hStops : StopsDigits rest)
    (hComma : ',' ∉ rest) :
    isCommaDecimal (groupedIf groups whole ++ rest) = false := by
  have hTail :
      ∀ more, rest = ',' :: more → startsWithGroup more = true := by
    rintro more rfl
    exact (hComma (by simp)).elim
  unfold isCommaDecimal
  split
  · rename_i more hDrop
    have hGroup : startsWithGroup more = true := by
      cases groups with
      | true =>
          refine startsWithGroup_of_grouped ?_ hStops hTail hDrop
          simpa using hWhole.2
      | false =>
          rw [groupedIf, if_neg Bool.false_ne_true,
            dropWhile_isDecimal_append hWhole.2 hStops] at hDrop
          exact hTail more hDrop
    rw [isShortFraction_eq_false hGroup, Bool.and_false]
  · rfl

/- The last mark of a text is in its end if there is a point. -/
theorem lastMark?_append
    {cs rest : List Char}
    (hPoint : '.' ∈ rest)
    (hComma : ',' ∉ rest) :
    lastMark? (cs ++ rest) = some '.' := by
  have hFound :
      rest.reverse.find? (fun c => c == '.' || c == ',') =
        some '.' := by
    cases hFind :
        rest.reverse.find? fun c => c == '.' || c == ',' with
    | none =>
        have hNone := List.find?_eq_none.mp hFind '.' (by simpa)
        exact absurd rfl hNone
    | some c =>
        have hMark := List.find?_some hFind
        have hMember := List.mem_of_find?_eq_some hFind
        simp only [Bool.or_eq_true, beq_iff_eq] at hMark
        rcases hMark with rfl | rfl
        · rfl
        · exact (hComma (List.mem_reverse.mp hMember)).elim
  rw [lastMark?, List.reverse_append, List.find?_append, hFound]
  rfl

/- A short fraction has digits, and perhaps a line end. -/
theorem not_mem_of_isShortFraction
    {mark : Char}
    {cs : List Char}
    (hMark : isDecimal mark = false)
    (hOther : mark ≠ '\n')
    (hShort : isShortFraction cs = true) :
    mark ∉ cs := by
  have hDigit {c : Char} (hDecimal : isDecimal c = true) :
      mark ≠ c := by
    rintro rfl
    rw [hMark] at hDecimal
    cases hDecimal
  unfold isShortFraction at hShort
  split at hShort
  · simpa using hDigit hShort
  · simp only [Bool.and_eq_true, Bool.or_eq_true, beq_iff_eq] at hShort
    rcases hShort with ⟨hFirst, hSecond | rfl⟩
    · simp [hDigit hFirst, hDigit hSecond]
    · simp [hDigit hFirst, hOther]
  · simp only [Bool.and_eq_true, beq_iff_eq] at hShort
    rcases hShort with ⟨⟨hFirst, hSecond⟩, rfl⟩
    simp [hDigit hFirst, hDigit hSecond, hOther]
  · cases hShort

/- A comma for a decimal point is the last mark of its text. -/
theorem exists_of_hasDecimalComma
    {cs : List Char}
    (hComma : hasDecimalComma cs = true) :
    ∃ first second, cs = first ++ ',' :: second ∧
      '.' ∉ second ∧ ',' ∉ second := by
  unfold hasDecimalComma at hComma
  split at hComma
  · -- next to points, as the last mark
    rw [beq_iff_eq, lastMark?, List.find?_eq_some_iff_append] at hComma
    rcases hComma with ⟨-, after, before, hReverse, hNone⟩
    refine ⟨before.reverse, after.reverse, ?_, ?_, ?_⟩
    · have hWhole := List.reverse_reverse cs
      rw [hReverse] at hWhole
      rw [← hWhole]
      simp
    · intro hMember
      have hMark := hNone '.' (List.mem_reverse.mp hMember)
      cases hMark
    · intro hMember
      have hMark := hNone ',' (List.mem_reverse.mp hMember)
      cases hMark
  · -- on its own, with a short fraction behind it
    unfold isCommaDecimal at hComma
    split at hComma
    · rename_i rest hDrop
      have hShort := (Bool.and_eq_true_iff.mp hComma).2
      refine ⟨cs.takeWhile isDecimal, rest, ?_, ?_, ?_⟩
      · rw [← hDrop, List.takeWhile_append_dropWhile]
      · exact not_mem_of_isShortFraction rfl (by decide) hShort
      · exact not_mem_of_isShortFraction rfl (by decide) hShort
    · cases hComma

/- A point for a comma; other characters are left. -/
def toPoint (c : Char) : Char :=
  if c == ',' then '.' else c

theorem withDecimalPoint_eq
    (cs : List Char) :
    withDecimalPoint cs = (cs.filter (· != '.')).map toPoint :=
  rfl

theorem map_toPoint
    {cs : List Char}
    (hComma : ',' ∉ cs) :
    cs.map toPoint = cs := by
  refine (List.map_congr_left (g := id) fun c hMember => ?_).trans
    (List.map_id cs)
  have hOther : c ≠ ',' := by
    rintro rfl
    exact hComma hMember
  rw [toPoint, if_neg (by simpa using hOther)]
  rfl

theorem withDecimalPoint_append
    {first second : List Char}
    (hPoint : '.' ∉ second)
    (hComma : ',' ∉ second) :
    withDecimalPoint (first ++ ',' :: second) =
      withDecimalPoint first ++ '.' :: second := by
  have hMark : '.' ∉ ',' :: second := by
    rw [List.mem_cons, not_or]
    exact ⟨by decide, hPoint⟩
  rw [withDecimalPoint_eq, withDecimalPoint_eq, List.filter_append,
    List.map_append, filter_of_not_mem hMark, List.map_cons,
    map_toPoint hComma]
  rfl

section Signed

variable
  {whole rest : List Char}
  (negative groups : Bool)

/- A point in the text of a number comes after its commas. -/
theorem hasDecimalComma_signed
    (hWhole : IsNumeral whole)
    (hComma : ',' ∉ rest)
    (hStops : StopsDigits rest) :
    hasDecimalComma
        (Binary64.signed negative (groupedIf groups whole ++ rest)) =
      false := by
  unfold hasDecimalComma
  split
  · rename_i hBoth
    have hPoint := (Bool.and_eq_true_iff.mp hBoth).1
    rw [List.contains_iff_mem, ← Binary64.signed_append,
      List.mem_append] at hPoint
    have hRest : '.' ∈ rest := by
      refine hPoint.resolve_left fun hMember => ?_
      rcases Binary64.eq_or_mem_of_mem_signed hMember with hEq | hMember
      · cases hEq
      · rcases eq_or_mem_of_mem_groupedIf hMember with hEq | hDigit
        · cases hEq
        · exact absurd (hWhole.2 _ hDigit) (by decide)
    rw [← Binary64.signed_append, lastMark?_append hRest hComma]
    rfl
  · cases negative with
    | false => exact isCommaDecimal_groupedIf groups hWhole hStops hComma
    | true => rfl

/- A sign does not change what is joined after it. -/
theorem ungroup_signed
    (hWhole : IsNumeral whole)
    (hComma : ',' ∉ rest) :
    ungroup
        (Binary64.signed negative (groupedIf groups whole ++ rest)) =
      Binary64.signed negative (whole ++ rest) := by
  have hJoined := ungroup_groupedIf groups hWhole hComma
  cases negative with
  | false => exact hJoined
  | true =>
      rcases List.exists_cons_of_ne_nil hWhole.1 with
        ⟨first, more, rfl⟩
      have hFirst : IsDigit first := hWhole.2 first (by simp)
      rw [ungroup] at hJoined
      rw [Binary64.signed, if_pos rfl, ungroup, List.foldr_cons,
        hJoined]
      refine joinGroup_of_head ?_ '-'
      intro c hHead
      cases hHead
      exact hFirst.ne (by decide)

/- The groups of a number are taken out, and nothing else. -/
theorem withoutMarks_groupedIf
    (hWhole : IsNumeral whole)
    (hComma : ',' ∉ rest)
    (hStops : StopsDigits rest) :
    withoutMarks
        (Binary64.signed negative (groupedIf groups whole ++ rest)) =
      Binary64.signed negative (whole ++ rest) := by
  have hMarks :=
    hasDecimalComma_signed negative groups hWhole hComma hStops
  rw [withoutMarks, hMarks, if_neg Bool.false_ne_true]
  exact ungroup_signed negative groups hWhole hComma

end Signed

end Amount

end RecordRules
