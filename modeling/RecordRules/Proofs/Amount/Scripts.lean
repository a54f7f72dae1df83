import Mathlib.Data.List.Forall2
import RecordRules.Amount.Reading
import RecordRules.Proofs.Amount.Currency
import RecordRules.Proofs.Amount.Grouping
import RecordRules.Proofs.Text.Scripts

/-
  Numbers in the digits of any script are read as those in ASCII.

  Main declarations:
    * `Amount.splitCurrency_asciiText`, `Amount.withoutMarks_asciiText`
      and `Decimal.read?_asciiText`, each step of the reading
    * `Amount.read?_asciiText`
-/

namespace RecordRules

open Text Numeric

namespace Amount

------------------------------------------------------------
-- Currencies
------------------------------------------------------------

/- Two characters that are the same, or digits both of them. -/
def Alike (c d : Char) : Prop :=
  c = d ∨ isDecimal c = true ∧ isDecimal d = true

theorem alike_asciiText
    (cs : List Char) :
    List.Forall₂ Alike (asciiText cs) cs := by
  rw [asciiText, List.forall₂_map_left_iff, List.forall₂_same]
  intro c hMember
  cases hDecimal : isDecimal c with
  | false => exact .inl (asciiForm_of_not_isDecimal hDecimal)
  | true => exact .inr ⟨by rw [isDecimal_asciiForm, hDecimal], hDecimal⟩

/- Digits are their own capitals. -/
theorem alike_upper
    (cs : List Char) :
    List.Forall₂ Alike (upper (asciiText cs)) (upper cs) := by
  induction cs with
  | nil => exact .nil
  | cons c rest ih =>
      rw [asciiText_cons, upper, upper, List.flatMap_cons,
        List.flatMap_cons]
      refine List.rel_append ?_ ih
      cases hDecimal : isDecimal c with
      | false =>
          rw [asciiForm_of_not_isDecimal hDecimal, List.forall₂_same]
          exact fun d _ => .inl rfl
      | true =>
          have hForm : isDecimal (asciiForm c) = true := by
            rw [isDecimal_asciiForm, hDecimal]
          rw [upperChar_of_isDecimal hDecimal,
            upperChar_of_isDecimal hForm]
          exact .cons (.inr ⟨hForm, hDecimal⟩) .nil

section Marks

variable {mark seen shown : List Char}

/- A text without digits starts two texts that look alike, or none. -/
theorem isPrefixOf_of_alike
    (hMark : ∀ c ∈ mark, isDecimal c = false)
    (hAlike : List.Forall₂ Alike seen shown) :
    mark.isPrefixOf seen = mark.isPrefixOf shown := by
  induction hAlike generalizing mark with
  | nil => rfl
  | @cons c d seen shown hFirst hRest ih =>
      cases mark with
      | nil => rfl
      | cons a mark =>
          rcases List.forall_mem_cons.mp hMark with ⟨hHead, hTail⟩
          have hSame : (a == c) = (a == d) := by
            rcases hFirst with rfl | ⟨hSeen, hShown⟩
            · rfl
            · have hNot {e : Char} (hDigit : isDecimal e = true) :
                  (a == e) = false := by
                rw [beq_eq_false_iff_ne]
                rintro rfl
                rw [hHead] at hDigit
                cases hDigit
              rw [hNot hSeen, hNot hShown]
          rw [List.isPrefixOf, List.isPrefixOf, hSame, ih hTail]

theorem isSuffixOf_of_alike
    (hMark : ∀ c ∈ mark, isDecimal c = false)
    (hAlike : List.Forall₂ Alike seen shown) :
    mark.isSuffixOf seen = mark.isSuffixOf shown := by
  have hReverse : ∀ c ∈ mark.reverse, isDecimal c = false :=
    fun c hMember => hMark c (List.mem_reverse.mp hMember)
  exact isPrefixOf_of_alike hReverse
    (List.forall₂_reverse_iff.mpr hAlike)

/- A mark is taken from both texts or from none. -/
theorem withoutMark?_asciiText
    (hMark : ∀ c ∈ mark, isDecimal c = false)
    (hAlike : List.Forall₂ Alike seen shown)
    (cs : List Char) :
    withoutMark? mark seen (asciiText cs) =
      (withoutMark? mark shown cs).map asciiText := by
  unfold withoutMark?
  rw [isPrefixOf_of_alike hMark hAlike, isSuffixOf_of_alike hMark hAlike]
  split
  · rw [Option.map_some, ← strip_asciiText, asciiText, asciiText,
      List.map_drop]
  · split
    · rw [Option.map_some, ← strip_asciiText, length_asciiText, asciiText,
        asciiText, List.map_take]
    · rfl

end Marks

theorem not_isDecimal_of_mark :
    ∀ mark ∈ currencyMarks, ∀ c ∈ mark.toList, isDecimal c = false := by
  decide

/- The first match, where every match changes in the same way. -/
theorem findSome?_of_forall
    {α β γ : Type}
    {items : List α}
    {f : α → Option γ}
    {g : α → Option β}
    {h : β → γ}
    (hItems : ∀ a ∈ items, f a = (g a).map h) :
    items.findSome? f = (items.findSome? g).map h := by
  induction items with
  | nil => rfl
  | cons a rest ih =>
      rcases List.forall_mem_cons.mp hItems with ⟨hFirst, hRest⟩
      rw [List.findSome?_cons, List.findSome?_cons, hFirst, ih hRest]
      cases g a <;> rfl

/- A currency with what is left, the digits of it in ASCII. -/
def asciiRest
    {α : Type}
    (found : α × List Char) : α × List Char :=
  (found.1, asciiText found.2)

theorem splitSymbol?_asciiText
    (cs : List Char) :
    splitSymbol? (asciiText cs) = (splitSymbol? cs).map asciiRest := by
  unfold splitSymbol?
  refine findSome?_of_forall ?_
  rintro ⟨symbol, code⟩ hEntry
  have hMark :=
    not_isDecimal_of_mark symbol (mem_marks_of_symbol hEntry)
  dsimp only
  rw [withoutMark?_asciiText hMark (alike_asciiText cs), Option.map_map,
    Option.map_map]
  rfl

theorem splitCode?_asciiText
    (cs : List Char) :
    splitCode? (asciiText cs) = (splitCode? cs).map asciiRest := by
  unfold splitCode?
  refine findSome?_of_forall fun code hCode => ?_
  have hMark := not_isDecimal_of_mark code (mem_marks_of_code hCode)
  rw [withoutMark?_asciiText hMark (alike_upper cs), Option.map_map,
    Option.map_map]
  rfl

theorem splitCurrency_asciiText
    (cs : List Char) :
    splitCurrency (asciiText cs) = asciiRest (splitCurrency cs) := by
  unfold splitCurrency
  dsimp only
  rw [strip_asciiText, splitSymbol?_asciiText, splitCode?_asciiText]
  cases splitSymbol? (strip cs) with
  | some found => rfl
  | none => cases splitCode? (strip cs) <;> rfl

------------------------------------------------------------
-- Groups and decimal marks
------------------------------------------------------------

theorem startsWithGroup_asciiText
    (cs : List Char) :
    startsWithGroup (asciiText cs) = startsWithGroup cs := by
  rcases cs with _ | ⟨a, _ | ⟨b, _ | ⟨c, rest⟩⟩⟩ <;>
    simp [startsWithGroup]

theorem joinGroup_asciiText
    (c : Char)
    (cs : List Char) :
    joinGroup (asciiForm c) (asciiText cs) =
      asciiText (joinGroup c cs) := by
  have hMark : isDecimal ',' = false := by decide
  cases cs with
  | nil => rfl
  | cons a rest =>
      by_cases hComma : a = ','
      · subst hComma
        rw [asciiText_cons, asciiForm_of_not_isDecimal hMark]
        simp only [joinGroup, isDecimal_asciiForm,
          startsWithGroup_asciiText]
        split
        · rfl
        · rw [asciiText_cons, asciiText_cons,
            asciiForm_of_not_isDecimal hMark]
      · have hHead : ∀ b ∈ (a :: rest).head?, b ≠ ',' := by
          rintro b hFirst rfl
          exact hComma (Option.some.inj hFirst)
        have hForm :
            ∀ b ∈ (asciiText (a :: rest)).head?, b ≠ ',' := by
          rintro b hFirst rfl
          exact hComma
            ((asciiForm_eq_iff hMark).mp (Option.some.inj hFirst))
        rw [joinGroup_of_head hForm, joinGroup_of_head hHead,
          asciiText_cons c]

theorem ungroup_asciiText
    (cs : List Char) :
    ungroup (asciiText cs) = asciiText (ungroup cs) := by
  induction cs with
  | nil => rfl
  | cons c rest ih =>
      rw [asciiText_cons, ungroup, List.foldr_cons, ← ungroup, ih,
        joinGroup_asciiText]
      rfl

theorem isShortFraction_asciiText
    (cs : List Char) :
    isShortFraction (asciiText cs) = isShortFraction cs := by
  have hLine : isDecimal '\n' = false := by decide
  rcases cs with _ | ⟨a, _ | ⟨b, _ | ⟨c, _ | ⟨d, rest⟩⟩⟩⟩ <;>
    simp [isShortFraction, asciiForm_beq hLine]

theorem isCommaDecimal_asciiText
    (cs : List Char) :
    isCommaDecimal (asciiText cs) = isCommaDecimal cs := by
  have hMark : isDecimal ',' = false := by decide
  have hSame : isDecimal ∘ asciiForm = isDecimal :=
    funext isDecimal_asciiForm
  have hDrop :
      (asciiText cs).dropWhile isDecimal =
        asciiText (cs.dropWhile isDecimal) := by
    rw [asciiText, List.dropWhile_map, hSame, asciiText]
  have hTake :
      ((asciiText cs).takeWhile isDecimal).isEmpty =
        (cs.takeWhile isDecimal).isEmpty := by
    rw [asciiText, List.takeWhile_map, hSame, List.isEmpty_map]
  unfold isCommaDecimal
  rw [hDrop, hTake]
  rcases cs.dropWhile isDecimal with _ | ⟨a, rest⟩
  · rfl
  · by_cases hComma : a = ','
    · subst hComma
      rw [asciiText_cons, asciiForm_of_not_isDecimal hMark]
      simp only [isShortFraction_asciiText]
    · have hForm : asciiForm a ≠ ',' :=
        fun hEq => hComma ((asciiForm_eq_iff hMark).mp hEq)
      simp [hComma, hForm]

theorem contains_asciiText
    {mark : Char}
    (hMark : isDecimal mark = false)
    (cs : List Char) :
    (asciiText cs).contains mark = cs.contains mark := by
  rw [Bool.eq_iff_iff, List.contains_iff_mem, List.contains_iff_mem,
    asciiText, List.mem_map]
  constructor
  · rintro ⟨c, hMember, hEq⟩
    rwa [← (asciiForm_eq_iff hMark).mp hEq]
  · exact fun hMember =>
      ⟨mark, hMember, asciiForm_of_not_isDecimal hMark⟩

theorem lastMark?_asciiText
    (cs : List Char) :
    lastMark? (asciiText cs) = lastMark? cs := by
  have hComma : isDecimal ',' = false := by decide
  have hPoint : isDecimal '.' = false := by decide
  have hSame :
      (fun c => c == '.' || c == ',') ∘ asciiForm =
        fun c => c == '.' || c == ',' := by
    funext c
    rw [Function.comp_apply, asciiForm_beq hPoint, asciiForm_beq hComma]
  unfold lastMark?
  rw [asciiText, ← List.map_reverse, List.find?_map, hSame]
  cases hFound :
      cs.reverse.find? fun c => c == '.' || c == ',' with
  | none => rfl
  | some c =>
      have hEither := List.find?_some hFound
      simp only [Bool.or_eq_true, beq_iff_eq] at hEither
      rcases hEither with rfl | rfl <;> rfl

theorem hasDecimalComma_asciiText
    (cs : List Char) :
    hasDecimalComma (asciiText cs) = hasDecimalComma cs := by
  unfold hasDecimalComma
  rw [contains_asciiText (by decide), contains_asciiText (by decide),
    lastMark?_asciiText, isCommaDecimal_asciiText]

theorem withDecimalPoint_asciiText
    (cs : List Char) :
    withDecimalPoint (asciiText cs) = asciiText (withDecimalPoint cs) := by
  have hComma : isDecimal ',' = false := by decide
  have hPoint : isDecimal '.' = false := by decide
  unfold withDecimalPoint
  rw [filter_asciiText hPoint, asciiText, asciiText, List.map_map,
    List.map_map]
  refine List.map_congr_left fun c _ => ?_
  rw [Function.comp_apply, Function.comp_apply, asciiForm_beq hComma]
  split
  · rfl
  · rfl

theorem withoutMarks_asciiText
    (cs : List Char) :
    withoutMarks (asciiText cs) = asciiText (withoutMarks cs) := by
  unfold withoutMarks
  rw [hasDecimalComma_asciiText]
  split
  · exact withDecimalPoint_asciiText cs
  · exact ungroup_asciiText cs

theorem plain_asciiText
    (cs : List Char) :
    plain (asciiText cs) = asciiText (plain cs) := by
  have hSpace : isDecimal ' ' = false := by decide
  rw [plain, splitCurrency_asciiText, asciiRest, filter_asciiText hSpace,
    withoutMarks_asciiText, plain]

end Amount

------------------------------------------------------------
-- Decimals
------------------------------------------------------------

namespace Numeric

theorem takeDigits_asciiText
    (cs : List Char) :
    takeDigits (asciiText cs) =
      ((takeDigits cs).1, asciiText (takeDigits cs).2) := by
  induction cs with
  | nil => rfl
  | cons c rest ih =>
      rw [asciiText_cons, takeDigits, takeDigits, digitValue?_asciiForm,
        ih]
      cases digitValue? c <;> rfl

theorem takeSign_asciiText
    (cs : List Char) :
    takeSign (asciiText cs) =
      ((takeSign cs).1, asciiText (takeSign cs).2) := by
  have hMinus : isDecimal '-' = false := by decide
  have hPlus : isDecimal '+' = false := by decide
  rcases cs with _ | ⟨a, rest⟩
  · rfl
  · rw [asciiText_cons]
    by_cases hFirst : a = '-'
    · rw [hFirst, asciiForm_of_not_isDecimal hMinus]
      rfl
    · by_cases hSecond : a = '+'
      · rw [hSecond, asciiForm_of_not_isDecimal hPlus]
        rfl
      · have hNoMinus : asciiForm a ≠ '-' :=
          fun hEq => hFirst ((asciiForm_eq_iff hMinus).mp hEq)
        have hNoPlus : asciiForm a ≠ '+' :=
          fun hEq => hSecond ((asciiForm_eq_iff hPlus).mp hEq)
        simp [takeSign, hFirst, hSecond, hNoMinus, hNoPlus]

theorem takeFraction_asciiText
    (cs : List Char) :
    takeFraction (asciiText cs) =
      ((takeFraction cs).1, asciiText (takeFraction cs).2) := by
  have hPoint : isDecimal '.' = false := by decide
  rcases cs with _ | ⟨a, rest⟩
  · rfl
  · rw [asciiText_cons]
    by_cases hFirst : a = '.'
    · rw [hFirst, asciiForm_of_not_isDecimal hPoint]
      exact takeDigits_asciiText rest
    · have hNoPoint : asciiForm a ≠ '.' :=
        fun hEq => hFirst ((asciiForm_eq_iff hPoint).mp hEq)
      simp [takeFraction, hFirst, hNoPoint]

theorem takeExponent_asciiText
    (cs : List Char) :
    takeExponent (asciiText cs) =
      ((takeExponent cs).1, asciiText (takeExponent cs).2) := by
  have hSmall : isDecimal 'e' = false := by decide
  have hCapital : isDecimal 'E' = false := by decide
  rcases cs with _ | ⟨c, rest⟩
  · rfl
  · simp only [asciiText_cons, takeExponent, asciiForm_beq hSmall,
      asciiForm_beq hCapital, takeSign_asciiText, takeDigits_asciiText]
    split
    · split
      · rfl
      · rfl
    · rfl

end Numeric

/- A decimal has the value of its digits in every script. -/
theorem Decimal.read?_asciiText
    (cs : List Char) :
    read? (asciiText cs) = read? cs := by
  unfold read?
  simp only [takeSign_asciiText, takeDigits_asciiText,
    takeFraction_asciiText, takeExponent_asciiText]
  simp [asciiText]

namespace Amount

theorem readUnsigned?_asciiText
    (cs : List Char) :
    readUnsigned? (asciiText cs) = readUnsigned? cs := by
  rw [readUnsigned?, plain_asciiText, Decimal.read?_asciiText,
    readUnsigned?]

/- A text is read as the same text with its digits in ASCII. -/
theorem read?_asciiText
    (cs : List Char) :
    Amount.read? (asciiText cs) = Amount.read? cs := by
  have hMark : isDecimal '-' = false := by decide
  unfold Amount.read?
  rw [strip_asciiText]
  rcases strip cs with _ | ⟨a, rest⟩
  · rfl
  · by_cases hMinus : a = '-'
    · subst hMinus
      rw [asciiText_cons, asciiForm_of_not_isDecimal hMark]
      simp only [strip_asciiText, readUnsigned?_asciiText]
    · have hForm : asciiForm a ≠ '-' :=
        fun hEq => hMinus ((asciiForm_eq_iff hMark).mp hEq)
      have hWhole := readUnsigned?_asciiText (a :: rest)
      rw [asciiText_cons] at hWhole
      simp [hMinus, hForm, hWhole]

end Amount

end RecordRules
