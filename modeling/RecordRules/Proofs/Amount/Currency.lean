import Mathlib.Data.List.Infix
import RecordRules.Amount.Currency
import RecordRules.Proofs.Text.Scripts

/-
  Currency marks beside the text of a number, and their removal.

  Main declarations:
    * `Amount.currencyMarks`
    * `Amount.IsBare`, texts that no mark belongs to
    * `Amount.splitCurrency_bare`
    * `Amount.splitCurrency_lead` and `Amount.splitCurrency_tail`
-/

namespace RecordRules

open Text

------------------------------------------------------------
-- First matches
------------------------------------------------------------

/- The first match in a list is the one that no earlier one hides. -/
theorem findSome?_of_pairwise
    {α β : Type}
    {R : α → α → Prop}
    {f : α → Option β}
    {items : List α}
    {a : α}
    {b : β}
    (hPairwise : items.Pairwise R)
    (hMember : a ∈ items)
    (hFound : f a = some b)
    (hEarlier : ∀ c ∈ items, R c a → f c = none) :
    items.findSome? f = some b := by
  induction items with
  | nil => cases hMember
  | cons c rest ih =>
      rcases List.pairwise_cons.mp hPairwise with ⟨hFirst, hRest⟩
      rcases List.mem_cons.mp hMember with rfl | hLater
      · rw [List.findSome?_cons, hFound]
      · have hNone := hEarlier c (by simp) (hFirst a hLater)
        rw [List.findSome?_cons, hNone]
        exact ih hRest hLater fun d hMember =>
          hEarlier d (List.mem_cons_of_mem _ hMember)

namespace Amount

------------------------------------------------------------
-- Marks
------------------------------------------------------------

/- Every currency symbol and every currency code. -/
def currencyMarks : List String :=
  currencySymbols.map (·.1) ++ currencyCodes

/- Characters that may stand next to a mark and are in none. -/
def StandsApart (c : Char) : Prop :=
  IsDigit c ∨ c = '-' ∨ c = ' '

instance (c : Char) : Decidable (StandsApart c) := by
  unfold StandsApart
  infer_instance

theorem not_mem_of_standsApart
    {mark : String}
    {c : Char}
    (hMark : mark ∈ currencyMarks)
    (hApart : StandsApart c) :
    c ∉ mark.toList := by
  have hMarks :
      ∀ mark ∈ currencyMarks, ∀ c ∈ mark.toList, ¬ StandsApart c := by
    decide
  exact fun hMember => hMarks mark hMark c hMember hApart

theorem mark_ends
    {mark : String}
    (hMark : mark ∈ currencyMarks) :
    mark.toList ≠ [] ∧ ∀ c ∈ mark.toList, isBlank c = false := by
  have hMarks :
      ∀ mark ∈ currencyMarks,
        mark.toList ≠ [] ∧ ∀ c ∈ mark.toList, isBlank c = false := by
    decide
  exact hMarks mark hMark

/- No mark is at the start or the end of a later one. -/
def Misses (first second : String) : Prop :=
  ¬ first.toList <+: second.toList ∧ ¬ first.toList <:+ second.toList

instance (first second : String) :
    Decidable (Misses first second) := by
  unfold Misses
  infer_instance

theorem symbols_pairwise :
    currencySymbols.Pairwise fun first second =>
      Misses first.1 second.1 := by
  decide

theorem codes_pairwise :
    currencyCodes.Pairwise Misses := by
  decide

theorem symbol_misses_code :
    ∀ entry ∈ currencySymbols, ∀ code ∈ currencyCodes,
      Misses entry.1 code := by
  decide

/- The codes are in capitals. -/
theorem upper_code :
    ∀ code ∈ currencyCodes, upper code.toList = code.toList := by
  decide

------------------------------------------------------------
-- The ends of texts
------------------------------------------------------------

/- A text starts and ends with characters of some kind. -/
structure Framed
    (P : Char → Prop)
    (cs : List Char) : Prop where
  head : ∃ c, cs.head? = some c ∧ P c
  last : ∃ c, cs.getLast? = some c ∧ P c

namespace Framed

variable {P Q : Char → Prop} {first second cs : List Char}

theorem mono
    (hFramed : Framed P cs)
    (hWeaker : ∀ c, P c → Q c) :
    Framed Q cs := by
  rcases hFramed with ⟨⟨c, hHead, hFirst⟩, ⟨d, hLast, hSecond⟩⟩
  exact ⟨⟨c, hHead, hWeaker c hFirst⟩, ⟨d, hLast, hWeaker d hSecond⟩⟩

/- What stands between two parts of a text is in none of its ends. -/
theorem around
    (hFirst : Framed P first)
    (hSecond : Framed P second)
    (between : List Char) :
    Framed P (first ++ (between ++ second)) := by
  rcases hFirst.head with ⟨c, hHead, hStart⟩
  rcases hSecond.last with ⟨d, hLast, hEnd⟩
  refine ⟨⟨c, ?_, hStart⟩, ⟨d, ?_, hEnd⟩⟩
  · rw [List.head?_append, hHead, Option.some_or]
  · rw [List.getLast?_append, List.getLast?_append, hLast,
      Option.some_or, Option.some_or]

/- Capitals leave characters that stand apart at the ends. -/
theorem upper
    (hFramed : Framed StandsApart cs) :
    Framed StandsApart (Text.upper cs) := by
  have hSame (c : Char) (hApart : StandsApart c) :
      upperChar c = [c] := by
    rcases hApart with hDigit | rfl | rfl
    · exact upperChar_of_isDecimal hDigit.isDecimal
    · rfl
    · rfl
  rcases hFramed with ⟨⟨c, hHead, hFirst⟩, ⟨d, hLast, hSecond⟩⟩
  refine ⟨⟨c, ?_, hFirst⟩, ⟨d, ?_, hSecond⟩⟩
  · rcases List.head?_eq_some_iff.mp hHead with ⟨rest, rfl⟩
    rw [Text.upper, List.flatMap_cons, hSame c hFirst]
    rfl
  · rcases List.getLast?_eq_some_iff.mp hLast with ⟨rest, rfl⟩
    simp [Text.upper, List.flatMap_append, hSame d hSecond]

/- Nothing is stripped from the start of a text that is seen there. -/
theorem stripStart_append
    (hFramed : Framed (fun c => isBlank c = false) cs)
    (rest : List Char) :
    stripStart (cs ++ rest) = cs ++ rest := by
  rcases hFramed.head with ⟨c, hHead, hSeen⟩
  refine dropWhile_of_head ?_
  intro d hMember
  rw [List.head?_append, hHead, Option.some_or] at hMember
  cases hMember
  exact hSeen

theorem stripEnd_eq
    (hFramed : Framed (fun c => isBlank c = false) cs) :
    stripEnd cs = cs := by
  rcases hFramed.last with ⟨c, hLast, hSeen⟩
  have hReverse : cs.reverse.dropWhile isBlank = cs.reverse := by
    refine dropWhile_of_head ?_
    intro d hMember
    rw [List.head?_reverse, hLast] at hMember
    cases hMember
    exact hSeen
  rw [stripEnd, hReverse, List.reverse_reverse]

theorem strip_eq
    (hFramed : Framed (fun c => isBlank c = false) cs) :
    strip cs = cs := by
  have hStart := hFramed.stripStart_append []
  rw [List.append_nil] at hStart
  rw [strip, hStart, hFramed.stripEnd_eq]

end Framed

/- A currency mark starts and ends with characters that are seen. -/
theorem mark_framed
    {mark : String}
    (hMark : mark ∈ currencyMarks) :
    Framed (fun c => isBlank c = false) mark.toList := by
  rcases mark_ends hMark with ⟨hSome, hSeen⟩
  have hHead := List.head?_eq_some_head hSome
  have hLast := List.getLast?_eq_some_getLast hSome
  exact
    ⟨⟨_, hHead, hSeen _ (List.head_mem hSome)⟩,
      ⟨_, hLast, hSeen _ (List.getLast_mem hSome)⟩⟩

/- The ends of the text of a number. -/
def IsNumberEnd (c : Char) : Prop :=
  IsDigit c ∨ c = '-'

theorem IsNumberEnd.standsApart
    (c : Char)
    (hEnd : IsNumberEnd c) :
    StandsApart c :=
  hEnd.imp_right .inl

theorem IsNumberEnd.isBlank
    (c : Char)
    (hEnd : IsNumberEnd c) :
    isBlank c = false := by
  rcases hEnd with hDigit | rfl
  · exact hDigit.isBlank
  · rfl

------------------------------------------------------------
-- Marks at the ends of texts
------------------------------------------------------------

/- A mark is at the start or the end of a text. -/
def Touches (mark : String) (cs : List Char) : Prop :=
  mark.toList <+: cs ∨ mark.toList <:+ cs

/-
  A mark at one end of a text is taken away, and marks that it does
  not hide are not there. The mark is looked for in another spelling
  of the text.
-/
structure Beside
    (mark : String)
    (seen cs rest : List Char) : Prop where
  found : withoutMark? mark.toList seen cs = some rest
  only :
    ∀ other ∈ currencyMarks, Touches other seen → ¬ Misses other mark

variable {mark other : String} {seen cs rest shown : List Char}

theorem withoutMark?_of_not_touches
    (hNone : ¬ Touches mark seen) :
    withoutMark? mark.toList seen cs = none := by
  rw [Touches, not_or] at hNone
  rw [withoutMark?, if_neg, if_neg]
  · rw [List.isSuffixOf_iff_suffix]
    exact hNone.2
  · rw [List.isPrefixOf_iff_prefix]
    exact hNone.1

/- No mark starts where a character stands apart from all of them. -/
theorem not_prefix_of_head
    {c : Char}
    (hMark : mark ∈ currencyMarks)
    (hHead : seen.head? = some c)
    (hApart : StandsApart c) :
    ¬ mark.toList <+: seen := by
  intro hStart
  rw [← List.nil_append seen] at hStart
  have hNone := Text.prefix_of_prefix_append hStart hHead
    (not_mem_of_standsApart hMark hApart)
  exact (mark_ends hMark).1 (List.prefix_nil.mp hNone)

theorem not_suffix_of_last
    {c : Char}
    (hMark : mark ∈ currencyMarks)
    (hLast : seen.getLast? = some c)
    (hApart : StandsApart c) :
    ¬ mark.toList <:+ seen := by
  intro hEnd
  rw [← List.append_nil seen] at hEnd
  have hNone := Text.suffix_of_suffix_append hEnd hLast
    (not_mem_of_standsApart hMark hApart)
  exact (mark_ends hMark).1 (List.suffix_nil.mp hNone)

theorem not_touches_of_framed
    (hMark : mark ∈ currencyMarks)
    (hFramed : Framed StandsApart seen) :
    ¬ Touches mark seen := by
  rcases hFramed with ⟨⟨c, hHead, hFirst⟩, ⟨d, hLast, hSecond⟩⟩
  rintro (hStart | hEnd)
  · exact not_prefix_of_head hMark hHead hFirst hStart
  · exact not_suffix_of_last hMark hLast hSecond hEnd

/- A mark before a text that stands apart. -/
theorem Beside.lead
    (mark : String)
    (hFramed : Framed StandsApart shown)
    (rest : List Char) :
    Beside mark (mark.toList ++ shown) (mark.toList ++ rest)
      (strip rest) := by
  rcases hFramed with ⟨⟨c, hHead, hFirst⟩, ⟨d, hLast, hSecond⟩⟩
  have hEnd : (mark.toList ++ shown).getLast? = some d := by
    rw [List.getLast?_append, hLast, Option.some_or]
  constructor
  · have hStart : mark.toList.isPrefixOf (mark.toList ++ shown) :=
      List.isPrefixOf_iff_prefix.mpr (List.prefix_append ..)
    rw [withoutMark?, if_pos hStart, List.drop_left]
  · rintro other hOther (hThere | hThere) hMisses
    · exact hMisses.1 (Text.prefix_of_prefix_append hThere hHead
        (not_mem_of_standsApart hOther hFirst))
    · exact not_suffix_of_last hOther hEnd hSecond hThere

/- A mark after a text that stands apart. -/
theorem Beside.tail
    (hMark : mark ∈ currencyMarks)
    (hFramed : Framed StandsApart shown)
    (rest : List Char) :
    Beside mark (shown ++ mark.toList) (rest ++ mark.toList)
      (strip rest) := by
  rcases hFramed with ⟨⟨c, hHead, hFirst⟩, ⟨d, hLast, hSecond⟩⟩
  have hStart : (shown ++ mark.toList).head? = some c := by
    rw [List.head?_append, hHead, Option.some_or]
  constructor
  · have hNot : ¬ mark.toList.isPrefixOf (shown ++ mark.toList) := by
      rw [List.isPrefixOf_iff_prefix]
      exact not_prefix_of_head hMark hStart hFirst
    have hThere : mark.toList.isSuffixOf (shown ++ mark.toList) :=
      List.isSuffixOf_iff_suffix.mpr (List.suffix_append ..)
    rw [withoutMark?, if_neg hNot, if_pos hThere, List.length_append,
      Nat.add_sub_cancel, List.take_left]
  · rintro other hOther (hThere | hThere) hMisses
    · exact not_prefix_of_head hOther hStart hFirst hThere
    · exact hMisses.2 (Text.suffix_of_suffix_append hThere hLast
        (not_mem_of_standsApart hOther hSecond))

------------------------------------------------------------
-- Currencies
------------------------------------------------------------

theorem mem_marks_of_symbol
    {entry : String × String}
    (hEntry : entry ∈ currencySymbols) :
    entry.1 ∈ currencyMarks :=
  List.mem_append_left _ (List.mem_map_of_mem hEntry)

theorem mem_marks_of_code
    {code : String}
    (hCode : code ∈ currencyCodes) :
    code ∈ currencyMarks :=
  List.mem_append_right _ hCode

theorem splitSymbol?_eq_none
    (hNone : ∀ entry ∈ currencySymbols, ¬ Touches entry.1 cs) :
    splitSymbol? cs = none := by
  rw [splitSymbol?, List.findSome?_eq_none_iff]
  intro entry hEntry
  exact congrArg (Option.map _)
    (withoutMark?_of_not_touches (hNone entry hEntry))

theorem splitCode?_eq_none
    (hNone : ∀ code ∈ currencyCodes, ¬ Touches code (upper cs)) :
    splitCode? cs = none := by
  rw [splitCode?, List.findSome?_eq_none_iff]
  intro code hCode
  exact congrArg (Option.map _)
    (withoutMark?_of_not_touches (hNone code hCode))

/- A symbol beside a text is the one that is found. -/
theorem splitSymbol?_of_beside
    {entry : String × String}
    (hEntry : entry ∈ currencySymbols)
    (hBeside : Beside entry.1 cs cs rest) :
    splitSymbol? cs = some (entry.2, rest) := by
  refine findSome?_of_pairwise symbols_pairwise hEntry ?_ ?_
  · exact congrArg (Option.map _) hBeside.found
  · intro other hOther hMisses
    have hNone : ¬ Touches other.1 cs := fun hTouches =>
      hBeside.only _ (mem_marks_of_symbol hOther) hTouches hMisses
    exact congrArg (Option.map _) (withoutMark?_of_not_touches hNone)

/- A code beside a text is the one that is found. -/
theorem splitCode?_of_beside
    {code : String}
    (hCode : code ∈ currencyCodes)
    (hBeside : Beside code (upper cs) cs rest) :
    splitCode? cs = some (code, rest) := by
  refine findSome?_of_pairwise codes_pairwise hCode ?_ ?_
  · exact congrArg (Option.map _) hBeside.found
  · intro other hOther hMisses
    have hNone : ¬ Touches other (upper cs) := fun hTouches =>
      hBeside.only _ (mem_marks_of_code hOther) hTouches hMisses
    exact congrArg (Option.map _) (withoutMark?_of_not_touches hNone)

/- A text without marks has no currency. -/
theorem splitCurrency_of_framed
    (hFramed : Framed IsNumberEnd cs) :
    splitCurrency cs = (none, cs) := by
  have hApart := hFramed.mono IsNumberEnd.standsApart
  have hStrip := (hFramed.mono IsNumberEnd.isBlank).strip_eq
  have hSymbol : splitSymbol? cs = none :=
    splitSymbol?_eq_none fun entry hEntry =>
      not_touches_of_framed (mem_marks_of_symbol hEntry) hApart
  have hCode : splitCode? cs = none :=
    splitCode?_eq_none fun code hCode =>
      not_touches_of_framed (mem_marks_of_code hCode) hApart.upper
  rw [splitCurrency]
  simp only [hStrip, hSymbol, hCode, Option.or_none]

/- A mark beside a text is its currency. -/
theorem splitCurrency_of_beside
    (hMark : mark ∈ currencyMarks)
    (hStrip : strip cs = cs)
    (hBeside : Beside mark cs cs rest)
    (hUpper :
      mark ∈ currencyCodes → Beside mark (upper cs) cs rest) :
    (splitCurrency cs).2 = rest := by
  rw [splitCurrency, hStrip]
  rcases List.mem_append.mp hMark with hSymbol | hCode
  · rcases List.mem_map.mp hSymbol with ⟨entry, hEntry, rfl⟩
    simp only [splitSymbol?_of_beside hEntry hBeside, Option.some_or]
  · have hNone : splitSymbol? cs = none :=
      splitSymbol?_eq_none fun entry hEntry hTouches =>
        hBeside.only _ (mem_marks_of_symbol hEntry) hTouches
          (symbol_misses_code entry hEntry mark hCode)
    simp only [hNone, splitCode?_of_beside hCode (hUpper hCode),
      Option.none_or]

------------------------------------------------------------
-- Marks and gaps
------------------------------------------------------------

/- What may stand between a mark and a number. -/
def IsGap (gap : List Char) : Prop :=
  gap = [] ∨ gap = [' ']

variable {gap : List Char}

theorem upper_append
    (first second : List Char) :
    upper (first ++ second) = upper first ++ upper second :=
  List.flatMap_append

namespace IsGap

/- A gap beside a number is stripped. -/
theorem strip_eq
    (hGap : IsGap gap)
    (hFramed : Framed IsNumberEnd cs) :
    strip (gap ++ cs) = cs ∧ strip (cs ++ gap) = cs := by
  have hSeen := hFramed.mono IsNumberEnd.isBlank
  rcases hGap with rfl | rfl
  · rw [List.append_nil]
    exact ⟨hSeen.strip_eq, hSeen.strip_eq⟩
  · constructor
    · exact hSeen.strip_eq
    · have hEnd : stripEnd (cs ++ [' ']) = stripEnd cs := by
        rw [stripEnd, List.reverse_append]
        rfl
      rw [strip, hSeen.stripStart_append, hEnd, hSeen.stripEnd_eq]

/- A gap stands apart from marks, as a number does. -/
theorem framed
    (hGap : IsGap gap)
    (hFramed : Framed IsNumberEnd cs) :
    Framed StandsApart (gap ++ cs) ∧
      Framed StandsApart (cs ++ gap) := by
  have hApart := hFramed.mono IsNumberEnd.standsApart
  rcases hGap with rfl | rfl
  · rw [List.append_nil]
    exact ⟨hApart, hApart⟩
  · have hSpace : Framed StandsApart [' '] :=
      ⟨⟨' ', rfl, .inr (.inr rfl)⟩, ⟨' ', rfl, .inr (.inr rfl)⟩⟩
    exact ⟨hSpace.around hApart [], hApart.around hSpace []⟩

end IsGap

/- A mark before a number, with a gap or without, is its currency. -/
theorem splitCurrency_lead
    (hMark : mark ∈ currencyMarks)
    (hGap : IsGap gap)
    (hFramed : Framed IsNumberEnd cs) :
    (splitCurrency (mark.toList ++ (gap ++ cs))).2 = cs := by
  have hSeen :=
    (mark_framed hMark).around (hFramed.mono IsNumberEnd.isBlank) gap
  have hApart := (hGap.framed hFramed).1
  have hPlain := Beside.lead mark hApart (gap ++ cs)
  have hUpper (hCode : mark ∈ currencyCodes) :
      Beside mark (upper (mark.toList ++ (gap ++ cs)))
        (mark.toList ++ (gap ++ cs)) (strip (gap ++ cs)) := by
    rw [upper_append, upper_code mark hCode]
    exact .lead mark hApart.upper (gap ++ cs)
  rw [splitCurrency_of_beside hMark hSeen.strip_eq hPlain hUpper]
  exact (hGap.strip_eq hFramed).1

/- A mark after a number, with a gap or without, is its currency. -/
theorem splitCurrency_tail
    (hMark : mark ∈ currencyMarks)
    (hGap : IsGap gap)
    (hFramed : Framed IsNumberEnd cs) :
    (splitCurrency (cs ++ (gap ++ mark.toList))).2 = cs := by
  have hSeen :=
    (hFramed.mono IsNumberEnd.isBlank).around (mark_framed hMark) gap
  have hApart := (hGap.framed hFramed).2
  have hPlain := Beside.tail hMark hApart (cs ++ gap)
  have hUpper (hCode : mark ∈ currencyCodes) :
      Beside mark (upper (cs ++ gap ++ mark.toList))
        (cs ++ gap ++ mark.toList) (strip (cs ++ gap)) := by
    rw [upper_append, upper_code mark hCode]
    exact .tail hMark hApart.upper (cs ++ gap)
  rw [← List.append_assoc] at hSeen ⊢
  rw [splitCurrency_of_beside hMark hSeen.strip_eq hPlain hUpper]
  exact (hGap.strip_eq hFramed).2

end Amount

end RecordRules
