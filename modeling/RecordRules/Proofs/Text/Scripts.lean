import Mathlib.Data.List.Basic
import RecordRules.Proofs.Text.Ascii
import RecordRules.Proofs.Text.SmallForms

/-
  Decimal digits of every script, and the same digits in ASCII.

  Main declarations:
    * `Text.isDecimal_cases`, a digit is in ASCII or in one of the
      other runs
    * `Text.digitsMiss_of_digitsMissAll`, digits outside of a sorted
      table
    * `Text.upperChar_of_isDecimal` and
      `Text.lowerChar_of_isDecimal`
    * `Text.asciiForm`, and the properties of characters that it keeps
    * `Text.asciiText`, a text with its digits in ASCII
    * `Text.IsDecimalText`, one digit or more
-/

namespace RecordRules

namespace Text

------------------------------------------------------------
-- Runs of digits
------------------------------------------------------------

/- A decimal digit is in ASCII, or in a run beyond it. -/
theorem isDecimal_cases
    {c : Char}
    (hDecimal : isDecimal c = true) :
    IsDigit c ∨
      (¬ c.toNat < 128 ∧
        ∃ start ∈ decimalZeros.toList,
          start ≤ c.toNat ∧ c.toNat < start + 10) := by
  unfold isDecimal digitValue? at hDecimal
  split at hDecimal
  · unfold asciiDigit? at hDecimal
    split at hDecimal
    · rename_i hDigit
      exact .inl hDigit
    · cases hDecimal
  · rename_i hBeyond
    rw [Option.isSome_map] at hDecimal
    rcases Option.isSome_iff_exists.mp hDecimal with ⟨start, hFound⟩
    have hRun := Array.find?_some hFound
    simp only [Bool.and_eq_true, decide_eq_true_eq] at hRun
    exact .inr
      ⟨hBeyond, start,
        Array.mem_toList_iff.mpr (Array.mem_of_find?_eq_some hFound),
        hRun⟩

/- No digit is blank. -/
theorem isBlank_of_isDecimal
    {c : Char}
    (hDecimal : isDecimal c = true) :
    isBlank c = false := by
  rcases isDecimal_cases hDecimal with
    hDigit | ⟨-, start, hStart, hLow, hHigh⟩
  · exact hDigit.isBlank
  · -- the blanks beyond ASCII lie between the runs
    have hApart :
        ∀ start ∈ decimalZeros.toList,
          0xa0 < start ∧ (start + 9 < 0x1680 ∨ 0x1680 < start) ∧
            (start + 9 < 0x2000 ∨ 0x3000 < start) := by
      decide
    rcases hApart start hStart with ⟨hAscii, hOgham, hSpaces⟩
    simp only [isBlank, Bool.or_eq_false_iff, Bool.and_eq_false_iff,
      decide_eq_false_iff_not, beq_eq_false_iff_ne]
    omega

/- Whether the digits from a zero on lie outside a range. -/
def digitsMiss (first last start : Nat) : Bool :=
  last.blt start || (start + 9).blt first

theorem digitsMiss_iff
    {first last start : Nat} :
    digitsMiss first last start = true ↔
      last < start ∨ start + 9 < first := by
  rw [digitsMiss, Bool.or_eq_true, Nat.blt_eq, Nat.blt_eq]

theorem not_mem_range_of_digitsMiss
    {first last start point : Nat}
    (hMiss : digitsMiss first last start = true)
    (hLow : start ≤ point)
    (hHigh : point < start + 10) :
    ¬ (first ≤ point ∧ point ≤ last) := by
  rw [digitsMiss_iff] at hMiss
  omega

/-
  Whether digits lie outside ranges, where both of them are in
  ascending order: the digits before a range are left behind, and the
  next ones have to come after it.
-/
def digitsMissAll (low : Nat) : List (Nat × Nat) → List Nat → Bool
  | [], _ => true
  | range :: ranges, starts =>
    let rest := starts.dropWhile fun start => (start + 9).blt range.1
    low.ble range.1 && rest.head?.all (range.2.blt ·) &&
      digitsMissAll range.1 ranges rest

/- What is left behind before a range comes before the later ones. -/
theorem digitsMiss_of_digitsMissAll
    {low : Nat}
    {ranges : List (Nat × Nat)}
    {starts : List Nat}
    (hSorted : starts.Pairwise (· ≤ ·))
    (hMiss : digitsMissAll low ranges starts = true) :
    ∀ range ∈ ranges, low ≤ range.1 ∧
      ∀ start ∈ starts, digitsMiss range.1 range.2 start = true := by
  induction ranges generalizing low starts with
  | nil => exact nofun
  | cons range ranges ih =>
      let before (start : Nat) : Bool := (start + 9).blt range.1
      simp only [digitsMissAll, Bool.and_eq_true, Nat.ble_eq] at hMiss
      rcases hMiss with ⟨⟨hLow, hHead⟩, hRest⟩
      have hSplit (start : Nat) (hStart : start ∈ starts) :
          start + 9 < range.1 ∨ start ∈ starts.dropWhile before := by
        rw [← List.takeWhile_append_dropWhile (p := before) (l := starts),
          List.mem_append] at hStart
        refine hStart.imp_left fun hBefore => ?_
        have hEarlier : before start = true :=
          List.mem_takeWhile_imp hBefore
        exact Nat.blt_eq.mp hEarlier
      have hTail : (starts.dropWhile before).Pairwise (· ≤ ·) :=
        hSorted.sublist (List.dropWhile_sublist before)
      have hAfter :
          ∀ start ∈ starts.dropWhile before, range.2 < start := by
        rcases hNext : starts.dropWhile before with _ | ⟨next, later⟩
        · exact nofun
        · change (starts.dropWhile before).head?.all _ = true at hHead
          rw [hNext] at hHead hTail
          have hFirst : range.2 < next := Nat.blt_eq.mp hHead
          have hOrder := (List.pairwise_cons.mp hTail).1
          refine List.forall_mem_cons.mpr ⟨hFirst, fun start hLater => ?_⟩
          exact hFirst.trans_le (hOrder start hLater)
      refine List.forall_mem_cons.mpr ⟨⟨hLow, fun start hStart => ?_⟩, ?_⟩
      · have hEither := (hSplit start hStart).symm
        exact digitsMiss_iff.mpr (hEither.imp_left (hAfter start))
      · intro other hOther
        rcases ih hTail hRest other hOther with ⟨hLater, hMisses⟩
        refine ⟨hLow.trans hLater, fun start hStart => ?_⟩
        rcases hSplit start hStart with hBefore | hStays
        · exact digitsMiss_iff.mpr (.inr (by omega))
        · exact hMisses start hStays

theorem decimalZeros_sorted :
    decimalZeros.toList.Pairwise (· ≤ ·) := by
  refine List.isChain_iff_pairwise.mp ?_
  simp [decimalZeros]

/- No digit beyond ASCII is in the tables of capitals. -/
theorem digitsMiss_words :
    ∀ start ∈ decimalZeros.toList, ∀ entry ∈ upperWords.toList,
      digitsMiss entry.1 entry.1 start = true := by
  have hMiss :
      digitsMissAll 0 (upperWords.toList.map fun entry =>
        (entry.1, entry.1)) decimalZeros.toList = true := by
    decide
  have hAll := digitsMiss_of_digitsMissAll decimalZeros_sorted hMiss
  intro start hStart entry hEntry
  exact (hAll _ (List.mem_map_of_mem hEntry)).2 start hStart

theorem digitsMiss_upperRuns :
    ∀ start ∈ decimalZeros.toList, ∀ run ∈ upperRuns.toList,
      digitsMiss run.first run.last start = true := by
  have hMiss :
      digitsMissAll 0 (upperRuns.toList.map fun run =>
        (run.first, run.last)) decimalZeros.toList = true := by
    decide
  have hAll := digitsMiss_of_digitsMissAll decimalZeros_sorted hMiss
  intro start hStart run hRun
  exact (hAll _ (List.mem_map_of_mem hRun)).2 start hStart

/- Nor in that of small letters. -/
theorem digitsMiss_lowerRuns :
    ∀ start ∈ decimalZeros.toList, ∀ run ∈ lowerRuns.toList,
      digitsMiss run.first run.last start = true := by
  have hMiss :
      digitsMissAll 0 (lowerRuns.toList.map fun run =>
        (run.first, run.last)) decimalZeros.toList = true := by
    decide
  have hAll := digitsMiss_of_digitsMissAll decimalZeros_sorted hMiss
  intro start hStart run hRun
  exact (hAll _ (List.mem_map_of_mem hRun)).2 start hStart

/- Nothing is found for a digit in runs without digits. -/
theorem CaseRun.search_eq_none
    {runs : Array CaseRun}
    {point start : Nat}
    (hMiss :
      ∀ run ∈ runs.toList, digitsMiss run.first run.last start = true)
    (hLow : start ≤ point)
    (hHigh : point < start + 10)
    (low high : Nat) :
    search runs point low high = none := by
  cases hFound : search runs point low high with
  | none => rfl
  | some small =>
      rcases exists_of_search hFound with ⟨run, hRun, hFirst, hLast, -⟩
      have hApart := hMiss run (Array.mem_toList_iff.mpr hRun)
      exact
        (not_mem_range_of_digitsMiss hApart hLow hHigh
          ⟨hFirst, hLast⟩).elim

/- A digit is its own capital. -/
theorem upperChar_of_isDecimal
    {c : Char}
    (hDecimal : isDecimal c = true) :
    upperChar c = [c] := by
  rcases isDecimal_cases hDecimal with
    hDigit | ⟨hBeyond, start, hStart, hLow, hHigh⟩
  · have hAscii : c.toNat < 128 := by
      have := hDigit.2
      omega
    have hSmall : ¬ (97 ≤ c.toNat ∧ c.toNat ≤ 122) := by
      have := hDigit.2
      omega
    rw [upperChar, if_pos hAscii, if_neg hSmall]
  · have hNoWord :
        upperWords.find? (fun entry => entry.1 == c.toNat) = none := by
      rw [Array.find?_eq_none]
      intro entry hEntry hSame
      have hPoint : entry.1 = c.toNat := by simpa using hSame
      have hMiss :=
        digitsMiss_words start hStart entry
          (Array.mem_toList_iff.mpr hEntry)
      exact not_mem_range_of_digitsMiss hMiss hLow hHigh
        ⟨hPoint.le, hPoint.ge⟩
    have hRuns := digitsMiss_upperRuns start hStart
    rw [upperChar, if_neg hBeyond, hNoWord,
      CaseRun.search_eq_none hRuns hLow hHigh]

/- A digit is neither a sigma nor a dotted capital. -/
theorem plain_of_isDecimal
    {c : Char}
    (hDecimal : isDecimal c = true) :
    c.toNat ≠ 0x3a3 ∧ c.toNat ≠ 0x130 := by
  rcases isDecimal_cases hDecimal with
    hDigit | ⟨-, start, hStart, hLow, -⟩
  · have := hDigit.2
    omega
  · have hBeyond : ∀ start ∈ decimalZeros.toList, 0x3a3 < start := by
      decide
    have := hBeyond start hStart
    omega

/- A digit is its own small form. -/
theorem lowerChar_of_isDecimal
    {c : Char}
    (hDecimal : isDecimal c = true) :
    lowerChar c = c := by
  have hDotted := (plain_of_isDecimal hDecimal).2
  rcases isDecimal_cases hDecimal with
    hDigit | ⟨hBeyond, start, hStart, hLow, hHigh⟩
  · exact hDigit.lowerChar_eq
  · have hRuns := digitsMiss_lowerRuns start hStart
    rw [lowerChar, if_neg hBeyond, if_neg hDotted,
      CaseRun.search_eq_none hRuns hLow hHigh]

------------------------------------------------------------
-- Digits in ASCII
------------------------------------------------------------

/- A digit of any script in ASCII; other characters are left. -/
def asciiForm (c : Char) : Char :=
  match digitValue? c with
  | some d => digitChar d
  | none => c

theorem digitChar_spec :
    ∀ d < 10, IsDigit (digitChar d) ∧
      digitValue? (digitChar d) = some d := by
  decide

theorem isDigit_asciiForm
    {c : Char}
    (hDecimal : isDecimal c = true) :
    IsDigit (asciiForm c) := by
  rcases Option.isSome_iff_exists.mp hDecimal with ⟨d, hValue⟩
  rw [asciiForm, hValue]
  exact (digitChar_spec d (digitValue?_lt_ten hValue)).1

theorem asciiForm_of_not_isDecimal
    {c : Char}
    (hOther : isDecimal c = false) :
    asciiForm c = c := by
  have hNone : digitValue? c = none := by
    simpa [isDecimal] using hOther
  rw [asciiForm, hNone]

/- A digit keeps its value. -/
@[simp] theorem digitValue?_asciiForm
    (c : Char) :
    digitValue? (asciiForm c) = digitValue? c := by
  cases hValue : digitValue? c with
  | none => rw [asciiForm, hValue, hValue]
  | some d =>
      rw [asciiForm, hValue]
      exact (digitChar_spec d (digitValue?_lt_ten hValue)).2

@[simp] theorem isDecimal_asciiForm
    (c : Char) :
    isDecimal (asciiForm c) = isDecimal c := by
  rw [isDecimal, digitValue?_asciiForm, isDecimal]

/- A character that is no digit is there in both texts or in none. -/
theorem asciiForm_eq_iff
    {c mark : Char}
    (hMark : isDecimal mark = false) :
    asciiForm c = mark ↔ c = mark := by
  constructor
  · rintro rfl
    rw [isDecimal_asciiForm] at hMark
    exact (asciiForm_of_not_isDecimal hMark).symm
  · rintro rfl
    exact asciiForm_of_not_isDecimal hMark

theorem asciiForm_beq
    {mark : Char}
    (hMark : isDecimal mark = false)
    (c : Char) :
    (asciiForm c == mark) = (c == mark) := by
  rw [Bool.eq_iff_iff, beq_iff_eq, beq_iff_eq, asciiForm_eq_iff hMark]

@[simp] theorem isBlank_asciiForm
    (c : Char) :
    isBlank (asciiForm c) = isBlank c := by
  cases hDecimal : isDecimal c with
  | false => rw [asciiForm_of_not_isDecimal hDecimal]
  | true =>
      rw [isBlank_of_isDecimal hDecimal,
        (isDigit_asciiForm hDecimal).isBlank]

------------------------------------------------------------
-- Texts with their digits in ASCII
------------------------------------------------------------

/- A text with its digits in ASCII. -/
def asciiText (cs : List Char) : List Char :=
  cs.map asciiForm

@[simp] theorem asciiText_nil : asciiText [] = [] :=
  rfl

@[simp] theorem asciiText_cons
    (c : Char)
    (cs : List Char) :
    asciiText (c :: cs) = asciiForm c :: asciiText cs :=
  rfl

@[simp] theorem asciiText_append
    (first second : List Char) :
    asciiText (first ++ second) = asciiText first ++ asciiText second :=
  List.map_append

@[simp] theorem length_asciiText
    (cs : List Char) :
    (asciiText cs).length = cs.length :=
  List.length_map ..

theorem asciiText_of_no_digits
    {cs : List Char}
    (hNone : ∀ c ∈ cs, isDecimal c = false) :
    asciiText cs = cs := by
  refine (List.map_congr_left (g := id) fun c hMember => ?_).trans
    (List.map_id cs)
  exact asciiForm_of_not_isDecimal (hNone c hMember)

theorem strip_asciiText
    (cs : List Char) :
    strip (asciiText cs) = asciiText (strip cs) := by
  have hSame : isBlank ∘ asciiForm = isBlank :=
    funext isBlank_asciiForm
  simp only [strip, stripStart, stripEnd, asciiText, List.dropWhile_map,
    ← List.map_reverse, hSame]

/- A character that is no digit is left out of both texts. -/
theorem filter_asciiText
    {mark : Char}
    (hMark : isDecimal mark = false)
    (cs : List Char) :
    (asciiText cs).filter (· != mark) =
      asciiText (cs.filter (· != mark)) := by
  have hSame : (fun c => c != mark) ∘ asciiForm = fun c => c != mark := by
    funext c
    rw [Function.comp_apply, bne, bne, asciiForm_beq hMark]
  rw [asciiText, List.filter_map, hSame, asciiText]

------------------------------------------------------------
-- Numerals of any script
------------------------------------------------------------

/- One decimal digit of some script, or more. -/
def IsDecimalText (cs : List Char) : Prop :=
  cs ≠ [] ∧ ∀ c ∈ cs, isDecimal c = true

namespace IsDecimalText

variable {cs : List Char}

theorem isNumeral
    (hDigits : IsDecimalText cs) :
    IsNumeral (asciiText cs) := by
  refine ⟨?_, fun c hMember => ?_⟩
  · rw [asciiText, Ne, List.map_eq_nil_iff]
    exact hDigits.1
  · rcases List.mem_map.mp hMember with ⟨d, hDigit, rfl⟩
    exact isDigit_asciiForm (hDigits.2 d hDigit)

/- Digits in ASCII have the values that they had. -/
theorem numeralValue_asciiText
    (hDigits : ∀ c ∈ cs, isDecimal c = true) :
    numeralValue (asciiText cs) =
      digitsValue (cs.filterMap digitValue?) := by
  have hEach (c : Char) (hMember : c ∈ cs) :
      digitValue? c = some ((asciiForm c).toNat - 48) := by
    rw [← digitValue?_asciiForm,
      (isDigit_asciiForm (hDigits c hMember)).digitValue?_eq]
  rw [List.filterMap_congr hEach, List.filterMap_eq_map', numeralValue,
    asciiText, List.map_map]
  rfl

end IsDecimalText

end Text

end RecordRules
