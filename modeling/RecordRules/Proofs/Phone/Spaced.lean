import Mathlib.Data.List.Basic
import Mathlib.Data.List.TakeWhile
import RecordRules.Phone.Candidate
import RecordRules.Proofs.Phone.Digits
import RecordRules.Proofs.Text.Scripts

/-
  Digits with blanks, hyphens and brackets between them.

  Main declarations:
    * `Phone.Spaced`, such texts with the digits in them
    * `Phone.Spaced.dialled_eq`, they stand for these digits
    * `Phone.signed`, texts with or without a plus sign in front
    * `Phone.candidate?_append`, what can be a number in a text that
      starts with other characters
-/

namespace RecordRules

open Text

------------------------------------------------------------
-- Digits among the characters of numbers
------------------------------------------------------------

namespace Text

namespace IsDigit

variable {c : Char}

theorem isPlus
    (hDigit : IsDigit c) :
    Phone.isPlus c = false := by
  have hPlus : c ≠ '+' := hDigit.ne (by decide)
  have hWide : c.toNat ≠ 0xff0b := by
    have := hDigit.2
    omega
  simp [Phone.isPlus, hPlus, hWide]

theorem isNumberChar
    (hDigit : IsDigit c) :
    Phone.isNumberChar c = true := by
  simp [Phone.isNumberChar, hDigit.isDecimal]

theorem isNumberEnd
    (hDigit : IsDigit c) :
    Phone.isNumberEnd c = true := by
  have hLine : c ≠ '_' := hDigit.ne (by decide)
  have hAscii : c.toNat < 128 := by
    have := hDigit.2
    omega
  simp [Phone.isNumberEnd, isWordChar, isLetterOrNumeral, hLine,
    hAscii, asciiDigit?, hDigit.1, hDigit.2]

end IsDigit

end Text

namespace Phone

/- The characters that may stand between digits. -/
def marks : List Char :=
  " -()".toList

/- Marks stand for no digits. -/
theorem filterMap_marks
    {cs : List Char}
    (hMarks : ∀ c ∈ cs, c ∈ marks) :
    cs.filterMap digitValue? = [] := by
  have hEach : ∀ c ∈ marks, digitValue? c = none := by decide
  rw [List.filterMap_eq_nil_iff]
  exact fun c hMember => hEach c (hMarks c hMember)

/-
  A text with the given digits in it, with no characters but blanks,
  hyphens and round brackets between them, that ends with a digit.
-/
structure Spaced
    (ds : List Nat)
    (cs : List Char) : Prop where
  chars : ∀ c ∈ cs, IsDigit c ∨ c ∈ marks
  values : cs.filterMap digitValue? = ds
  ends : ∃ last, cs.getLast? = some last ∧ IsDigit last

namespace Spaced

variable {ds es : List Nat} {cs front : List Char}

/- Other characters do not occur. -/
theorem not_mem
    (hSpaced : Spaced ds cs)
    {c : Char}
    (hDigit : ¬ IsDigit c)
    (hMark : c ∉ marks) :
    c ∉ cs :=
  fun hMember => (hSpaced.chars c hMember).elim hDigit hMark

/- The text of digits. -/
theorem digitText
    (hDigits : AreDigits ds)
    (hSome : ds ≠ []) :
    Spaced ds (Layout.digitText ds) := by
  refine ⟨?_, ?_, ?_⟩
  · intro c hMember
    rcases List.mem_map.mp hMember with ⟨d, hDigit, rfl⟩
    exact .inl (digitChar_spec d (hDigits d hDigit)).1
  · have hSame : ∀ d ∈ ds, (digitValue? ∘ digitChar) d = some d :=
      fun d hMember => (digitChar_spec d (hDigits d hMember)).2
    rw [Layout.digitText, List.filterMap_map,
      List.filterMap_congr hSame, List.filterMap_some]
  · have hLast := List.getLast_mem hSome
    refine ⟨digitChar (ds.getLast hSome), ?_,
      (digitChar_spec _ (hDigits _ hLast)).1⟩
    rw [Layout.digitText, List.getLast?_map,
      List.getLast?_eq_some_getLast hSome]
    rfl

/- Digits and marks in front of such a text. -/
theorem append
    (hSpaced : Spaced ds cs)
    (hChars : ∀ c ∈ front, IsDigit c ∨ c ∈ marks) :
    Spaced (front.filterMap digitValue? ++ ds) (front ++ cs) := by
  refine ⟨?_, ?_, ?_⟩
  · intro c hMember
    rcases List.mem_append.mp hMember with hFront | hRest
    · exact hChars c hFront
    · exact hSpaced.chars c hRest
  · rw [List.filterMap_append, hSpaced.values]
  · rcases hSpaced.ends with ⟨last, hLast, hDigit⟩
    exact ⟨last, by rw [List.getLast?_append, hLast]; rfl, hDigit⟩

/- Such a text stands for its digits. -/
theorem dialled_eq
    (hSpaced : Spaced ds cs) :
    dialled cs = ds := by
  have hLetters : cs.countP isAsciiLetter = 0 := by
    rw [List.countP_eq_zero]
    intro c hMember
    rcases hSpaced.chars c hMember with hDigit | hMark
    · simp [hDigit.isAsciiLetter]
    · have hNone : ∀ c ∈ marks, ¬ isAsciiLetter c = true := by decide
      exact hNone c hMark
  have hPlain : isLettered cs = false := by
    rw [isLettered, hLetters]
    rfl
  rw [dialled, hPlain, if_neg Bool.false_ne_true, hSpaced.values]

theorem isPlus_eq
    (hSpaced : Spaced ds cs) :
    ∀ c ∈ cs, isPlus c = false := by
  intro c hMember
  rcases hSpaced.chars c hMember with hDigit | hMark
  · exact hDigit.isPlus
  · have hNone : ∀ c ∈ marks, isPlus c = false := by decide
    exact hNone c hMark

theorem isNumberChar
    (hSpaced : Spaced ds cs) :
    ∀ c ∈ cs, isNumberChar c = true := by
  intro c hMember
  rcases hSpaced.chars c hMember with hDigit | hMark
  · exact hDigit.isNumberChar
  · have hAll : ∀ c ∈ marks, Phone.isNumberChar c = true := by decide
    exact hAll c hMark

/- There is no plus sign to be dropped. -/
theorem dropWhile_isPlus
    (hSpaced : Spaced ds cs) :
    cs.dropWhile isPlus = cs := by
  cases cs with
  | nil => rfl
  | cons c rest =>
      have hFirst : isPlus c = false := hSpaced.isPlus_eq c (by simp)
      rw [List.dropWhile, hFirst]

/-
  Such a text starts with a digit, or it does so after some marks,
  and that is again such a text.
-/
theorem exists_first
    (hSpaced : Spaced ds cs) :
    ∃ front first rest, cs = front ++ first :: rest ∧
      (∀ c ∈ front, c ∈ marks) ∧ IsDigit first ∧
      Spaced ds (first :: rest) := by
  rcases hSpaced.ends with ⟨last, hLast, hEnd⟩
  have hSome : (cs.find? fun c => decide (IsDigit c)).isSome = true := by
    rw [List.find?_isSome]
    exact ⟨last, List.mem_of_getLast? hLast, decide_eq_true hEnd⟩
  rcases Option.isSome_iff_exists.mp hSome with ⟨first, hFound⟩
  rcases List.find?_eq_some_iff_append.mp hFound with
    ⟨hDigit, front, rest, rfl, hBefore⟩
  have hFront : ∀ c ∈ front, c ∈ marks := by
    intro c hMember
    have hOther : ¬ IsDigit c := by simpa using hBefore c hMember
    exact (hSpaced.chars c (by simp [hMember])).resolve_left hOther
  refine ⟨front, first, rest, rfl, hFront, of_decide_eq_true hDigit,
    ?_, ?_, ?_⟩
  · exact fun c hMember =>
      hSpaced.chars c (List.mem_append_right front hMember)
  · rw [← hSpaced.values, List.filterMap_append,
      filterMap_marks hFront, List.nil_append]
  · rw [List.getLast?_append, List.getLast?_cons] at hLast
    exact ⟨last, by rw [List.getLast?_cons]; exact hLast, hEnd⟩

end Spaced

------------------------------------------------------------
-- Signs
------------------------------------------------------------

/- A text with a plus sign in front of it, or as it is. -/
def signed
    (abroad : Bool)
    (cs : List Char) : List Char :=
  if abroad then '+' :: cs else cs

theorem mem_signed
    {abroad : Bool}
    {cs : List Char}
    {c : Char}
    (hMember : c ∈ signed abroad cs) :
    c = '+' ∨ c ∈ cs := by
  unfold signed at hMember
  split at hMember
  · exact List.mem_cons.mp hMember
  · exact .inr hMember

theorem Spaced.dropWhile_signed
    {ds : List Nat}
    {cs : List Char}
    (hSpaced : Spaced ds cs)
    (abroad : Bool) :
    (signed abroad cs).dropWhile isPlus = cs := by
  cases abroad with
  | false => exact hSpaced.dropWhile_isPlus
  | true => exact hSpaced.dropWhile_isPlus

/- Such a text ends with a digit, also after a plus sign. -/
theorem Spaced.getLast?_signed
    {ds : List Nat}
    {cs : List Char}
    (hSpaced : Spaced ds cs)
    (abroad : Bool) :
    ∃ last, (signed abroad cs).getLast? = some last ∧ IsDigit last := by
  rcases hSpaced.ends with ⟨last, hLast, hDigit⟩
  refine ⟨last, ?_, hDigit⟩
  cases abroad with
  | false => exact hLast
  | true =>
      change ('+' :: cs).getLast? = some last
      rw [List.getLast?_cons, hLast]
      rfl

------------------------------------------------------------
-- Candidates
------------------------------------------------------------

/- A mark does not occur where its first character does not. -/
theorem splitAtFirst?_of_not_mem
    {first : Char}
    {cs : List Char}
    (hAbsent : first ∉ cs)
    (mark : List Char) :
    splitAtFirst? (first :: mark) cs = none := by
  induction cs with
  | nil => rfl
  | cons c rest ih =>
      rw [List.mem_cons, not_or] at hAbsent
      rcases hAbsent with ⟨hOther, hRest⟩
      have hNot : (first == c) = false := beq_false_of_ne hOther
      rw [splitAtFirst?, List.isPrefixOf, hNot, ih hRest]
      rfl

theorem beforeSecondNumber_eq
    {cs : List Char}
    (hSlash : '/' ∉ cs)
    (hBack : '\\' ∉ cs) :
    beforeSecondNumber cs = cs := by
  induction cs with
  | nil => rfl
  | cons c rest ih =>
      rw [List.mem_cons, not_or] at hSlash hBack
      rcases hSlash with ⟨hFirst, hSlash⟩
      rcases hBack with ⟨hSecond, hBack⟩
      have hStart : startsSecondNumber (c :: rest) = false := by
        simp [startsSecondNumber, Ne.symm hFirst, Ne.symm hSecond]
      rw [beforeSecondNumber, hStart, ih hSlash hBack]
      rfl

/- Whether a number may start with a character. -/
def startsNumber (c : Char) : Bool :=
  isPlus c || isDecimal c

variable {front text : List Char} {first last : Char}

theorem extracted_append
    (hFront : ∀ c ∈ front, startsNumber c = false)
    (hFirst : text.head? = some first)
    (hStarts : startsNumber first = true)
    (hLast : text.getLast? = some last)
    (hEnds : isNumberEnd last = true)
    (hSlash : '/' ∉ text)
    (hBack : '\\' ∉ text) :
    extracted (front ++ text) = text := by
  have hStart :
      (front ++ text).dropWhile (fun c => !(isPlus c || isDecimal c)) =
        text := by
    rw [List.dropWhile_append_of_pos
      (by simpa [startsNumber] using hFront)]
    cases text with
    | nil => cases hFirst
    | cons c rest =>
        cases hFirst
        unfold startsNumber at hStarts
        rw [List.dropWhile, hStarts]
        rfl
  have hEnd :
      text.reverse.dropWhile (!isNumberEnd ·) = text.reverse := by
    rcases List.getLast?_eq_some_iff.mp hLast with ⟨others, rfl⟩
    simp [hEnds]
  rw [extracted, hStart, hEnd, List.reverse_reverse]
  exact beforeSecondNumber_eq hSlash hBack

/-
  In a text without parameters that ends as numbers may end, what can
  be a number starts with the first character that may start one.
-/
theorem candidate?_append
    (hFront : ∀ c ∈ front, startsNumber c = false)
    (hFirst : text.head? = some first)
    (hStarts : startsNumber first = true)
    (hLast : text.getLast? = some last)
    (hEnds : isNumberEnd last = true)
    (hSlash : '/' ∉ text)
    (hBack : '\\' ∉ text)
    (hPlain : ';' ∉ front ++ text) :
    candidate? (front ++ text) = some text := by
  have hContext : context? (front ++ text) = none := by
    rw [context?]
    exact congrArg _
      (splitAtFirst?_of_not_mem hPlain "phone-context=".toList)
  have hAbsent : ';' ∉ text :=
    fun hMember => hPlain (List.mem_append_right front hMember)
  have hWhole : withoutSubaddress text = text := by
    have hNone := splitAtFirst?_of_not_mem hAbsent "isub=".toList
    unfold withoutSubaddress
    split
    · rfl
    · rename_i hFound
      cases hNone.symm.trans hFound
    · rfl
  rw [candidate?, hContext]
  simp only [Option.map_some, hWhole,
    extracted_append hFront hFirst hStarts hLast hEnds hSlash hBack]

end Phone

end RecordRules
