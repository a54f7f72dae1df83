import Mathlib.Data.List.Infix
import RecordRules.Date.Layout
import RecordRules.Proofs.Text.Ascii

/-
  The tokens of a format string, each the longest one at its place.

  Main declarations:
    * `Date.Component.IsLongest`, and `Date.Component.longest?`
    * `Date.IsTaken`, what is taken at the start of a text
    * `Date.IsSegmented`, a text in segments that are taken there
    * `Date.IsSegmented.unique` and `Date.IsSegmented.append`
    * `Date.isSegmented_tokenizeSmall`
    * `Date.tokenize_takes_longest`
-/

namespace RecordRules

namespace Date

open Text

------------------------------------------------------------
-- The longest component
------------------------------------------------------------

namespace Component

/- A component at the start of a text, where none is longer. -/
structure IsLongest (c : Component) (cs : List Char) : Prop where
  starts : c.letters <+: cs
  longest : ∀ d : Component, d.letters <+: cs →
    d.letters.length ≤ c.letters.length

/- The components, none of them after a shorter one. -/
def byLength : List Component :=
  [fullYear, monthName, shortMonthName, shortYear, paddedMonth,
    paddedDay, plainYear, plainMonth, plainDay]

theorem mem_byLength
    (c : Component) :
    c ∈ byLength := by
  cases c <;> decide

theorem byLength_pairwise :
    byLength.Pairwise fun c d =>
      d.letters.length ≤ c.letters.length := by
  decide

/- The first of the components that a text starts with. -/
def longest? (cs : List Char) : Option Component :=
  byLength.find? fun c => c.letters.isPrefixOf cs

/- The letters tell components apart. -/
theorem letters_inj
    {c d : Component}
    (hLetters : c.letters = d.letters) :
    c = d := by
  cases c <;> cases d <;> first | rfl | cases hLetters

/- Of the components in their order the first match is longest. -/
theorem isLongest_of_longest?
    {c : Component}
    {cs : List Char}
    (hFound : longest? cs = some c) :
    c.IsLongest cs := by
  rcases List.find?_eq_some_iff_append.mp hFound with
    ⟨hStarts, before, after, hSplit, hNone⟩
  refine ⟨List.isPrefixOf_iff_prefix.mp hStarts, fun d hOther => ?_⟩
  have hOrder := byLength_pairwise
  have hMember := mem_byLength d
  rw [hSplit] at hOrder hMember
  rcases List.mem_append.mp hMember with hBefore | hRest
  · have hMiss := hNone d hBefore
    rw [Bool.not_eq_true', ← Bool.not_eq_true,
      List.isPrefixOf_iff_prefix] at hMiss
    exact absurd hOther hMiss
  · rcases List.mem_cons.mp hRest with rfl | hAfter
    · exact Nat.le_refl _
    · have hLater := (List.pairwise_append.mp hOrder).2.1
      exact List.rel_of_pairwise_cons hLater hAfter

theorem not_prefix_of_longest?
    {cs : List Char}
    (hNone : longest? cs = none)
    (c : Component) :
    ¬ c.letters <+: cs := by
  have hMiss := List.find?_eq_none.mp hNone c (mem_byLength c)
  rwa [List.isPrefixOf_iff_prefix] at hMiss

/- There is one longest component at most. -/
theorem IsLongest.unique
    {c d : Component}
    {cs : List Char}
    (hFirst : c.IsLongest cs)
    (hSecond : d.IsLongest cs) :
    c = d := by
  have hLength : c.letters.length = d.letters.length :=
    Nat.le_antisymm (hSecond.longest c hFirst.starts)
      (hFirst.longest d hSecond.starts)
  exact letters_inj
    ((List.prefix_of_prefix_length_le hFirst.starts hSecond.starts
      hLength.le).eq_of_length hLength)

theorem letters_ne_nil
    (c : Component) :
    c.letters ≠ [] := by
  cases c <;> exact List.cons_ne_nil _ _

/- The characters that components are made of. -/
def alphabet : List Char :=
  ['y', 'm', 'd']

theorem mem_alphabet
    {component : Component}
    {c : Char}
    (hMember : c ∈ component.letters) :
    c ∈ alphabet := by
  revert c
  cases component <;> decide

/- A component starts every text that starts with its letter. -/
theorem no_prefix_iff
    (c : Char)
    (rest : List Char) :
    (∀ component : Component, ¬ component.letters <+: c :: rest) ↔
      c ∉ alphabet := by
  constructor
  · intro hNone hMember
    simp only [alphabet, List.mem_cons, List.not_mem_nil, or_false]
      at hMember
    rcases hMember with rfl | rfl | rfl
    · exact hNone plainYear ⟨rest, rfl⟩
    · exact hNone plainMonth ⟨rest, rfl⟩
    · exact hNone plainDay ⟨rest, rfl⟩
  · intro hOther component hStarts
    rcases List.exists_cons_of_ne_nil component.letters_ne_nil with
      ⟨first, more, hLetters⟩
    rw [hLetters, List.cons_prefix_cons] at hStarts
    have hFirst : first ∈ component.letters := by
      rw [hLetters]
      exact List.mem_cons_self
    exact hOther (hStarts.1 ▸ mem_alphabet hFirst)

end Component

------------------------------------------------------------
-- Segments of a text
------------------------------------------------------------

/- A segment of a text: the part of a day that it names, if any. -/
abbrev Segment :=
  Option Part × List Char

/- The part of a token and its characters. -/
def FormatToken.segment : FormatToken → Segment
  | component c => (some c.part, c.letters)
  | literal c => (none, [c])

theorem FormatToken.segment_inj
    {s t : FormatToken}
    (hSame : s.segment = t.segment) :
    s = t := by
  cases s <;> cases t <;> simp only [segment, Prod.mk.injEq] at hSame
  · rw [Component.letters_inj hSame.2]
  · cases hSame.1
  · cases hSame.1
  · simpa using hSame.2

/-
  What is taken at the start of a text: its longest component, and
  one character where no component starts it.
-/
inductive IsTaken : Segment → List Char → Prop where
  | component
      {c : Component}
      {cs : List Char}
      (hLongest : c.IsLongest cs) :
      IsTaken (some c.part, c.letters) cs
  | literal
      {c : Char}
      {rest : List Char}
      (hNone : ∀ component : Component,
        ¬ component.letters <+: c :: rest) :
      IsTaken (none, [c]) (c :: rest)

/- Segments of a text, each of them what is taken at its place. -/
structure IsSegmented
    (cs : List Char)
    (segments : List Segment) : Prop where
  whole : segments.flatMap Prod.snd = cs
  taken :
    ∀ before segment after, segments = before ++ segment :: after →
      IsTaken segment ((segment :: after).flatMap Prod.snd)

namespace IsTaken

variable {segment other : Segment} {cs : List Char}

theorem ne_nil
    (hTaken : IsTaken segment cs) :
    segment.2 ≠ [] := by
  cases hTaken with
  | component hLongest => exact Component.letters_ne_nil _
  | literal hNone => exact List.cons_ne_nil _ _

/- No two segments are taken at one place. -/
theorem unique
    (hFirst : IsTaken segment cs)
    (hSecond : IsTaken other cs) :
    segment = other := by
  cases hFirst with
  | component hLongest =>
      cases hSecond with
      | component hOther => rw [hLongest.unique hOther]
      | literal hNone => exact absurd hLongest.starts (hNone _)
  | literal hNone =>
      cases hSecond with
      | component hOther => exact absurd hOther.starts (hNone _)
      | literal hAlso => rfl

/- A character outside the components ends what is taken before it. -/
theorem append
    {mark : Char}
    (hMark : mark ∉ Component.alphabet)
    (hTaken : IsTaken segment cs)
    (rest : List Char) :
    IsTaken segment (cs ++ mark :: rest) := by
  have hPrefix (component : Component) :
      component.letters <+: cs ++ mark :: rest ↔
        component.letters <+: cs := by
    constructor
    · exact fun hStarts =>
        prefix_of_prefix_append hStarts rfl fun hMember =>
          hMark (Component.mem_alphabet hMember)
    · exact fun hStarts => hStarts.trans (List.prefix_append _ _)
  cases hTaken with
  | component hLongest =>
      refine .component ⟨(hPrefix _).mpr hLongest.starts, ?_⟩
      intro d hOther
      exact hLongest.longest d ((hPrefix d).mp hOther)
  | literal hNone =>
      refine .literal fun component hStarts => ?_
      exact hNone component ((hPrefix component).mp hStarts)

end IsTaken

namespace IsSegmented

variable {cs : List Char} {segment : Segment} {segments : List Segment}

theorem nil : IsSegmented [] [] := by
  refine ⟨rfl, fun before segment after hSplit => ?_⟩
  simp at hSplit

/- The first segment of a text is what is taken at its start. -/
theorem cons_iff :
    IsSegmented cs (segment :: segments) ↔
      ∃ rest, cs = segment.2 ++ rest ∧ IsTaken segment cs ∧
        IsSegmented rest segments := by
  constructor
  · rintro ⟨hWhole, hTaken⟩
    refine ⟨segments.flatMap Prod.snd, ?_, ?_, rfl, ?_⟩
    · rw [← hWhole, List.flatMap_cons]
    · rw [← hWhole]
      exact hTaken [] segment segments rfl
    · intro before other after hSplit
      refine hTaken (segment :: before) other after ?_
      rw [hSplit, List.cons_append]
  · rintro ⟨rest, hSplit, hFirst, hWhole, hTaken⟩
    have hAll : (segment :: segments).flatMap Prod.snd = cs := by
      rw [List.flatMap_cons, hWhole, hSplit]
    refine ⟨hAll, fun before other after hSegments => ?_⟩
    cases before with
    | nil =>
        cases hSegments
        rw [hAll]
        exact hFirst
    | cons first before =>
        cases hSegments
        exact hTaken before other after rfl

/- A text is segmented in one way only. -/
theorem unique
    {others : List Segment}
    (hFirst : IsSegmented cs segments)
    (hSecond : IsSegmented cs others) :
    segments = others := by
  induction segments generalizing cs others with
  | nil =>
      cases others with
      | nil => rfl
      | cons other others =>
          rcases cons_iff.mp hSecond with ⟨rest, hSplit, hTaken, -⟩
          rw [← hFirst.whole] at hSplit
          have hEmpty := (List.append_eq_nil_iff.mp hSplit.symm).1
          exact absurd hEmpty hTaken.ne_nil
  | cons segment segments ih =>
      rcases cons_iff.mp hFirst with ⟨rest, hSplit, hTaken, hRest⟩
      cases others with
      | nil =>
          rw [← hSecond.whole] at hSplit
          have hEmpty := (List.append_eq_nil_iff.mp hSplit.symm).1
          exact absurd hEmpty hTaken.ne_nil
      | cons other others =>
          rcases cons_iff.mp hSecond with
            ⟨otherRest, hOther, hAlso, hOthers⟩
          cases hTaken.unique hAlso
          rw [hSplit, List.append_cancel_left_eq] at hOther
          rw [ih hRest (hOther ▸ hOthers)]

/- Texts around a character outside the components. -/
theorem append
    {mark : Char}
    {rest : List Char}
    {others : List Segment}
    (hMark : mark ∉ Component.alphabet)
    (hFirst : IsSegmented cs segments)
    (hSecond : IsSegmented rest others) :
    IsSegmented
      (cs ++ mark :: rest)
      (segments ++ (none, [mark]) :: others) := by
  induction segments generalizing cs with
  | nil =>
      cases hFirst.whole
      refine cons_iff.mpr ⟨rest, rfl, .literal ?_, hSecond⟩
      exact (Component.no_prefix_iff mark rest).mpr hMark
  | cons segment segments ih =>
      rcases cons_iff.mp hFirst with ⟨more, hSplit, hTaken, hMore⟩
      refine
        cons_iff.mpr
          ⟨more ++ mark :: rest, ?_, hTaken.append hMark rest,
            ih hMore⟩
      rw [hSplit, List.append_assoc]

theorem length_le
    (hSegmented : IsSegmented cs segments) :
    segments.length ≤ cs.length := by
  induction segments generalizing cs with
  | nil => exact Nat.zero_le _
  | cons segment segments ih =>
      rcases cons_iff.mp hSegmented with ⟨rest, rfl, hTaken, hRest⟩
      have hSome := List.length_pos_iff.mpr hTaken.ne_nil
      have hLater := ih hRest
      rw [List.length_cons, List.length_append]
      omega

end IsSegmented

------------------------------------------------------------
-- Tokens
------------------------------------------------------------

theorem isPrefixOf_eq_false
    {word cs : List Char}
    (hOther : ∀ rest, cs = word ++ rest → False) :
    word.isPrefixOf cs = false := by
  rw [← Bool.not_eq_true, List.isPrefixOf_iff_prefix]
  rintro ⟨rest, hEq⟩
  exact hOther rest hEq.symm

/- Tokens are read off the longest component, if there is one. -/
theorem tokenizeSmall_eq
    (cs : List Char) :
    tokenizeSmall cs =
      match Component.longest? cs, cs with
      | some c, _ =>
        .component c :: tokenizeSmall (cs.drop c.letters.length)
      | none, [] => []
      | none, c :: rest => .literal c :: tokenizeSmall rest := by
  fun_cases tokenizeSmall cs <;>
    simp_all [Component.longest?, Component.byLength, List.find?,
      Component.letters, isPrefixOf_eq_false]

/-
  The tokens are the segments of a text. The induction is on the length
  of the text: every segment takes a character at least.
-/
theorem isSegmented_tokenizeSmall
    (cs : List Char) :
    IsSegmented cs ((tokenizeSmall cs).map FormatToken.segment) := by
  induction hLength : cs.length using Nat.strongRecOn generalizing cs with
  | _ n ih =>
      rw [tokenizeSmall_eq]
      cases hFound : Component.longest? cs with
      | some c =>
          have hLongest := Component.isLongest_of_longest? hFound
          rcases hLongest.starts with ⟨rest, rfl⟩
          have hSome := List.length_pos_iff.mpr c.letters_ne_nil
          rw [List.length_append] at hLength
          have hRest := ih rest.length (by omega) rest rfl
          simp only [List.drop_left]
          exact IsSegmented.cons_iff.mpr
            ⟨rest, rfl, .component hLongest, hRest⟩
      | none =>
          cases cs with
          | nil => exact .nil
          | cons c rest =>
              have hNone := Component.not_prefix_of_longest? hFound
              have hRest := ih rest.length (by simp [← hLength]) rest rfl
              exact IsSegmented.cons_iff.mpr
                ⟨rest, rfl, .literal hNone, hRest⟩

/- Tokens around a character outside the components. -/
theorem tokenizeSmall_append
    {mark : Char}
    (hMark : mark ∉ Component.alphabet)
    (front back : List Char) :
    tokenizeSmall (front ++ mark :: back) =
      tokenizeSmall front ++ .literal mark :: tokenizeSmall back := by
  have hParts :=
    (isSegmented_tokenizeSmall front).append hMark
      (isSegmented_tokenizeSmall back)
  have hSegments := (isSegmented_tokenizeSmall _).unique hParts
  refine List.map_injective_iff.mpr (fun s t => FormatToken.segment_inj) ?_
  rw [hSegments, List.map_append, List.map_cons]
  rfl

/-
  The tokens of a format make up the format in small letters. Each of
  them is the longest component at its place or, where there is none
  because the next character is none of the three letters, that
  character; no other segments are. So any other character of an
  ASCII format sets the tokens before it apart from those after it.
-/
theorem tokenize_takes_longest
    (format : List Char) :
    (∀ segments,
      IsSegmented (lower format) segments ↔
        segments = (tokenize format).map FormatToken.segment) ∧
    (tokenize format).length ≤ (lower format).length ∧
    (∀ c rest,
      (∀ component : Component, ¬ component.letters <+: c :: rest) ↔
        c ∉ Component.alphabet) ∧
    ∀ front mark back,
      format = front ++ mark :: back →
      IsAscii format →
      lowerChar mark ∉ Component.alphabet →
      tokenize format =
        tokenize front ++ .literal (lowerChar mark) :: tokenize back := by
  have hSegmented : IsSegmented (lower format)
      ((tokenize format).map FormatToken.segment) :=
    isSegmented_tokenizeSmall _
  refine
    ⟨fun segments => ⟨fun hOther => hOther.unique hSegmented, ?_⟩, ?_,
      Component.no_prefix_iff, ?_⟩
  · rintro rfl
    exact hSegmented
  · simpa using hSegmented.length_le
  · rintro front mark back rfl hAscii hMark
    have hFront : IsAscii front :=
      fun c hMember => hAscii c (by simp [hMember])
    have hBack : IsAscii back :=
      fun c hMember => hAscii c (by simp [hMember])
    have hLower :
        lower (front ++ mark :: back) =
          lower front ++ lowerChar mark :: lower back := by
      rw [lower_of_isAscii hAscii, lower_of_isAscii hFront,
        lower_of_isAscii hBack, List.map_append, List.map_cons]
    rw [tokenize, hLower, tokenizeSmall_append hMark]
    rfl

/- Three letters for a year, and five for a month, on a slash. -/
theorem three_and_five_letters_are_split :
    let format := "YYY/mmmmm".toList
    format = "YYY".toList ++ '/' :: "mmmmm".toList ∧
      IsAscii format ∧
      lowerChar '/' ∉ Component.alphabet ∧
      tokenize format =
        [.component .shortYear, .component .plainYear, .literal '/',
          .component .monthName, .component .plainMonth] := by
  intro format
  have hSplit : format = "YYY".toList ++ '/' :: "mmmmm".toList := by
    decide
  have hAscii : IsAscii format := by
    decide
  have hMark : lowerChar '/' ∉ Component.alphabet := by
    decide
  refine ⟨hSplit, hAscii, hMark, ?_⟩
  rw [(tokenize_takes_longest format).2.2.2 _ _ _ hSplit hAscii hMark]
  decide

end Date

end RecordRules
