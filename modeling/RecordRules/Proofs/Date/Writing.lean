import Mathlib.Data.List.Chain
import RecordRules.Date.Expression
import RecordRules.Proofs.Date.PieceReading

/-
  Dates written as three pieces with a delimiter between them, and
  the days that they are read as.

  Main declarations:
    * `Date.Writing`, `Date.Writing.text` and `Date.Writing.day?`
    * `Date.Writing.readNatural_text`
    * `Date.Writing.parse_text` and `Date.Writing.resolveValue_text`
-/

namespace RecordRules

namespace Date

open Text Numeric Calendar

------------------------------------------------------------
-- Days of members
------------------------------------------------------------

/-
  The day of a date whose members are all there; a year that is not
  written in full is one near the current year.
-/
def Members.day?
    (current : Nat)
    (dayFirst : Bool)
    (m : Members) : Option Day :=
  match m.resolve dayFirst with
  | .ok ⟨some year, some month, some day⟩ =>
    Day.of? (if m.fullYear then year else Date.fullYear current year)
      month day
  | _ => none

/- Three numbers are a year, a month and a day. -/
theorem Members.resolve_of_three
    {m : Members}
    (hThree : m.numbers.length = 3)
    (dayFirst : Bool) :
    ∃ year month day,
      m.resolve dayFirst = .ok (.all year month day) := by
  rcases m with ⟨numbers, yearAt, monthAt, full⟩
  match numbers, hThree with
  | [a, b, c], _ =>
    have hAny :
        ∃ year month day,
          Members.resolveThree ⟨[a, b, c], yearAt, monthAt, full⟩
              dayFirst a b c =
            .all year month day := by
      unfold Members.resolveThree
      repeat' split
      all_goals exact ⟨_, _, _, rfl⟩
    cases yearAt with
    | none =>
        rcases hAny with ⟨year, month, day, hAll⟩
        exact ⟨year, month, day, congrArg Except.ok hAll⟩
    | some i =>
      cases monthAt with
      | none =>
          rcases hAny with ⟨year, month, day, hAll⟩
          exact ⟨year, month, day, congrArg Except.ok hAll⟩
      | some j => exact ⟨_, _, _, rfl⟩

/- An answer that is there, or else an unreadable text. -/
theorem stamp_of_members
    {m : Members}
    (hThree : m.numbers.length = 3)
    (clock : Instant)
    (dayFirst : Bool) :
    ({ Found.start with members := m }).stamp clock dayFirst =
      (demand (m.day? clock.day.year dayFirst)).map
        fun d => ⟨.midnight d, none⟩ := by
  rcases m.resolve_of_three hThree dayFirst with
    ⟨year, month, day, hParts⟩
  simp only [Found.stamp, Members.day?, hParts, Members.Parts.all]
  cases hFull : m.fullYear with
  | true =>
      simp [Found.isNothing, Found.day, bind, Except.bind]
      cases Day.of? year month day <;> rfl
  | false =>
      simp [Found.isNothing, Found.day, bind, Except.bind]
      cases Day.of? (fullYear clock.day.year year) month day <;> rfl

/- The day that pieces are read as, if they are read as one. -/
def Piece.dayOf?
    (spaced : Bool)
    (current : Nat)
    (dayFirst : Bool)
    (ps : List Piece) : Option Day :=
  match ps.foldlM (Piece.push spaced) .start with
  | .ok m => m.day? current dayFirst
  | .error _ => none

------------------------------------------------------------
-- Writings
------------------------------------------------------------

/-
  A date written as three pieces. Names stand between spaces only,
  numerals also between marks.
-/
structure Writing where
  first : Piece
  second : Piece
  third : Piece
  delimiter : Char
  fits :
    delimiter = ' ' ∨
      isDateMark [delimiter] = true ∧
        first.IsNumber ∧ second.IsNumber ∧ third.IsNumber

namespace Writing

/- The pieces in their order. -/
def pieces (w : Writing) : List Piece :=
  [w.first, w.second, w.third]

/- The characters of a writing. -/
def text (w : Writing) : List Char :=
  Layout.joined w.delimiter (w.pieces.map Piece.text)

/- The day that a writing is read as, if it is read as one. -/
def day?
    (current : Nat)
    (dayFirst : Bool)
    (w : Writing) : Option Day :=
  Piece.dayOf? (w.delimiter == ' ') current dayFirst w.pieces

theorem delimiter_cases
    (w : Writing) :
    w.delimiter = ' ' ∨ w.delimiter = '-' ∨ w.delimiter = '/' ∨
      w.delimiter = '.' := by
  rcases w.fits with hSpace | ⟨hMark, -⟩
  · exact .inl hSpace
  · simp only [isDateMark, Bool.or_eq_true, beq_iff_eq,
      List.cons.injEq, and_true] at hMark
    rcases hMark with (hMark | hMark) | hMark
    · exact .inr (.inl hMark)
    · exact .inr (.inr (.inl hMark))
    · exact .inr (.inr (.inr hMark))

/- A property of the delimiters, checked one by one. -/
theorem forall_delimiter
    {P : Char → Prop}
    (hAll : ∀ c ∈ [' ', '-', '/', '.'], P c)
    (w : Writing) :
    P w.delimiter := by
  apply hAll
  simpa using w.delimiter_cases

------------------------------------------------------------
-- Characters of a writing
------------------------------------------------------------

theorem text_eq
    (w : Writing) :
    w.text =
      w.first.text ++ w.delimiter ::
        (w.second.text ++ w.delimiter :: w.third.text) :=
  rfl

/- A character of a writing is one of a piece or the delimiter. -/
theorem mem_text
    {w : Writing}
    {c : Char}
    (hMember : c ∈ w.text) :
    (∃ p, c ∈ Piece.text p) ∨ c = w.delimiter := by
  simp only [text_eq, List.mem_append, List.mem_cons] at hMember
  rcases hMember with hMember | rfl | hMember | rfl | hMember
  · exact .inl ⟨w.first, hMember⟩
  · exact .inr rfl
  · exact .inl ⟨w.second, hMember⟩
  · exact .inr rfl
  · exact .inl ⟨w.third, hMember⟩

end Writing

/- What holds of digits and letters holds of all pieces. -/
theorem Piece.forall_mem_text
    {P : Char → Prop}
    (hDigit : ∀ c, IsDigit c → P c)
    (hLetter :
      ∀ month < 13, 1 ≤ month → ∀ cut, ∀ c ∈ nameText month cut, P c)
    (p : Piece) :
    ∀ c ∈ p.text, P c := by
  cases p with
  | numeral digits hNumeral hShort =>
      intro c hMember
      exact hDigit c (hNumeral.2 c hMember)
  | name month hMonth cut =>
      exact forall_nameText (P := fun _ text => ∀ c ∈ text, P c)
        hLetter hMonth cut

/- The characters of pieces are ASCII, and neither null nor blank. -/
theorem Piece.mem_text_ascii
    {p : Piece}
    {c : Char}
    (hMember : c ∈ p.text) :
    c.toNat < 128 ∧ c.toNat ≠ 0 ∧ isBlank c = false := by
  refine
    p.forall_mem_text
      (P := fun c =>
        c.toNat < 128 ∧ c.toNat ≠ 0 ∧ isBlank c = false)
      ?_ (by decide) c hMember
  intro c hDigit
  rcases hDigit with ⟨hLow, hHigh⟩
  refine ⟨by omega, by omega, ?_⟩
  exact IsDigit.isBlank ⟨hLow, hHigh⟩

theorem Piece.text_ne_nil
    (p : Piece) :
    p.text ≠ [] := by
  rcases p.text_isRun with hNumeral | hWord
  · exact hNumeral.1
  · exact hWord.1

theorem Piece.IsNumber.isNumeral
    {p : Piece}
    (hNumber : p.IsNumber) :
    IsNumeral p.text := by
  cases p with
  | numeral digits hNumeral hShort => exact hNumeral
  | name month hMonth cut => exact hNumber.elim

namespace Writing

theorem text_isAscii
    (w : Writing) :
    IsAscii w.text := by
  intro c hMember
  rcases mem_text hMember with ⟨p, hPiece⟩ | rfl
  · exact (Piece.mem_text_ascii hPiece).1
  · exact w.forall_delimiter (P := fun c => c.toNat < 128) (by decide)

theorem text_no_null
    (w : Writing) :
    ∀ c ∈ w.text, c.toNat ≠ 0 := by
  intro c hMember
  rcases mem_text hMember with ⟨p, hPiece⟩ | rfl
  · exact (Piece.mem_text_ascii hPiece).2.1
  · exact w.forall_delimiter (P := fun c => c.toNat ≠ 0) (by decide)

------------------------------------------------------------
-- Reading a writing
------------------------------------------------------------

/- The tokens of a writing are its pieces and delimiters. -/
theorem tokens_text
    (w : Writing) :
    tokens w.text =
      [w.first.text, [w.delimiter], w.second.text, [w.delimiter],
        w.third.text] := by
  rw [tokens_of_no_null w.text_no_null]
  by_cases hPoint : w.delimiter = '.'
  · rcases w with ⟨first, second, third, delimiter, hFits⟩
    subst hPoint
    rcases hFits with hSpace | ⟨-, hFirst, hSecond, hThird⟩
    · exact absurd hSpace (by decide)
    · exact
        tokensAfter_joined_points hFirst.isNumeral hSecond.isNumeral
          hThird.isNumeral
  · have hSeparator : IsSeparator w.delimiter :=
      w.forall_delimiter (P := fun c => c ≠ '.' → IsSeparator c)
        (by decide) hPoint
    exact
      tokensAfter_joined hSeparator w.first.text_isRun
        w.second.text_isRun w.third.text_isRun

/- The pieces of a writing are the members of its date. -/
theorem readTokens_text
    (w : Writing)
    (fullYear : Nat → Nat) :
    readTokens fullYear .start [] (tokens w.text).length
        (tokens w.text) =
      (w.pieces.foldlM (Piece.push (w.delimiter == ' ')) .start).map
        fun members => { Found.start with members } := by
  rw [w.tokens_text]
  rcases w with ⟨first, second, third, delimiter, hFits⟩
  by_cases hSpace : delimiter = ' '
  · subst hSpace
    exact
      readTokens_gapped fullYear first [second, third] .start [] 5
        (by simp) (by simp [Found.start, Members.start]) rfl (by simp)
  · have hMark := hFits.resolve_left hSpace
    have hNoSpace : (delimiter == ' ') = false := by
      simpa using hSpace
    simp only [hNoSpace]
    exact readTokens_marked fullYear hMark.1 hMark.2 4

/- A writing is read as midnight of its day, or not at all. -/
theorem readNatural_text
    (w : Writing)
    (clock : Instant)
    (dayFirst : Bool) :
    readNatural clock dayFirst w.text =
      (demand (w.day? clock.day.year dayFirst)).map
        fun d => ⟨.midnight d, none⟩ := by
  simp only [readNatural, w.readTokens_text, day?, Piece.dayOf?]
  rcases Piece.foldlM_push_cases (w.delimiter == ' ') .start w.pieces
    with hPush | ⟨m, hPush, hLength⟩
  · rw [hPush]
    rfl
  · rw [hPush]
    exact stamp_of_members hLength clock dayFirst

end Writing

------------------------------------------------------------
-- Around the reading
------------------------------------------------------------

/- A pair of characters that starts no ordinal number. -/
def KeepsOrdinal (c d : Char) : Prop :=
  isDecimal c = true → ∀ a, isOrdinalEnd d a = false

/- Without ends of ordinal numbers a text stays as it is. -/
theorem withoutOrdinals_of_isChain
    (cs : List Char)
    (hChain : cs.IsChain KeepsOrdinal) :
    withoutOrdinals cs = cs := by
  induction cs using withoutOrdinals.induct with
  | case1 c d a b rest hEnd ih =>
      simp only [Bool.and_eq_true] at hEnd
      have hKeeps := hChain.tail.rel hEnd.1.2 b
      rw [hKeeps] at hEnd
      exact absurd hEnd.2 (by decide)
  | case2 c d a b rest hLong hEnd ih =>
      simp only [Bool.and_eq_true] at hEnd
      have hKeeps := hChain.rel hEnd.1 a
      rw [hKeeps] at hEnd
      exact absurd hEnd.2 (by decide)
  | case3 c d a b rest hLong hShort ih =>
      rw [withoutOrdinals, if_neg hLong, if_neg hShort,
        ih hChain.tail]
  | case4 c d a hEnd =>
      simp only [Bool.and_eq_true] at hEnd
      have hKeeps := hChain.rel hEnd.1 a
      rw [hKeeps] at hEnd
      exact absurd hEnd.2 (by decide)
  | case5 c d a hEnd => rw [withoutOrdinals, if_neg hEnd]
  | case6 cs hFour hThree => rw [withoutOrdinals] <;> assumption

theorem isOrdinalEnd_of_start
    {d : Char}
    (hStart :
      lowerChar d ∉ ['s', 'n', 'r', 't'] ∧
        (lowerChar d).toNat ≠ 0x17f)
    (a : Char) :
    isOrdinalEnd d a = false := by
  rcases hStart with ⟨hLetters, hLong⟩
  simp only [List.mem_cons, List.not_mem_nil, or_false,
    not_or] at hLetters
  simp [isOrdinalEnd, hLetters, hLong]

/- What does not start with the word for now is not relative. -/
theorem relative_of_take
    {cs : List Char}
    (hStart : cs.take 3 ≠ ['n', 'o', 'w']) :
    Relative.read? cs = none := by
  unfold Relative.read?
  split
  · exact absurd rfl hStart
  · exact absurd rfl hStart
  · exact absurd rfl hStart
  · rfl

namespace Writing

/-
  Within a piece and up to a delimiter no ordinal number ends: a
  digit comes before digits and delimiters only.
-/
theorem isChain_of_mem
    (w : Writing)
    (p : Piece)
    {cs : List Char}
    (hMembers : ∀ c ∈ cs, c ∈ p.text ∨ c = w.delimiter) :
    cs.IsChain KeepsOrdinal := by
  have hDelimiter :
      isDecimal w.delimiter = false ∧
        ∀ a, isOrdinalEnd w.delimiter a = false := by
    have hDelimiter :=
      w.forall_delimiter
        (P := fun c =>
          isDecimal c = false ∧
            lowerChar c ∉ ['s', 'n', 'r', 't'] ∧
              (lowerChar c).toNat ≠ 0x17f)
        (by decide)
    exact ⟨hDelimiter.1, isOrdinalEnd_of_start hDelimiter.2⟩
  apply List.Pairwise.isChain
  apply List.pairwise_of_forall_mem_list
  intro c hFirst d hSecond hDecimal
  cases p with
  | numeral digits hNumeral hShort =>
      rcases hMembers d hSecond with hMember | rfl
      · have hDigit := hNumeral.2 d hMember
        apply isOrdinalEnd_of_start
        rw [hDigit.lowerChar_eq]
        refine ⟨?_, ?_⟩
        · intro hOther
          have hNone : ∀ c ∈ ['s', 'n', 'r', 't'], ¬ IsDigit c := by
            decide
          exact hNone d hOther hDigit
        · have hHigh := hDigit.2
          omega
      · exact hDelimiter.2
  | name month hMonth cut =>
      have hLetters :
          ∀ c ∈ Piece.nameText month cut, isDecimal c = false :=
        Piece.forall_nameText
          (P := fun _ text => ∀ c ∈ text, isDecimal c = false)
          (by decide) hMonth cut
      have hNever : isDecimal c = false := by
        rcases hMembers c hFirst with hMember | rfl
        · exact hLetters c hMember
        · exact hDelimiter.1
      rw [hNever] at hDecimal
      exact absurd hDecimal (by decide)

/- A writing holds no ordinal numbers. -/
theorem withoutOrdinals_text
    (w : Writing) :
    withoutOrdinals w.text = w.text := by
  apply withoutOrdinals_of_isChain
  rw [text_eq, List.isChain_split, List.isChain_cons_split]
  refine ⟨w.isChain_of_mem w.first ?_, w.isChain_of_mem w.second ?_,
    w.isChain_of_mem w.third ?_⟩
  all_goals
    intro c hMember
    simp only [List.mem_append, List.mem_cons, List.not_mem_nil,
      or_false] at hMember
    tauto

------------------------------------------------------------
-- The words for days near the current one
------------------------------------------------------------

/- The ends of a writing are not blank. -/
theorem strip_text
    (w : Writing) :
    strip w.text = w.text := by
  have hBlank {p : Piece} {c : Char} (hMember : c ∈ p.text) :
      isBlank c = false :=
    (Piece.mem_text_ascii hMember).2.2
  apply strip_of_ends
  · intro c hHead
    rcases List.exists_cons_of_ne_nil w.first.text_ne_nil with
      ⟨first, rest, hFirst⟩
    have hEq : first = c := by
      simpa [text_eq, hFirst] using hHead
    exact hBlank (p := w.first) (by simp [hFirst, hEq])
  · intro c hLast
    have hEnd := List.getLast?_eq_some_getLast w.third.text_ne_nil
    have hEq : w.third.text.getLast w.third.text_ne_nil = c := by
      simpa [text_eq, List.getLast?_append, List.getLast?_cons, hEnd]
        using hLast
    exact hBlank (hEq ▸ List.getLast_mem w.third.text_ne_nil)

theorem lower_text
    (w : Writing) :
    lower w.text = w.text.map lowerChar :=
  lower_of_isAscii w.text_isAscii

/- Near days are words, which hold no delimiter. -/
theorem nearbyDay?_text
    (w : Writing) :
    nearbyDay? (lower w.text) = none := by
  have hDelimiter :=
    w.forall_delimiter
      (P := fun c =>
        lowerChar c = c ∧
          ∀ word ∈ ["now", "today", "yesterday", "tomorrow"],
            c ∉ word.toList)
      (by decide)
  have hMember : w.delimiter ∈ lower w.text := by
    rw [lower_text, List.mem_map]
    exact ⟨w.delimiter, by simp [text_eq], hDelimiter.1⟩
  have hNot
      (word : String)
      (hWord : word ∈ ["now", "today", "yesterday", "tomorrow"]) :
      lower w.text ≠ word.toList := by
    intro hEq
    exact hDelimiter.2 word hWord (hEq ▸ hMember)
  have hToday :
      ¬ (lower w.text = "now".toList ∨
        lower w.text = "today".toList) :=
    not_or.mpr ⟨hNot "now" (by decide), hNot "today" (by decide)⟩
  rw [nearbyDay?, if_neg hToday,
    if_neg (hNot "yesterday" (by decide)),
    if_neg (hNot "tomorrow" (by decide))]

/- No piece starts like the word for the current instant. -/
theorem relative_text
    (w : Writing) :
    Relative.read? (lower w.text) = none := by
  apply relative_of_take
  rw [lower_text, text_eq, ← List.map_take]
  cases hFirst : w.first with
  | numeral digits hNumeral hShort =>
      rcases List.exists_cons_of_ne_nil hNumeral.1 with
        ⟨c, rest, rfl⟩
      have hDigit : IsDigit c := hNumeral.2 c (by simp)
      have hOther : c ≠ 'n' := hDigit.ne (by decide)
      simp [Piece.text, hDigit.lowerChar_eq, hOther]
  | name month hMonth cut =>
      have hName :=
        Piece.forall_nameText
          (P := fun _ text =>
            3 ≤ text.length ∧
              (text.take 3).map lowerChar ≠ ['n', 'o', 'w'])
          (by decide) hMonth cut
      simpa [Piece.text, List.take_append_of_le_length hName.1]
        using hName.2

------------------------------------------------------------
-- Writings as values
------------------------------------------------------------

variable (context : Context) (w : Writing)

theorem text_isEmpty :
    w.text.isEmpty = false := by
  cases hText : w.text with
  | cons c rest => rfl
  | nil => simp [text_eq] at hText

/- A writing is read as midnight of its day. -/
theorem parse_text :
    Date.parse context (.text (String.ofList w.text)) =
      .ok
        ((w.day? context.clock.day.year context.dayFirst).map
          Instant.midnight) := by
  simp only [Date.parse, Value.print, bind, Except.bind,
    String.toList_ofList, w.strip_text, w.text_isEmpty,
    w.nearbyDay?_text, parseText, w.withoutOrdinals_text,
    w.readNatural_text]
  cases w.day? context.clock.day.year context.dayFirst <;> rfl

/- A writing is no relative date. -/
theorem relativeOf?_text :
    relativeOf? (.text (String.ofList w.text)) = .ok none := by
  simp only [relativeOf?, Value.print, bind, Except.bind,
    String.toList_ofList, w.strip_text, w.relative_text]
  rfl

/- Rules read a writing as midnight of its day. -/
theorem resolveValue_text :
    resolveValue context (.text (String.ofList w.text)) =
      .ok
        ((w.day? context.clock.day.year context.dayFirst).map
          Instant.midnight) := by
  have hRelative :
      parseRelative context (.text (String.ofList w.text)) =
        .ok none := by
    simp only [parseRelative, w.relativeOf?_text, bind, Except.bind]
    rfl
  simp only [resolveValue, hRelative, bind, Except.bind]
  exact w.parse_text context

end Writing

end Date

end RecordRules
