import RecordRules.Date.Layout
import RecordRules.Date.Natural.Token
import RecordRules.Proofs.Text.Ascii

/-
  The tokens of texts that are made up of numerals and words with
  a delimiter between them.

  Main declarations:
    * `Date.IsRun`, a numeral or a word
    * `Date.tokensAfter_joined`, three runs between separators
    * `Date.tokensAfter_joined_points`, numerals between points
-/

namespace RecordRules

namespace Date

open Text

------------------------------------------------------------
-- Runs of one kind
------------------------------------------------------------

/- One letter or more. -/
def IsWord (cs : List Char) : Prop :=
  cs ≠ [] ∧ ∀ c ∈ cs, isLetter c = true

/- A text that is a single token wherever it stands alone. -/
def IsRun (cs : List Char) : Prop :=
  IsNumeral cs ∨ IsWord cs

/- A character that ends numerals and words and is a token itself. -/
def IsSeparator (c : Char) : Prop :=
  isLetter c = false ∧ isDigitForm c = false ∧
    c ≠ '.' ∧ c ≠ ',' ∧ lone c = [c]

instance (c : Char) : Decidable (IsSeparator c) := by
  unfold IsSeparator
  infer_instance

/- Digits go on a number. -/
theorem tokensAfter_digits
    (digits rest reversed : List Char)
    (wordy : Bool)
    (hDigits : ∀ c ∈ digits, IsDigit c) :
    tokensAfter (some ⟨.number, reversed, wordy⟩) (digits ++ rest) =
      tokensAfter
        (some ⟨.number, digits.reverse ++ reversed, wordy⟩) rest := by
  induction digits generalizing reversed with
  | nil => rfl
  | cons c digits ih =>
      have hFirst := (hDigits c (by simp)).isDigitForm
      have hRest := ih (c :: reversed) fun d hMember =>
        hDigits d (by simp [hMember])
      simp only [List.cons_append, tokensAfter, Pending.extend?,
        hFirst, if_true, hRest, List.reverse_cons,
        List.append_assoc]
      rfl

/- Letters go on a word. -/
theorem tokensAfter_letters
    (letters rest reversed : List Char)
    (wordy : Bool)
    (hLetters : ∀ c ∈ letters, isLetter c = true) :
    tokensAfter (some ⟨.word, reversed, wordy⟩) (letters ++ rest) =
      tokensAfter
        (some
          ⟨.word, letters.reverse ++ reversed,
            wordy || !letters.isEmpty⟩)
        rest := by
  induction letters generalizing reversed wordy with
  | nil => simp
  | cons c letters ih =>
      have hFirst := hLetters c (by simp)
      have hRest := ih (c :: reversed) true fun d hMember =>
        hLetters d (by simp [hMember])
      simp only [List.cons_append, tokensAfter, Pending.extend?,
        hFirst, if_true, hRest, List.reverse_cons,
        List.append_assoc, List.isEmpty_cons, Bool.true_or,
        Bool.not_false, Bool.or_true]
      rfl

/- A numeral is read as one number. -/
theorem tokensAfter_numeral
    {run : List Char}
    (hNumeral : IsNumeral run)
    (rest : List Char) :
    tokensAfter none (run ++ rest) =
      tokensAfter (some ⟨.number, run.reverse, false⟩) rest := by
  rcases run with _ | ⟨c, digits⟩
  · exact (hNumeral.1 rfl).elim
  have hFirst := hNumeral.2 c (by simp)
  have hStart : Pending.start? c = some ⟨.number, [c], false⟩ := by
    simp [Pending.start?, hFirst.isLetter, hFirst.isDigitForm]
  simp only [List.cons_append, tokensAfter, hStart,
    List.reverse_cons]
  exact tokensAfter_digits digits rest [c] false fun d hMember =>
    hNumeral.2 d (by simp [hMember])

/- A numeral or a word is read as one run without points. -/
theorem exists_pending_of_isRun
    {run : List Char}
    (hRun : IsRun run) :
    ∃ p : Pending,
      (p.kind = .number ∨ p.kind = .word) ∧
        p.reversed = run.reverse ∧
        ∀ rest,
          tokensAfter none (run ++ rest) =
            tokensAfter (some p) rest := by
  rcases hRun with hNumeral | ⟨hSome, hLetters⟩
  · exact ⟨_, .inl rfl, rfl, tokensAfter_numeral hNumeral⟩
  · rcases run with _ | ⟨c, letters⟩
    · exact (hSome rfl).elim
    have hFirst := hLetters c (by simp)
    have hStart : Pending.start? c = some ⟨.word, [c], false⟩ := by
      simp [Pending.start?, hFirst]
    refine
      ⟨⟨.word, letters.reverse ++ [c],
          false || !letters.isEmpty⟩,
        .inr rfl, by simp, ?_⟩
    intro rest
    simp only [List.cons_append, tokensAfter, hStart]
    exact tokensAfter_letters letters rest [c] false
      fun d hMember => hLetters d (by simp [hMember])

/- A run at the end of a text is its last token. -/
theorem tokensAfter_run
    {run : List Char}
    (hRun : IsRun run) :
    tokensAfter none run = [run] := by
  rcases exists_pending_of_isRun hRun with
    ⟨p, hKind, hReversed, hRead⟩
  have hEnd := hRead []
  rw [List.append_nil] at hEnd
  rw [hEnd]
  rcases hKind with hKind | hKind <;>
    simp [tokensAfter, Pending.finish, hKind, hReversed]

/- A run before a separator is a token, and so is the separator. -/
theorem tokensAfter_run_separator
    {run : List Char}
    {separator : Char}
    (hRun : IsRun run)
    (hSeparator : IsSeparator separator)
    (rest : List Char) :
    tokensAfter none (run ++ separator :: rest) =
      run :: [separator] :: tokensAfter none rest := by
  rcases exists_pending_of_isRun hRun with
    ⟨p, hKind, hReversed, hRead⟩
  rcases hSeparator with ⟨hLetter, hForm, hPoint, hComma, hLone⟩
  have hNone : Pending.start? separator = none := by
    simp [Pending.start?, hLetter, hForm]
  have hStop : p.extend? separator = none := by
    rcases hKind with hKind | hKind <;>
      simp [Pending.extend?, hKind, hLetter, hForm, hPoint, hComma]
  have hFinish : p.cutOff.finish = [run] := by
    rcases hKind with hKind | hKind <;>
      simp [Pending.cutOff, Pending.finish, hKind, hReversed]
  rw [hRead]
  simp [tokensAfter, hStop, hFinish, hNone, hLone]

------------------------------------------------------------
-- Three runs
------------------------------------------------------------

/- The runs between separators, and the separators. -/
theorem tokensAfter_joined
    {separator : Char}
    {first second third : List Char}
    (hSeparator : IsSeparator separator)
    (hFirst : IsRun first)
    (hSecond : IsRun second)
    (hThird : IsRun third) :
    tokensAfter none
        (Layout.joined separator [first, second, third]) =
      [first, [separator], second, [separator], third] := by
  simp only [Layout.joined]
  rw [tokensAfter_run_separator hFirst hSeparator,
    tokensAfter_run_separator hSecond hSeparator,
    tokensAfter_run hThird]

------------------------------------------------------------
-- Numerals between points
------------------------------------------------------------

/- Digits and points go on a number with points. -/
theorem tokensAfter_pointed
    (cs reversed : List Char)
    (hPointed : ∀ c ∈ cs, IsDigit c ∨ c = '.') :
    tokensAfter (some ⟨.pointedNumber, reversed, false⟩) cs =
      Pending.finish
        ⟨.pointedNumber, cs.reverse ++ reversed, false⟩ := by
  induction cs generalizing reversed with
  | nil => rfl
  | cons c rest ih =>
      have hFirst : (c == '.' || isDigitForm c) = true := by
        rcases hPointed c (by simp) with hDigit | hPoint
        · simp [hDigit.isDigitForm]
        · simp [hPoint]
      have hRest := ih (c :: reversed) fun d hMember =>
        hPointed d (by simp [hMember])
      simp only [tokensAfter, Pending.extend?, hFirst, if_true,
        hRest, List.reverse_cons, List.append_assoc]
      rfl

/- What stands before a point is a part of its own. -/
theorem splitAtPoints_digits
    (digits part rest : List Char)
    (hDigits : ∀ c ∈ digits, IsDigit c) :
    splitAtPoints part (digits ++ rest) =
      splitAtPoints (digits.reverse ++ part) rest := by
  induction digits generalizing part with
  | nil => rfl
  | cons c digits ih =>
      have hFirst : isPoint c = false := by
        have hDigit := hDigits c (by simp)
        simp [isPoint, hDigit.ne (d := '.') (by decide),
          hDigit.ne (d := ',') (by decide)]
      have hRest := ih (c :: part) fun d hMember =>
        hDigits d (by simp [hMember])
      simp [splitAtPoints, hFirst, hRest]

theorem splitAtPoints_numeral
    {digits : List Char}
    (hNumeral : IsNumeral digits) :
    splitAtPoints [] digits = [digits] := by
  have hSplit := splitAtPoints_digits digits [] [] hNumeral.2
  rw [List.append_nil, List.append_nil] at hSplit
  rw [hSplit]
  simp [splitAtPoints, hNumeral.1]

theorem splitAtPoints_numeral_point
    {digits : List Char}
    (hNumeral : IsNumeral digits)
    (rest : List Char) :
    splitAtPoints [] (digits ++ '.' :: rest) =
      digits :: ['.'] :: splitAtPoints [] rest := by
  rw [splitAtPoints_digits digits [] _ hNumeral.2]
  simp [splitAtPoints, isPoint, hNumeral.1]

/- A point after digits goes on a number. -/
theorem tokensAfter_number_point
    (rest reversed : List Char) :
    tokensAfter (some ⟨.number, reversed, false⟩) ('.' :: rest) =
      tokensAfter
        (some ⟨.pointedNumber, '.' :: reversed, false⟩) rest :=
  rfl

theorem count_point_of_isNumeral
    {digits : List Char}
    (hNumeral : IsNumeral digits) :
    digits.count '.' = 0 := by
  apply List.count_eq_zero.mpr
  intro hMember
  exact absurd (hNumeral.2 '.' hMember) (by decide)

/- Three numerals between points are read as one number. -/
theorem tokensAfter_joined_pointed
    {first second third : List Char}
    (hFirst : IsNumeral first)
    (hSecond : IsNumeral second)
    (hThird : IsNumeral third) :
    tokensAfter none (Layout.joined '.' [first, second, third]) =
      Pending.finish
        ⟨.pointedNumber,
          (Layout.joined '.' [first, second, third]).reverse,
          false⟩ := by
  have hPointed :
      ∀ d ∈ second ++ '.' :: third, IsDigit d ∨ d = '.' := by
    intro d hMember
    simp only [List.mem_append, List.mem_cons] at hMember
    rcases hMember with hMember | hPoint | hMember
    · exact .inl (hSecond.2 d hMember)
    · exact .inr hPoint
    · exact .inl (hThird.2 d hMember)
  simp only [Layout.joined]
  rw [tokensAfter_numeral hFirst, tokensAfter_number_point,
    tokensAfter_pointed _ _ hPointed]
  simp

/- Two points make a number fall apart into its numerals. -/
theorem tokensAfter_joined_points
    {first second third : List Char}
    (hFirst : IsNumeral first)
    (hSecond : IsNumeral second)
    (hThird : IsNumeral third) :
    tokensAfter none (Layout.joined '.' [first, second, third]) =
      [first, ['.'], second, ['.'], third] := by
  have hCount :
      (Layout.joined '.' [first, second, third]).count '.' = 2 := by
    simp [Layout.joined, count_point_of_isNumeral hFirst,
      count_point_of_isNumeral hSecond,
      count_point_of_isNumeral hThird]
  rw [tokensAfter_joined_pointed hFirst hSecond hThird]
  simp only [Pending.finish, List.reverse_reverse, hCount]
  have hMany : 1 < 2 := by decide
  simp only [Layout.joined, reduceCtorEq, or_true, true_and,
    hMany, true_or, if_true]
  rw [splitAtPoints_numeral_point hFirst,
    splitAtPoints_numeral_point hSecond,
    splitAtPoints_numeral hThird]

------------------------------------------------------------
-- Whole texts
------------------------------------------------------------

/- A text without null characters keeps all of its characters. -/
theorem tokens_of_no_null
    {cs : List Char}
    (hCharacters : ∀ c ∈ cs, c.toNat ≠ 0) :
    tokens cs = tokensAfter none cs := by
  have hFilter : cs.filter (·.toNat != 0) = cs := by
    apply List.filter_eq_self.mpr
    intro c hMember
    simpa using hCharacters c hMember
  rw [tokens, hFilter]

end Date

end RecordRules
