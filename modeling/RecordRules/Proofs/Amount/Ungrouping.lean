import RecordRules.Proofs.Amount.GroupPattern
import RecordRules.Proofs.Amount.Grouping

/-
  Texts without their grouping commas, as what repeated rounds leave.

  Main declarations:
    * `Amount.joinGroup_cases`
    * `Amount.not_isSplit_ungroup`, and `Amount.ungroup_of_not_isSplit`
    * `Amount.LosesCommas`, a text and what commas leave of it
    * `Amount.ungroup_joinRound`, one round more or less
    * `Amount.RoundsTo`, rounds as long as the pattern is found
    * `Amount.rounds_end_ungrouped`
-/

namespace RecordRules

namespace Amount

open Text Numeric Pattern

------------------------------------------------------------
-- Normal form
------------------------------------------------------------

/- A comma goes from between digits, and all else stays. -/
theorem joinGroup_cases
    (c : Char)
    (cs : List Char) :
    (startsSplit (c :: cs) = false ∧ joinGroup c cs = c :: cs) ∨
    ∃ rest, cs = ',' :: rest ∧ isDecimal c = true ∧
      startsWithGroup rest = true ∧ joinGroup c cs = c :: rest := by
  unfold joinGroup
  split
  · rename_i rest
    split
    · rename_i hBoth
      rw [Bool.and_eq_true] at hBoth
      exact .inr ⟨rest, rfl, hBoth.1, hBoth.2, rfl⟩
    · rename_i hNot
      rw [Bool.not_eq_true] at hNot
      exact .inl ⟨hNot, rfl⟩
  · rename_i hOther
    refine .inl ⟨?_, rfl⟩
    cases cs with
    | nil => rfl
    | cons e rest =>
        refine startsSplit_of_ne ?_ c rest
        rintro rfl
        exact hOther rest rfl

theorem ungroup_cons
    (c : Char)
    (rest : List Char) :
    ungroup (c :: rest) = joinGroup c (ungroup rest) :=
  rfl

/- A group of three does not start with a comma. -/
theorem startsWithGroup_comma
    (rest : List Char) :
    startsWithGroup (',' :: rest) = false := by
  match rest with
  | [] | [_] | _ :: _ :: _ => rfl

theorem startsSplit_of_startsWithGroup
    {c : Char}
    {rest : List Char}
    (hGroup : startsWithGroup rest = true) :
    startsSplit (c :: rest) = false := by
  unfold startsWithGroup at hGroup
  split at hGroup
  · rename_i a b d more
    refine startsSplit_of_ne ?_ c _
    rintro rfl
    simp only [Bool.and_eq_true] at hGroup
    exact absurd hGroup.1.1 (by decide)
  · cases hGroup

/- No digits are split in what is left. -/
theorem not_isSplit_ungroup
    (cs : List Char) :
    ¬ IsSplit (ungroup cs) := by
  induction cs with
  | nil => exact not_isSplit_nil
  | cons c rest ih =>
      rw [ungroup_cons]
      rcases joinGroup_cases c (ungroup rest) with
        ⟨hHere, hKept⟩ | ⟨more, hComma, -, hGroup, hLost⟩
      · rw [hKept, isSplit_cons_iff, hHere]
        simpa using ih
      · rw [hComma, isSplit_cons_iff, not_or] at ih
        rw [hLost, isSplit_cons_iff,
          startsSplit_of_startsWithGroup hGroup]
        simpa using ih.2

/- A text in which no digits are split is left as it is. -/
theorem ungroup_of_not_isSplit
    {cs : List Char}
    (hNone : ¬ IsSplit cs) :
    ungroup cs = cs := by
  induction cs with
  | nil => rfl
  | cons c rest ih =>
      rw [isSplit_cons_iff, not_or] at hNone
      rw [ungroup_cons, ih hNone.2]
      rcases joinGroup_cases c rest with
        ⟨-, hKept⟩ | ⟨more, rfl, hFirst, hGroup, -⟩
      · exact hKept
      · refine absurd ?_ hNone.1
        rw [startsSplit, hFirst, hGroup]
        rfl

------------------------------------------------------------
-- Commas that go
------------------------------------------------------------

/-
  A text and what is left of it, after the character that was kept
  last: all characters are kept but commas, each of which stood after
  a digit and before three digits of what is left.
-/
inductive LosesCommas :
    Option Char → List Char → List Char → Prop where
  | nil (last : Option Char) : LosesCommas last [] []
  | keep
      {last : Option Char}
      {c : Char}
      {cs kept : List Char}
      (hRest : LosesCommas (some c) cs kept) :
      LosesCommas last (c :: cs) (c :: kept)
  | lose
      {last : Char}
      {cs kept : List Char}
      (hBefore : isDecimal last = true)
      (hAfter : startsWithGroup kept = true)
      (hRest : LosesCommas (some last) cs kept) :
      LosesCommas (some last) (',' :: cs) kept

namespace LosesCommas

variable {last : Option Char} {cs kept : List Char}

theorem sublist
    (hLoses : LosesCommas last cs kept) :
    kept.Sublist cs := by
  induction hLoses with
  | nil last => exact List.nil_sublist _
  | keep hRest ih => exact ih.cons_cons _
  | lose hBefore hAfter hRest ih => exact ih.cons _

/- Nothing but commas goes. -/
theorem filter_eq
    (hLoses : LosesCommas last cs kept) :
    kept.filter (· != ',') = cs.filter (· != ',') := by
  induction hLoses with
  | nil last => rfl
  | keep hRest ih => rw [List.filter_cons, ih, List.filter_cons]
  | lose hBefore hAfter hRest ih => exact ih

/- After a comma that is kept it does not matter what came before. -/
theorem of_comma
    (hLoses : LosesCommas (some ',') cs kept)
    (last : Option Char) :
    LosesCommas last cs kept := by
  cases hLoses with
  | nil => exact .nil last
  | keep hRest => exact .keep hRest
  | lose hBefore hAfter hRest => exact absurd hBefore (by decide)

end LosesCommas

/-
  The commas that go stand between digits of what is left. The
  induction is on the text, whatever was kept before it: its first
  character is kept.
-/
theorem losesCommas_ungroup
    (last : Option Char)
    (cs : List Char) :
    LosesCommas last cs (ungroup cs) := by
  induction cs generalizing last with
  | nil => exact .nil last
  | cons c rest ih =>
      rw [ungroup_cons]
      rcases joinGroup_cases c (ungroup rest) with
        ⟨-, hKept⟩ | ⟨more, hComma, hDigit, hGroup, hLost⟩
      · rw [hKept]
        exact .keep (ih (some c))
      · rw [hLost]
        have hRest := ih (some c)
        rw [hComma] at hRest
        cases hRest with
        | keep hLater =>
            exact .keep (.lose hDigit hGroup (hLater.of_comma (some c)))
        | lose hBefore hAfter hLater =>
            rw [startsWithGroup_comma] at hAfter
            cases hAfter

------------------------------------------------------------
-- Rounds
------------------------------------------------------------

/- A digit before a text without a comma in front is put there. -/
theorem joinGroup_of_isDecimal
    {a : Char}
    {cs : List Char}
    (hDigit : isDecimal a = true)
    (c : Char) :
    joinGroup c (a :: cs) = c :: a :: cs := by
  refine joinGroup_of_head ?_ c
  rintro e hHead rfl
  cases hHead
  exact absurd hDigit (by decide)

/- Digits of a group stay in front of what is left. -/
theorem exists_ungroup_group
    {b c : Char}
    (hSecond : isDecimal b = true)
    (hThird : isDecimal c = true)
    (a : Char)
    (rest : List Char) :
    ∃ kept, ungroup (a :: b :: c :: rest) = a :: b :: c :: kept := by
  have hKept : ∃ kept, ungroup (c :: rest) = c :: kept := by
    rcases joinGroup_cases c (ungroup rest) with
      ⟨-, hAll⟩ | ⟨more, -, -, -, hLost⟩
    · exact ⟨_, hAll⟩
    · exact ⟨_, hLost⟩
  rcases hKept with ⟨kept, hKept⟩
  refine ⟨kept, ?_⟩
  rw [ungroup_cons, ungroup_cons, hKept, joinGroup_of_isDecimal hThird,
    joinGroup_of_isDecimal hSecond]

/- One round does not change what is left in the end. -/
theorem ungroup_joinRound
    (cs : List Char) :
    ungroup (joinRound cs) = ungroup cs := by
  fun_induction joinRound cs with
  | case1 d a b c rest hSplit ih =>
      have hDigits :
          (isDecimal d && startsWithGroup (a :: b :: c :: rest)) = true :=
        hSplit
      simp only [startsWithGroup, Bool.and_eq_true] at hDigits
      rcases hDigits with ⟨hFirst, ⟨hOne, hTwo⟩, hThree⟩
      have hTail :
          ungroup (a :: b :: c :: joinRound rest) =
            ungroup (a :: b :: c :: rest) := by
        simp only [ungroup_cons, ih]
      rcases exists_ungroup_group hTwo hThree a rest with ⟨kept, hKept⟩
      have hGroup : startsWithGroup (a :: b :: c :: kept) = true := by
        simp [startsWithGroup, hOne, hTwo, hThree]
      rw [ungroup_cons, hTail, ungroup_cons d, ungroup_cons ',', hKept,
        joinGroup_of_isDecimal hOne, joinGroup_of_isDecimal hOne,
        joinGroup, hFirst, hGroup]
      rfl
  | case2 d a b c rest hOther ih =>
      rw [ungroup_cons, ih, ← ungroup_cons]
  | case3 c rest hOther ih => rw [ungroup_cons, ih, ungroup_cons]
  | case4 => rfl

/-
  A round takes out a comma at least. The induction is on the round:
  where it leaves a character, the text is split later.
-/
theorem count_joinRound_lt
    {cs : List Char}
    (hSplit : IsSplit cs) :
    (joinRound cs).count ',' < cs.count ',' := by
  fun_induction joinRound cs with
  | case1 d a b c rest hHere ih =>
      have hRest : (joinRound rest).count ',' ≤ rest.count ',' := by
        by_cases hLater : IsSplit rest
        · exact (ih hLater).le
        · rw [joinRound_of_not_isSplit hLater]
      have hComma : (',' == ',') = true := rfl
      simp only [List.count_cons, hComma, if_true]
      omega
  | case2 d a b c rest hOther ih =>
      rw [isSplit_cons_iff] at hSplit
      have hLater := ih (hSplit.resolve_left hOther)
      simp only [List.count_cons] at hLater ⊢
      omega
  | case3 c rest hOther ih =>
      rw [isSplit_cons_iff] at hSplit
      have hHere : ¬ startsSplit (c :: rest) = true := by
        intro hStarts
        rcases exists_of_startsSplit hStarts with
          ⟨d, a, b, e, more, hEq, -⟩
        cases hEq
        exact hOther _ _ _ _ rfl
      have hLater := ih (hSplit.resolve_left hHere)
      simp only [List.count_cons] at hLater ⊢
      omega
  | case4 => exact absurd hSplit not_isSplit_nil

/-
  What rounds make of a text, and in how many: as long as the pattern
  is found, all its matches are replaced.
-/
inductive RoundsTo : List Char → Nat → List Char → Prop where
  | done
      {cs : List Char}
      (hNone : isFound cs = .ok false) :
      RoundsTo cs 0 cs
  | round
      {cs next result : List Char}
      {rounds : Nat}
      (hFound : isFound cs = .ok true)
      (hReplaced : substitute splitPattern joinedPattern cs = .ok next)
      (hRest : RoundsTo next rounds result) :
      RoundsTo cs (rounds + 1) result

/- Rounds that end have left no grouping comma. -/
theorem RoundsTo.eq_ungroup
    {cs result : List Char}
    {rounds : Nat}
    (hRounds : RoundsTo cs rounds result) :
    result = ungroup cs := by
  induction hRounds with
  | done hNone =>
      exact (ungroup_of_not_isSplit
        ((isFound_eq_false_iff _).mp hNone)).symm
  | round hFound hReplaced hRest ih =>
      rw [substitute_splitPattern, Except.ok.injEq] at hReplaced
      rw [ih, ← hReplaced, ungroup_joinRound]

/- Rounds end; the induction is on the number of commas. -/
theorem exists_roundsTo
    (cs : List Char) :
    ∃ rounds ≤ cs.count ',', RoundsTo cs rounds (ungroup cs) := by
  induction hCount : cs.count ',' using Nat.strongRecOn generalizing cs with
  | _ n ih =>
      by_cases hSplit : IsSplit cs
      · have hFewer := count_joinRound_lt hSplit
        rw [hCount] at hFewer
        rcases ih _ hFewer (joinRound cs) rfl with ⟨rounds, hMost, hRest⟩
        rw [ungroup_joinRound] at hRest
        refine ⟨rounds + 1, by omega, ?_⟩
        exact .round ((isFound_eq_true_iff cs).mpr hSplit)
          (substitute_splitPattern cs) hRest
      · refine ⟨0, Nat.zero_le _, ?_⟩
        rw [ungroup_of_not_isSplit hSplit]
        exact .done ((isFound_eq_false_iff cs).mpr hSplit)

/-
  Rounds of replacing end on every text, in no more rounds than it
  has commas, with the text without its grouping commas. What goes
  are commas between digits of what is left, in which no comma is
  before a group of three any more, so that it is left as it is; and
  what is left of a number in groups are its digits.
-/
theorem rounds_end_ungrouped
    (cs : List Char) :
    (∃ rounds ≤ cs.count ',', RoundsTo cs rounds (ungroup cs)) ∧
    (∀ rounds result, RoundsTo cs rounds result → result = ungroup cs) ∧
    (ungroup cs).Sublist cs ∧
    (ungroup cs).filter (· != ',') = cs.filter (· != ',') ∧
    LosesCommas none cs (ungroup cs) ∧
    ¬ IsSplit (ungroup cs) ∧
    ungroup (ungroup cs) = ungroup cs ∧
    ∀ n, ungroup (grouped (natDigits n)) = natDigits n := by
  have hLoses := losesCommas_ungroup none cs
  have hNormal := not_isSplit_ungroup cs
  refine
    ⟨exists_roundsTo cs, fun _ _ hRounds => hRounds.eq_ungroup,
      hLoses.sublist, hLoses.filter_eq, hLoses, hNormal,
      ungroup_of_not_isSplit hNormal, fun n => ?_⟩
  have hGroups := ungroup_groupedIf true (natDigits_isNumeral n)
    (List.not_mem_nil (a := ','))
  rwa [List.append_nil, List.append_nil] at hGroups

/- The second comma goes first, and then so does the other. -/
example : ungroup "1,2,345".toList = "12345".toList := by
  decide

end Amount

end RecordRules
