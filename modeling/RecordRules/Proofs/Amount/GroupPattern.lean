import Mathlib.Data.List.TakeWhile
import RecordRules.Amount.Grouping
import RecordRules.Pattern.Substitution

/-
  Grouping commas as a pattern, and one round of its replacement.

  Main declarations:
    * `Pattern.runLength_eq` and `Pattern.stretch_eq`, positions of a
      text as what is left of it
    * `Amount.startsSplit`, a digit, a comma and a group of three,
      and `Amount.IsSplit`, where they occur
    * `Amount.joinRound`, a text after one round
    * `Amount.IsFirstSplit`, the first place where digits are split
    * `Amount.splitPattern`, and `Amount.alone_splitExpr`, where the
      pattern matches
    * `Amount.searchFrom?_cases`, the first match in a text
    * `Amount.isFound_eq_true_iff`, the pattern is found in texts with
      split digits
    * `Amount.substitute_splitPattern`, its replacement is one round
-/

namespace RecordRules

open Text Pattern

------------------------------------------------------------
-- Positions of a text
------------------------------------------------------------

namespace Pattern

/- A position of a text is the start of what is left of it. -/
theorem getElem?_eq_head?_drop
    (text : Array Char)
    (position : Nat) :
    text[position]? = (text.toList.drop position).head? := by
  rw [List.head?_drop, Array.getElem?_toList]

/- How many characters pass a test, of those that are left. -/
theorem runLength_eq
    (text : Array Char)
    (test : CharTest)
    (position most : Nat) :
    runLength text test position most =
      (((text.toList.drop position).take most).takeWhile
        test.accepts).length := by
  induction most generalizing position with
  | zero => simp [runLength]
  | succ most ih =>
      rw [runLength, ih, getElem?_eq_head?_drop, ← List.drop_drop]
      cases text.toList.drop position with
      | nil => rfl
      | cons c rest =>
          cases hAccepts : test.accepts c <;> simp [hAccepts]

/- What is left of a text after one more character. -/
theorem drop_succ_of_drop
    {cs : List Char}
    {position : Nat}
    {c : Char}
    {rest : List Char}
    (hDrop : cs.drop position = c :: rest) :
    cs.drop (position + 1) = rest := by
  rw [← List.drop_drop, hDrop]
  rfl

/- A stretch of a text by its characters. -/
theorem stretch_eq
    (text : Array Char)
    (first last : Nat) :
    stretch text first last =
      (text.toList.drop first).take (last - first) := by
  rw [stretch, Array.toList_extract, List.extract_eq_take_drop]

end Pattern

namespace Amount

------------------------------------------------------------
-- Split digits
------------------------------------------------------------

/- A digit, a comma and a group of three at the start of a text. -/
def startsSplit : List Char → Bool
  | d :: ',' :: rest => isDecimal d && startsWithGroup rest
  | _ => false

/- Somewhere in a text a comma splits digits. -/
def IsSplit (cs : List Char) : Prop :=
  ∃ front rest, cs = front ++ rest ∧ startsSplit rest = true

/-
  A text after one round from the left: where a comma splits digits,
  it goes, and the round goes on after the three digits.
-/
def joinRound : List Char → List Char
  | d :: ',' :: a :: b :: c :: rest =>
    if startsSplit (d :: ',' :: a :: b :: c :: rest) then
      d :: a :: b :: c :: joinRound rest
    else
      d :: joinRound (',' :: a :: b :: c :: rest)
  | c :: rest => c :: joinRound rest
  | [] => []

/- Nothing but a comma splits digits. -/
theorem startsSplit_of_ne
    {e : Char}
    (hMark : e ≠ ',')
    (d : Char)
    (rest : List Char) :
    startsSplit (d :: e :: rest) = false := by
  unfold startsSplit
  split
  · rename_i hEq
    cases hEq
    exact absurd rfl hMark
  · rfl

theorem startsSplit_cons_cons
    (d e : Char)
    (rest : List Char) :
    startsSplit (d :: e :: rest) =
      (isDecimal d && (e == ',' && startsWithGroup rest)) := by
  by_cases hMark : e = ','
  · rw [hMark]
    rfl
  · rw [startsSplit_of_ne hMark, beq_eq_false_iff_ne.mpr hMark,
      Bool.false_and, Bool.and_false]

/- What is split starts with a digit, a comma and three digits. -/
theorem exists_of_startsSplit
    {cs : List Char}
    (hSplit : startsSplit cs = true) :
    ∃ d a b c rest, cs = d :: ',' :: a :: b :: c :: rest ∧
      isDecimal d = true ∧ isDecimal a = true ∧ isDecimal b = true ∧
      isDecimal c = true := by
  unfold startsSplit startsWithGroup at hSplit
  split at hSplit
  · split at hSplit
    · simp only [Bool.and_eq_true] at hSplit
      rcases hSplit with ⟨hFirst, ⟨hOne, hTwo⟩, hThree⟩
      exact ⟨_, _, _, _, _, rfl, hFirst, hOne, hTwo, hThree⟩
    · simp at hSplit
  · cases hSplit

theorem not_isSplit_nil : ¬ IsSplit [] := by
  rintro ⟨front, rest, hParts, hSplit⟩
  rw [(List.append_eq_nil_iff.mp hParts.symm).2] at hSplit
  cases hSplit

/- A text is split at its start or later. -/
theorem isSplit_cons_iff
    (c : Char)
    (rest : List Char) :
    IsSplit (c :: rest) ↔
      startsSplit (c :: rest) = true ∨ IsSplit rest := by
  constructor
  · rintro ⟨front, back, hParts, hSplit⟩
    cases front with
    | nil =>
        cases hParts
        exact .inl hSplit
    | cons d front =>
        cases hParts
        exact .inr ⟨front, back, rfl, hSplit⟩
  · rintro (hHere | ⟨front, back, rfl, hLater⟩)
    · exact ⟨[], _, rfl, hHere⟩
    · exact ⟨c :: front, back, rfl, hLater⟩

theorem joinRound_of_split
    {d a b c : Char}
    {rest : List Char}
    (hSplit : startsSplit (d :: ',' :: a :: b :: c :: rest) = true) :
    joinRound (d :: ',' :: a :: b :: c :: rest) =
      d :: a :: b :: c :: joinRound rest := by
  rw [joinRound, if_pos hSplit]

theorem joinRound_of_not_split
    {c : Char}
    {rest : List Char}
    (hOther : startsSplit (c :: rest) = false) :
    joinRound (c :: rest) = c :: joinRound rest := by
  rw [joinRound.eq_def]
  split
  · rename_i hEq
    cases hEq
    rw [hOther, if_neg Bool.false_ne_true]
  · rename_i hEq
    cases hEq
    rfl
  · rename_i hEq
    cases hEq

/- Without split digits a round leaves a text as it is. -/
theorem joinRound_of_not_isSplit
    {cs : List Char}
    (hNone : ¬ IsSplit cs) :
    joinRound cs = cs := by
  induction cs with
  | nil => rfl
  | cons c rest ih =>
      rw [isSplit_cons_iff, not_or, Bool.not_eq_true] at hNone
      rw [joinRound_of_not_split hNone.1, ih hNone.2]

/- The first place where digits are split: a round keeps all before. -/
structure IsFirstSplit (cs between rest : List Char) : Prop where
  whole : cs = between ++ rest
  split : startsSplit rest = true
  round : joinRound cs = between ++ joinRound rest

namespace IsFirstSplit

variable {cs between rest : List Char}

theorem isSplit
    (hFirst : IsFirstSplit cs between rest) :
    IsSplit cs :=
  ⟨between, rest, hFirst.whole, hFirst.split⟩

theorem cons
    {c : Char}
    (hOther : startsSplit (c :: cs) = false)
    (hFirst : IsFirstSplit cs between rest) :
    IsFirstSplit (c :: cs) (c :: between) rest := by
  refine ⟨?_, hFirst.split, ?_⟩
  · rw [hFirst.whole, List.cons_append]
  · rw [joinRound_of_not_split hOther, hFirst.round, List.cons_append]

end IsFirstSplit

------------------------------------------------------------
-- The pattern
------------------------------------------------------------

/- A digit, a comma and three digits, with the digits in groups. -/
def splitPattern : List Char :=
  "(\\d),(\\d\x7b3\x7d)".toList

/- Both groups of digits, without the comma. -/
def joinedPattern : List Char :=
  "\\1\\2".toList

def digitTest : CharTest :=
  .set false [.category .digit false false] .exact

def commaTest : CharTest :=
  .set false [.range 44 44] .exact

/- The pattern as a tree. -/
def splitExpr : Expr :=
  .seq (.group 1 (.seq (.one digitTest) .empty))
    (.seq (.one commaTest)
      (.seq
        (.group 2
          (.seq (.repeated .greedy 3 (some 3) (.one digitTest)) .empty))
        .empty))

/- The pattern has two groups, neither of them with a name. -/
def splitCompiled : Compiled :=
  ⟨splitExpr, 2, []⟩

theorem compile_splitPattern :
    compile splitPattern = .ok splitCompiled := by
  have hRead :
      (match compile splitPattern with
        | .ok pattern => decide (pattern = splitCompiled)
        | .error _ => false) = true := by
    decide +kernel
  split at hRead
  · rename_i pattern hPattern
    rw [hPattern, of_decide_eq_true hRead]
  · cases hRead

theorem readTemplate_joinedPattern :
    readTemplate splitCompiled joinedPattern =
      .ok [.group 1, .group 2] := by
  rfl

theorem accepts_digitTest
    (c : Char) :
    digitTest.accepts c = isDecimal c := by
  simp [digitTest, CharTest.accepts, SetItem.accepts, Category.holds,
    Fold.key]

theorem accepts_commaTest
    (c : Char) :
    commaTest.accepts c = (c == ',') := by
  have hPoint : c = ',' ↔ c.toNat = 44 := by
    rw [← Char.toNat_inj]
    rfl
  rw [Bool.eq_iff_iff, beq_iff_eq, hPoint]
  simp only [commaTest, CharTest.accepts, SetItem.accepts, Fold.key,
    Fold.members]
  simp
  omega

/- Where the groups of a match are, from where it starts. -/
def splitState (first : Nat) : State :=
  { position := first + 5
    starts := #[some first, some (first + 2)]
    ends := #[some (first + 1), some (first + 5)] }

theorem startsWithGroup_iff
    (cs : List Char) :
    startsWithGroup cs = true ↔
      ((cs.take 3).takeWhile isDecimal).length = 3 := by
  match cs with
  | [] => decide
  | [a] => cases hFirst : isDecimal a <;> simp [startsWithGroup, hFirst]
  | [a, b] =>
    cases hFirst : isDecimal a <;> cases hSecond : isDecimal b <;>
      simp [startsWithGroup, hFirst, hSecond]
  | a :: b :: c :: rest =>
    cases hFirst : isDecimal a <;> cases hSecond : isDecimal b <;>
      cases hThird : isDecimal c <;>
        simp [startsWithGroup, hFirst, hSecond, hThird]

/- Three digits are matched together or not at all. -/
theorem repeatOne_group
    (text : Array Char)
    (s : State)
    (after : State → State) :
    repeatOne text digitTest .greedy 3 (some 3) s
        (fun t => some (after t)) =
      if startsWithGroup (text.toList.drop s.position) then
        some (after (s.advance 3))
      else
        none := by
  have hTest : digitTest.accepts = isDecimal :=
    funext accepts_digitTest
  have hRoom :
      (text.toList.drop s.position).take
          (min (text.size - s.position) 3) =
        (text.toList.drop s.position).take 3 := by
    rw [← Array.length_toList, ← List.length_drop, Nat.min_comm,
      ← List.take_eq_take_min]
  have hMost :
      ((List.take 3 (text.toList.drop s.position)).takeWhile
        isDecimal).length ≤ 3 := by
    have hTaken := List.length_take_le 3 (text.toList.drop s.position)
    exact Nat.le_trans (List.takeWhile_prefix _).length_le hTaken
  simp only [repeatOne, runLength_eq, hTest, Option.getD_some, hRoom]
  cases hGroup : startsWithGroup (text.toList.drop s.position) with
  | true =>
      rw [startsWithGroup_iff] at hGroup
      simp [hGroup, tryLonger]
  | false =>
      have hFew :=
        mt (startsWithGroup_iff _).mpr (Bool.eq_false_iff.mp hGroup)
      rw [if_pos (by omega), if_neg Bool.false_ne_true]

/- The pattern matches where a text is split, and nowhere else. -/
theorem alone_splitExpr
    (text : Array Char)
    (first : Nat) :
    (splitExpr.matcher text).alone (State.at 2 first) =
      if startsSplit (text.toList.drop first) then
        some (splitState first)
      else
        none := by
  simp only [splitExpr, Expr.matcher, Matcher.alone, repeatOne_group]
  change
    (if text[first]?.any digitTest.accepts then
      if text[first + 1]?.any commaTest.accepts then
        if startsWithGroup (text.toList.drop (first + 2)) then
          some (splitState first)
        else
          none
      else
        none
    else
      none) = _
  rw [getElem?_eq_head?_drop, getElem?_eq_head?_drop,
    ← List.drop_drop, ← List.drop_drop]
  generalize text.toList.drop first = cs
  match cs with
  | [] => rfl
  | [d] => simp [startsSplit]
  | d :: e :: rest =>
    rw [startsSplit_cons_cons, ← accepts_digitTest, ← accepts_commaTest]
    cases hFirst : digitTest.accepts d <;>
      cases hSecond : commaTest.accepts e <;> simp [hFirst, hSecond]

------------------------------------------------------------
-- Searching and replacing
------------------------------------------------------------

/- At each position there is a match, or the search goes on. -/
theorem searchFrom?_succ
    (text : Array Char)
    (start fuel : Nat) :
    splitCompiled.searchFrom? text start (fuel + 1) =
      if startsSplit (text.toList.drop start) then
        some ⟨start, splitState start⟩
      else
        splitCompiled.searchFrom? text (start + 1) fuel := by
  simp only [Compiled.searchFrom?, splitCompiled, alone_splitExpr]
  cases startsSplit (text.toList.drop start) <;> rfl

/-
  The first match from a position on is where the text is split first.
  Without a match it is not split. The induction is on the number of
  positions that are tried.
-/
theorem searchFrom?_cases
    (text : Array Char)
    (start fuel : Nat)
    (hFuel : text.size < start + fuel) :
    (splitCompiled.searchFrom? text start fuel = none ∧
      ¬ IsSplit (text.toList.drop start)) ∨
    ∃ between rest,
      splitCompiled.searchFrom? text start fuel =
        some ⟨start + between.length,
          splitState (start + between.length)⟩ ∧
      IsFirstSplit (text.toList.drop start) between rest := by
  induction fuel generalizing start with
  | zero =>
      have hEmpty : text.toList.drop start = [] := by
        rw [List.drop_eq_nil_iff, Array.length_toList]
        omega
      exact .inl ⟨rfl, hEmpty ▸ not_isSplit_nil⟩
  | succ fuel ih =>
      rw [searchFrom?_succ]
      cases hHere : startsSplit (text.toList.drop start) with
      | true =>
          rw [if_pos rfl]
          exact .inr ⟨[], _, rfl, rfl, hHere, rfl⟩
      | false =>
          rw [if_neg Bool.false_ne_true]
          have hNext := ih (start + 1) (by omega)
          cases hText : text.toList.drop start with
          | nil =>
              rw [← List.drop_drop, hText, List.drop_nil] at hNext
              rcases hNext with ⟨hNone, hNot⟩ | ⟨between, rest, -, hFirst⟩
              · exact .inl ⟨hNone, hNot⟩
              · exact absurd hFirst.isSplit not_isSplit_nil
          | cons c more =>
              rw [drop_succ_of_drop hText] at hNext
              rw [hText] at hHere
              rcases hNext with
                ⟨hNone, hNot⟩ | ⟨between, rest, hFound, hFirst⟩
              · refine .inl ⟨hNone, ?_⟩
                rw [isSplit_cons_iff, hHere]
                simpa using hNot
              · refine .inr ⟨c :: between, rest, ?_, hFirst.cons hHere⟩
                rw [hFound, List.length_cons, Nat.add_assoc,
                  Nat.add_comm 1]

/- Both groups of a match are its digits. -/
theorem expand_groups
    {text : Array Char}
    {first : Nat}
    {d a b c : Char}
    {rest : List Char}
    (hDrop :
      text.toList.drop first = d :: ',' :: a :: b :: c :: rest) :
    [Piece.group 1, Piece.group 2].flatMap
        (·.expand text ⟨first, splitState first⟩) =
      [d, a, b, c] := by
  have hSecond : text.toList.drop (first + 2) = a :: b :: c :: rest :=
    drop_succ_of_drop (drop_succ_of_drop hDrop)
  simp [Piece.expand, State.span?, splitState, stretch_eq, hDrop,
    hSecond]

/-
  Replacing goes round by round: what is replaced from a position on
  is one round on what is left there. The induction is on the number
  of matches that are still allowed.
-/
theorem replaceFrom_splitCompiled
    (text : Array Char)
    (done fuel : Nat)
    (hFuel : text.size ≤ done + fuel) :
    splitCompiled.replaceFrom [.group 1, .group 2] text done false fuel =
      joinRound (text.toList.drop done) := by
  induction fuel generalizing done with
  | zero =>
      have hEmpty : text.toList.drop done = [] := by
        rw [List.drop_eq_nil_iff, Array.length_toList]
        omega
      rw [Compiled.replaceFrom, stretch_eq, hEmpty, List.take_nil,
        joinRound]
  | succ fuel ih =>
      rw [Compiled.replaceFrom]
      rcases searchFrom?_cases text done (text.size + 1 - done)
          (by omega) with
        ⟨hNone, hNot⟩ |
        ⟨between, rest, hFound, hDrop, hSplit, hRound⟩
      · simp only [Bool.false_eq_true, if_false, hNone]
        rw [joinRound_of_not_isSplit hNot, stretch_eq]
        apply List.take_of_length_le
        rw [List.length_drop, Array.length_toList]
      · rcases exists_of_startsSplit hSplit with
          ⟨d, a, b, c, more, rfl, -⟩
        let first : Nat := done + between.length
        have hFirst :
            text.toList.drop first = d :: ',' :: a :: b :: c :: more := by
          rw [← List.drop_drop, hDrop, List.drop_left]
        have hAfter : text.toList.drop (first + 5) = more := by
          rw [← List.drop_drop, hFirst]
          rfl
        have hBetween : stretch text done first = between := by
          rw [stretch_eq, hDrop, Nat.add_sub_cancel_left, List.take_left]
        have hMoved : (first + 5 == first) = false := by
          rw [beq_eq_false_iff_ne]
          omega
        have hRest := ih (first + 5) (by omega)
        rw [hAfter] at hRest
        simp only [Bool.false_eq_true, if_false, hFound]
        change
          stretch text done first ++
              [Piece.group 1, Piece.group 2].flatMap
                (·.expand text ⟨first, splitState first⟩) ++
            splitCompiled.replaceFrom _ text (first + 5)
              (first + 5 == first) fuel = _
        rw [hBetween, expand_groups hFirst, hMoved, hRest, hRound,
          joinRound_of_split hSplit, List.append_assoc]
        rfl

/- Whether the pattern is found in a text. -/
def isFound (cs : List Char) : Except Fault Bool :=
  (compile splitPattern).map fun pattern =>
    (pattern.search? cs.toArray).isSome

/- The pattern is found in texts with split digits. -/
theorem isFound_eq_true_iff
    (cs : List Char) :
    isFound cs = .ok true ↔ IsSplit cs := by
  rw [isFound, compile_splitPattern, Except.map, Except.ok.injEq,
    Compiled.search?]
  rcases searchFrom?_cases cs.toArray 0 (cs.toArray.size + 1)
      (by omega) with
    ⟨hNone, hNot⟩ | ⟨between, rest, hFound, hFirst⟩
  · rw [hNone]
    simpa using hNot
  · rw [hFound, Option.isSome_some, eq_self, true_iff]
    exact hFirst.isSplit

theorem isFound_eq_false_iff
    (cs : List Char) :
    isFound cs = .ok false ↔ ¬ IsSplit cs := by
  rw [← isFound_eq_true_iff, isFound, compile_splitPattern, Except.map]
  simp

/- Replacing the pattern is one round. -/
theorem substitute_splitPattern
    (cs : List Char) :
    substitute splitPattern joinedPattern cs = .ok (joinRound cs) := by
  have hFuel : cs.toArray.size ≤ 0 + (2 * cs.length + 2) := by
    rw [List.size_toArray]
    omega
  have hRound := replaceFrom_splitCompiled cs.toArray 0 _ hFuel
  simp only [substitute, compile_splitPattern,
    readTemplate_joinedPattern, bind, Except.bind]
  exact congrArg Except.ok hRound

end Amount

end RecordRules
