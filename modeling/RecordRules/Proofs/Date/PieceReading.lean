import RecordRules.Proofs.Date.Pieces

/-
  How the pieces of a date are read from its tokens.

  Main declarations:
    * `Date.gapped`, the tokens of pieces with spaces between them
    * `Date.readTokens_gapped`, pieces between spaces
    * `Date.readTokens_marked`, three numerals between marks
-/

namespace RecordRules

namespace Date

open Text Numeric

------------------------------------------------------------
-- Plain surroundings
------------------------------------------------------------

/- A spot with plain tokens on both sides. -/
def Spot.IsPlain (s : Spot) : Prop :=
  (∀ token ∈ s.before, Date.IsPlain token) ∧
    ∀ token ∈ s.after, Date.IsPlain token

theorem space_isPlain :
    IsPlain [' '] := by
  decide

theorem Spot.IsPlain.next?
    {s : Spot}
    (hPlain : s.IsPlain)
    {n : Nat}
    {token : Token}
    (hNext : s.next? n = some token) :
    Date.IsPlain token :=
  hPlain.2 token (List.mem_of_getElem? hNext)

theorem Spot.IsPlain.unit?_next
    {s : Spot}
    (hPlain : s.IsPlain)
    (n : Nat) :
    (s.next? n).bind unit? = none := by
  cases hNext : s.next? n with
  | none => rfl
  | some token => exact (hPlain.next? hNext).1

theorem Spot.IsPlain.halfDay?_next
    {s : Spot}
    (hPlain : s.IsPlain)
    (n : Nat) :
    (s.next? n).bind halfDay? = none := by
  cases hNext : s.next? n with
  | none => rfl
  | some token => exact (hPlain.next? hNext).2.1

theorem Spot.IsPlain.unitAround?
    {s : Spot}
    (hPlain : s.IsPlain) :
    s.unitAround? = none := by
  have hEarlier : s.earlierUnit? = none := by
    rcases s with ⟨before, token, after⟩
    rcases before with _ | ⟨nearest, farther⟩
    · rfl
    have hNearest : unit? nearest = none :=
      (hPlain.1 nearest (by simp)).1
    have hFarther : farther.head?.bind unit? = none := by
      rcases farther with _ | ⟨token, rest⟩
      · rfl
      · exact (hPlain.1 token (by simp)).1
    simp [Spot.earlierUnit?, hNearest, hFarther]
  simp [Spot.unitAround?, hPlain.unit?_next, hEarlier]

------------------------------------------------------------
-- Numbers
------------------------------------------------------------

/- A short numeral is neither a time nor a whole date. -/
theorem Spot.readNumber_of_isPlain
    {s : Spot}
    {found : Found}
    (hPlain : s.IsPlain)
    (hShort : s.token.length ≤ 4)
    (hRoom : found.members.numbers.length < 3)
    (hClock : s.next? 1 ≠ some [':'])
    (q : Quantity) :
    s.readNumber found q =
      match s.next? 1 with
      | none => s.readSeparate found q
      | some next =>
        if isDateMark next then
          s.readMarked found next
        else if isFiller next then
          s.readSeparate found q
        else
          s.readDay found q := by
  have hTime : s.isCompactTime found = false := by
    have hCount : found.members.numbers.length ≠ 3 := by omega
    simp [Spot.isCompactTime, hCount]
  have hSix : isSix s.token = false := by
    have hLength : s.token.length ≠ 6 := by omega
    have hMore : ¬ 6 < s.token.length := by omega
    simp [isSix, hLength, hMore]
  have hWhole :
      (s.token.length == 8 || s.token.length == 12 ||
        s.token.length == 14) = false := by
    simp only [Bool.or_eq_false_iff, beq_eq_false_iff_ne, ne_eq]
    omega
  have hHalf := hPlain.halfDay?_next 1
  unfold Spot.readNumber
  simp only [hTime, hSix, hWhole, hPlain.unitAround?]
  cases hNext : s.next? 1 with
  | none => rfl
  | some next =>
      rw [hNext] at hHalf hClock
      have hNone : halfDay? next = none := hHalf
      have hOther : next ≠ [':'] := by
        simpa using hClock
      simp [hNone, hOther]

------------------------------------------------------------
-- Single tokens
------------------------------------------------------------

theorem readToken_numeral
    {digits : List Char}
    (hNumeral : IsNumeral digits)
    (before after : List Token)
    (found : Found)
    (fullYear : Nat → Nat) :
    (Spot.mk before digits after).readToken found fullYear =
      (Spot.mk before digits after).readNumber found
        ⟨numeralValue digits, 0⟩ := by
  simp [Spot.readToken, isNumberWord_of_isNumeral hNumeral,
    read?_of_isNumeral hNumeral]

/- A space gives nothing before there is an hour. -/
theorem readToken_space
    (before after : List Token)
    (found : Found)
    (fullYear : Nat → Nat)
    (hHour : found.hour = none) :
    (Spot.mk before [' '] after).readToken found fullYear =
      .ok ⟨found, 0, after⟩ := by
  have hWord : isNumberWord [' '] = false := by decide
  have hNumber : Quantity.read? [' '] = none := by decide
  have hWeekday : weekday? [' '] = none := by decide
  have hMonth : month? [' '] = none := by decide
  have hHalf : halfDay? [' '] = none := by decide
  have hFiller : isFiller [' '] = true := by decide
  simp [Spot.readToken, hWord, hNumber, hWeekday, hMonth, hHalf,
    hFiller, hHour, Found.mayBeZone, Spot.give, pure, Except.pure]

namespace Piece

/- The name of a month is no other word. -/
theorem readToken_nameText
    {month : Nat}
    (hMonth : 1 ≤ month ∧ month ≤ 12)
    (cut : Bool)
    (before after : List Token)
    (found : Found)
    (fullYear : Nat → Nat) :
    (Spot.mk before (nameText month cut) after).readToken found
        fullYear =
      (Spot.mk before (nameText month cut) after).readMonth found
        fullYear month := by
  have hText :
      isNumberWord (nameText month cut) = false ∧
        Quantity.read? (nameText month cut) = none ∧
        weekday? (nameText month cut) = none ∧
        month? (nameText month cut) = some month :=
    forall_nameText
      (P := fun month text =>
        isNumberWord text = false ∧ Quantity.read? text = none ∧
          weekday? text = none ∧ month? text = some month)
      (by decide) hMonth cut
  rcases hText with ⟨hWord, hNumber, hWeekday, hName⟩
  simp [Spot.readToken, hWord, hNumber, hWeekday, hName]

end Piece

------------------------------------------------------------
-- One more number
------------------------------------------------------------

/- A year is one more number, unless there is a year already. -/
theorem pushYear_cases
    (m : Members)
    (year : Nat) :
    m.pushYear year = .error .unreadable ∨
      ∃ n, m.pushYear year = .ok n ∧
        n.numbers.length = m.numbers.length + 1 := by
  unfold Members.pushYear
  split
  · exact .inl rfl
  · exact .inr ⟨_, rfl, by simp [Members.push]⟩

/- A piece is one more number, or there is no date. -/
theorem Piece.push_cases
    (spaced : Bool)
    (m : Members)
    (p : Piece) :
    p.push spaced m = .error .unreadable ∨
      ∃ n, p.push spaced m = .ok n ∧
        n.numbers.length = m.numbers.length + 1 := by
  cases p with
  | numeral digits hNumeral hShort =>
      have hDigits : digits.length ≤ maxDigits :=
        Nat.le_trans hShort (by decide)
      cases spaced with
      | true =>
          simp only [push, if_true, Members.pushQuantity]
          split
          · exact pushYear_cases { m with fullYear := true } _
          · exact .inr ⟨_, rfl, by simp [Members.push]⟩
      | false =>
          simp only [push, Members.pushToken, Bool.false_eq_true,
            if_false, wholeNumber_of_isNumeral hNumeral hDigits,
            bind, Except.bind]
          split
          · exact pushYear_cases { m with fullYear := true } _
          · exact .inr ⟨_, rfl, by simp [Members.push]⟩
  | name month hMonth cut =>
      simp only [push, Members.pushMonth]
      split
      · exact .inl rfl
      · exact .inr ⟨_, rfl, by simp [Members.push]⟩

/- Pieces are as many numbers, or there is no date. -/
theorem Piece.foldlM_push_cases
    (spaced : Bool)
    (m : Members)
    (ps : List Piece) :
    ps.foldlM (Piece.push spaced) m = .error .unreadable ∨
      ∃ n, ps.foldlM (Piece.push spaced) m = .ok n ∧
        n.numbers.length = m.numbers.length + ps.length := by
  induction ps generalizing m with
  | nil => exact .inr ⟨m, rfl, rfl⟩
  | cons p ps ih =>
      rw [List.foldlM_cons]
      rcases p.push_cases spaced m with hPush | ⟨n, hPush, hLength⟩
      · rw [hPush]
        exact .inl rfl
      · rw [hPush]
        rcases ih n with hRest | ⟨last, hRest, hMore⟩
        · exact .inl hRest
        · refine .inr ⟨last, hRest, ?_⟩
          rw [hMore, hLength, List.length_cons]
          omega

------------------------------------------------------------
-- Pieces between spaces
------------------------------------------------------------

/- The tokens of pieces with a space before each of them. -/
def gapsBefore : List Piece → List Token
  | [] => []
  | p :: rest => [' '] :: p.text :: gapsBefore rest

theorem gapsBefore_isPlain
    (ps : List Piece) :
    ∀ token ∈ gapsBefore ps, IsPlain token := by
  induction ps with
  | nil => simp [gapsBefore]
  | cons p ps ih =>
      intro token hMember
      simp only [gapsBefore, List.mem_cons] at hMember
      rcases hMember with rfl | rfl | hMember
      · exact space_isPlain
      · exact p.text_isPlain
      · exact ih token hMember

/- A numeral before a space or at the end is a number by itself. -/
theorem readNumber_gapped
    {before : List Token}
    {digits : List Char}
    {found : Found}
    (hBefore : ∀ token ∈ before, IsPlain token)
    (hShort : digits.length ≤ 4)
    (hRoom : found.members.numbers.length < 3)
    (ps : List Piece)
    (q : Quantity) :
    (Spot.mk before digits (gapsBefore ps)).readNumber found q =
      (found.members.pushQuantity q).map fun members =>
        ⟨{ found with members }, 1, gapsBefore ps⟩ := by
  have hPlain :
      (Spot.mk before digits (gapsBefore ps)).IsPlain :=
    ⟨hBefore, gapsBefore_isPlain ps⟩
  have hSeparate :
      (Spot.mk before digits (gapsBefore ps)).readSeparate found q =
        (found.members.pushQuantity q).map fun members =>
          ⟨{ found with members }, 1, gapsBefore ps⟩ := by
    unfold Spot.readSeparate
    rw [hPlain.halfDay?_next 2]
    cases found.members.pushQuantity q <;> rfl
  have hClock :
      (Spot.mk before digits (gapsBefore ps)).next? 1 ≠
        some [':'] := by
    cases ps <;> simp [Spot.next?, gapsBefore]
  have hMark : isDateMark [' '] = false := by decide
  have hFiller : isFiller [' '] = true := by decide
  rw [Spot.readNumber_of_isPlain hPlain hShort hRoom hClock,
    hSeparate]
  cases ps with
  | nil => rfl
  | cons p ps => simp [Spot.next?, gapsBefore, hMark, hFiller]

/- The name of a month before a space or at the end is just that. -/
theorem readMonth_gapped
    (before : List Token)
    (word : Token)
    (found : Found)
    (fullYear : Nat → Nat)
    (month : Nat)
    (ps : List Piece) :
    (Spot.mk before word (gapsBefore ps)).readMonth found fullYear
        month =
      (found.members.pushMonth month).map fun members =>
        ⟨{ found with members }, 0, gapsBefore ps⟩ := by
  unfold Spot.readMonth
  cases found.members.pushMonth month with
  | error e => rfl
  | ok members =>
      rcases ps with _ | ⟨p, _ | ⟨q, ps⟩⟩
      · rfl
      · simp [Spot.next?, gapsBefore, bind, Except.bind, pure,
          Except.pure, Except.map, Spot.give]
      · have hOf : isOf p.text = false := p.text_isPlain.2.2
        simp [Spot.next?, gapsBefore, bind, Except.bind, pure,
          Except.pure, Except.map, Spot.give, hOf]

/-
  The name of a month is read alone, and a space after it is passed
  over in a step of its own.
-/
theorem readTokens_name
    (fullYear : Nat → Nat)
    {month : Nat}
    (hMonth : 1 ≤ month ∧ month ≤ 12)
    (cut : Bool)
    (ps : List Piece)
    (fuel : Nat)
    {found : Found}
    {before : List Token}
    (hFuel : ps.length ≤ fuel)
    (hHour : found.hour = none)
    (hBefore : ∀ token ∈ before, IsPlain token) :
    ∃ passed left,
      (∀ token ∈ passed, IsPlain token) ∧ fuel ≤ left + 1 ∧
        readTokens fullYear found before (fuel + 1)
            (Piece.nameText month cut :: gapsBefore ps) =
          (found.members.pushMonth month) >>= fun members =>
            readTokens fullYear { found with members } passed left
              ((gapsBefore ps).drop 1) := by
  have hName : IsPlain (Piece.nameText month cut) :=
    (Piece.name month hMonth cut).text_isPlain
  have hPassed :
      ∀ token ∈ Piece.nameText month cut :: before, IsPlain token :=
    List.forall_mem_cons.mpr ⟨hName, hBefore⟩
  have hMember :=
    readMonth_gapped before (Piece.nameText month cut) found fullYear
      month ps
  rcases ps with _ | ⟨q, ps⟩
  · refine
      ⟨Piece.nameText month cut :: before, fuel, hPassed, by omega,
        ?_⟩
    simp only [readTokens, Piece.readToken_nameText hMonth, hMember]
    cases found.members.pushMonth month <;> rfl
  · rw [List.length_cons] at hFuel
    rcases fuel with _ | fuel
    · omega
    refine
      ⟨[' '] :: Piece.nameText month cut :: before, fuel,
        List.forall_mem_cons.mpr ⟨space_isPlain, hPassed⟩,
        by omega, ?_⟩
    simp only [readTokens, Piece.readToken_nameText hMonth, hMember]
    cases found.members.pushMonth month with
    | error e => rfl
    | ok members =>
        have hSpace :=
          readToken_space (Piece.nameText month cut :: before)
            (q.text :: gapsBefore ps) { found with members }
            fullYear hHour
        simp [gapsBefore, readTokens, hSpace, Except.map, bind,
          Except.bind]

/- A piece before a space takes the space along. -/
theorem readTokens_piece
    (fullYear : Nat → Nat)
    (p : Piece)
    (ps : List Piece)
    (fuel : Nat)
    {found : Found}
    {before : List Token}
    (hFuel : ps.length ≤ fuel)
    (hRoom : found.members.numbers.length < 3)
    (hHour : found.hour = none)
    (hBefore : ∀ token ∈ before, IsPlain token) :
    ∃ passed left,
      (∀ token ∈ passed, IsPlain token) ∧ fuel ≤ left + 1 ∧
        readTokens fullYear found before (fuel + 1)
            (p.text :: gapsBefore ps) =
          (p.push true found.members) >>= fun members =>
            readTokens fullYear { found with members } passed left
              ((gapsBefore ps).drop 1) := by
  have hPlain := gapsBefore_isPlain ps
  cases p with
  | numeral digits hNumeral hShort =>
      have hDigits : IsPlain digits :=
        (Piece.numeral digits hNumeral hShort).text_isPlain
      refine
        ⟨((gapsBefore ps).take 1).reverse ++ digits :: before,
          fuel, ?_, by omega, ?_⟩
      · intro token hMember
        simp only [List.mem_append, List.mem_reverse,
          List.mem_cons] at hMember
        rcases hMember with hMember | rfl | hMember
        · exact hPlain token (List.mem_of_mem_take hMember)
        · exact hDigits
        · exact hBefore token hMember
      · simp only [Piece.text, readTokens,
          readToken_numeral hNumeral,
          readNumber_gapped hBefore hShort hRoom ps,
          Piece.push, if_true]
        cases found.members.pushQuantity
          ⟨numeralValue digits, 0⟩ <;> rfl
  | name month hMonth cut =>
      exact
        readTokens_name fullYear hMonth cut ps fuel hFuel hHour
          hBefore

/-
  Pieces between spaces are the members of the date, one after
  another, as long as there are not more than three.
-/
theorem readTokens_gapped
    (fullYear : Nat → Nat)
    (p : Piece)
    (ps : List Piece)
    (found : Found)
    (before : List Token)
    (fuel : Nat)
    (hFuel : 2 * ps.length < fuel)
    (hRoom : found.members.numbers.length + ps.length < 3)
    (hHour : found.hour = none)
    (hBefore : ∀ token ∈ before, IsPlain token) :
    readTokens fullYear found before fuel
        (p.text :: gapsBefore ps) =
      ((p :: ps).foldlM (Piece.push true) found.members).map
        fun members => { found with members } := by
  induction ps generalizing p found before fuel with
  | nil =>
      have hStep :=
        readTokens_piece fullYear p [] (fuel - 1)
          (by simp) (by omega) hHour hBefore
      rw [Nat.sub_add_cancel (by omega)] at hStep
      rcases hStep with ⟨passed, left, -, -, hStep⟩
      have hEnd (found : Found) :
          readTokens fullYear found passed left [] = .ok found := by
        simp [readTokens]
      rw [hStep, List.foldlM_cons]
      cases p.push true found.members with
      | error e => rfl
      | ok members => exact hEnd _
  | cons q ps ih =>
      rw [List.length_cons] at hFuel hRoom
      have hStep :=
        readTokens_piece fullYear p (q :: ps) (fuel - 1)
          (by rw [List.length_cons]; omega) (by omega) hHour hBefore
      rw [Nat.sub_add_cancel (by omega)] at hStep
      rcases hStep with ⟨passed, left, hPassed, hLeft, hStep⟩
      rw [hStep, List.foldlM_cons]
      rcases p.push_cases true found.members with
        hPush | ⟨members, hPush, hLength⟩
      · rw [hPush]
        rfl
      · rw [hPush]
        exact
          ih q { found with members } passed left (by omega)
            (by simp only; omega) hHour hPassed

------------------------------------------------------------
-- Numerals between marks
------------------------------------------------------------

/- Three numerals between equal marks are read in one step. -/
theorem readMarked_numerals
    {first second third : List Char}
    {mark : Token}
    (hSecond : IsNumeral second)
    (hThird : IsNumeral third)
    (found : Found) :
    (Spot.mk [] first [mark, second, mark, third]).readMarked found
        mark =
      ([first, second, third].foldlM
          (fun (m : Members) digits => m.pushToken digits false)
          found.members).map
        fun members =>
          ⟨{ found with members }, 4,
            [mark, second, mark, third]⟩ := by
  have hFiller := isFiller_of_isNumeral hSecond
  have hDigits := isNumeral_of_isNumeral hSecond
  have hMonth := month?_of_isNumeral hThird
  simp only [Spot.readMarked, Spot.next?, Spot.give,
    List.foldlM_cons, List.foldlM_nil]
  cases found.members.pushToken first false with
  | error e => rfl
  | ok m =>
      simp [hFiller, hDigits, demand, bind, Except.bind]
      cases m.pushToken second false with
      | error e => rfl
      | ok m =>
          simp [hMonth]
          cases m.pushToken third false <;> rfl

theorem isPlain_of_isDateMark
    {mark : Token}
    (hMark : isDateMark mark = true) :
    IsPlain mark := by
  simp only [isDateMark, Bool.or_eq_true, beq_iff_eq] at hMark
  rcases hMark with (rfl | rfl) | rfl <;> decide

/-
  Three numerals between marks are the members of the date, one
  after another.
-/
theorem readTokens_marked
    (fullYear : Nat → Nat)
    {first second third : Piece}
    {mark : Token}
    (hMark : isDateMark mark = true)
    (hNumbers : first.IsNumber ∧ second.IsNumber ∧ third.IsNumber)
    (fuel : Nat) :
    readTokens fullYear .start [] (fuel + 1)
        [first.text, mark, second.text, mark, third.text] =
      ([first, second, third].foldlM (Piece.push false) .start).map
        fun members => { Found.start with members } := by
  have hPlain :
      (Spot.mk [] first.text
        [mark, second.text, mark, third.text]).IsPlain := by
    refine ⟨by simp, ?_⟩
    intro token hMember
    simp only [List.mem_cons, List.not_mem_nil, or_false] at hMember
    rcases hMember with rfl | rfl | rfl | rfl
    · exact isPlain_of_isDateMark hMark
    · exact second.text_isPlain
    · exact isPlain_of_isDateMark hMark
    · exact third.text_isPlain
  have hClock :
      (Spot.mk [] first.text
        [mark, second.text, mark, third.text]).next? 1 ≠
          some [':'] := by
    intro hEq
    rw [Option.some.inj hEq] at hMark
    exact absurd hMark (by decide)
  have hEnd (found : Found) (passed : List Token) :
      readTokens fullYear found passed fuel [] = .ok found := by
    simp [readTokens]
  cases first with
  | name month hMonth cut => exact hNumbers.1.elim
  | numeral first hFirst hFirstShort =>
  cases second with
  | name month hMonth cut => exact hNumbers.2.1.elim
  | numeral second hSecond hSecondShort =>
  cases third with
  | name month hMonth cut => exact hNumbers.2.2.elim
  | numeral third hThird hThirdShort =>
  simp only [Piece.text] at hPlain hClock ⊢
  rw [readTokens, readToken_numeral hFirst,
    Spot.readNumber_of_isPlain hPlain hFirstShort (by decide) hClock]
  have hNext :
      (Spot.mk [] first [mark, second, mark, third]).next? 1 =
        some mark := rfl
  have hFold :
      [Piece.numeral first hFirst hFirstShort,
          .numeral second hSecond hSecondShort,
          .numeral third hThird hThirdShort].foldlM
          (Piece.push false) .start =
        [first, second, third].foldlM
          (fun (m : Members) digits => m.pushToken digits false)
          Found.start.members := rfl
  simp only [hNext, hMark, if_true, hFold,
    readMarked_numerals hSecond hThird]
  cases [first, second, third].foldlM
      (fun (m : Members) digits => m.pushToken digits false)
      Found.start.members with
  | error e => rfl
  | ok members => exact hEnd _ _

end Date

end RecordRules
