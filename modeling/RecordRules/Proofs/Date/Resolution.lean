import RecordRules.Proofs.Calendar.Ordinal
import RecordRules.Proofs.Date.Writing
import RecordRules.Proofs.Edit.Outcome
import RecordRules.Proofs.Text.SmallForms

/-
  Fields and bounds are read as the same instants.

  Main declarations:
    * `Date.readNatural_of_now`, no natural date starts with the
      word for the current instant
    * `Date.parseText_of_step`, steps are no natural dates
    * `Date.relativeOf?_of_digit`
    * `Date.resolveBound_eq_resolveValue`
-/

namespace RecordRules

namespace Date

open Text Numeric

------------------------------------------------------------
-- The word for the current instant
------------------------------------------------------------

/- A token that is the word for the current instant. -/
structure IsNow (token : Token) : Prop where
  ne_nil : token ≠ []
  latin : ∀ c ∈ token, IsLatin c
  small_eq : small token = "now"

namespace IsNow

variable {token : Token}

theorem isWord
    (hNow : IsNow token) :
    IsWord token :=
  ⟨hNow.ne_nil, fun c hMember => (hNow.latin c hMember).isLetter⟩

theorem read?_eq
    (hNow : IsNow token) :
    Quantity.read? token = none := by
  rcases List.exists_cons_of_ne_nil hNow.ne_nil with ⟨c, rest, rfl⟩
  have hFirst := hNow.latin c List.mem_cons_self
  have hPoint : c ≠ '.' := by
    rintro rfl
    exact absurd hFirst (by decide)
  have hDigits : takeDigits (c :: rest) = ([], c :: rest) := by
    rw [takeDigits, hFirst.digitValue?_eq]
  have hFraction : takeFraction (c :: rest) = ([], c :: rest) := by
    unfold takeFraction
    split
    · rename_i hPointed
      exact absurd (List.cons.inj hPointed).1 hPoint
    · rfl
  simp [Quantity.read?, hDigits, hFraction]

/- The word has no meaning in a natural date. -/
theorem readToken_eq
    (hNow : IsNow token)
    (before after : List Token)
    (fullYear : Nat → Nat) :
    (Spot.mk before token after).readToken .start fullYear =
      .error .unreadable := by
  have hSmall := hNow.small_eq
  have hNumber : isNumberWord token = false := by
    rw [isNumberWord, hSmall]
    rfl
  have hWeekday : weekday? token = none := by
    rw [weekday?, hSmall]
    decide
  have hMonth : month? token = none := by
    rw [month?, hSmall]
    decide
  have hHalf : halfDay? token = none := by
    rw [halfDay?, hSmall]
    rfl
  have hFiller : isFiller token = false := by
    rw [isFiller, hSmall]
    decide
  have hHour : Found.start.hour = none := rfl
  simp [Spot.readToken, hNumber, hNow.read?_eq, hWeekday, hMonth,
    hHalf, hFiller, hHour, Found.mayBeZone, throw, throwThe,
    MonadExceptOf.throw]

end IsNow

/- No natural date starts with the word for the current instant. -/
theorem readNatural_of_now
    {text : List Char}
    {token : Token}
    {rest : List Token}
    (hTokens : tokens text = token :: rest)
    (hNow : IsNow token)
    (clock : Instant)
    (dayFirst : Bool) :
    readNatural clock dayFirst text = .error .unreadable := by
  simp only [readNatural, hTokens, List.length_cons, readTokens,
    hNow.readToken_eq]
  rfl

------------------------------------------------------------
-- Steps from the current instant
------------------------------------------------------------

theorem withoutOrdinals_cons
    {c : Char}
    (hOther : isDecimal c = false)
    (cs : List Char) :
    withoutOrdinals (c :: cs) = c :: withoutOrdinals cs := by
  match cs with
  | [] => simp [withoutOrdinals]
  | [d] => simp [withoutOrdinals]
  | [d, a] => simp [withoutOrdinals, hOther]
  | d :: a :: b :: rest =>
      rw [withoutOrdinals]
      simp [hOther]

/- What has no digits before it is not the end of an ordinal. -/
theorem withoutOrdinals_append
    {word : List Char}
    (hWord : ∀ c ∈ word, isDecimal c = false)
    (cs : List Char) :
    withoutOrdinals (word ++ cs) = word ++ withoutOrdinals cs := by
  induction word with
  | nil => rfl
  | cons c word ih =>
      rw [List.cons_append,
        withoutOrdinals_cons (hWord c List.mem_cons_self),
        ih fun d hMember => hWord d (List.mem_cons_of_mem c hMember),
        List.cons_append]

/- What has the word as its small form is the word. -/
theorem isNow_of_lowerChar
    {n o w : Char}
    (hFirst : lowerChar n = 'n')
    (hSecond : lowerChar o = 'o')
    (hThird : lowerChar w = 'w') :
    IsNow [n, o, w] := by
  have hN : IsLatin n :=
    .of_lowerChar (by decide) (by decide) hFirst
  have hO : IsLatin o :=
    .of_lowerChar (by decide) (by decide) hSecond
  have hW : IsLatin w :=
    .of_lowerChar (by decide) (by decide) hThird
  have hLatin : ∀ c ∈ [n, o, w], IsLatin c := by
    intro c hMember
    simp only [List.mem_cons, List.not_mem_nil, or_false] at hMember
    rcases hMember with rfl | rfl | rfl <;> assumption
  refine ⟨List.cons_ne_nil _ _, hLatin, ?_⟩
  rw [small, lower_of_isAscii fun c hMember =>
    (hLatin c hMember).isAscii]
  simp only [List.map_cons, List.map_nil, hFirst, hSecond, hThird]

/- A text that is a step in small letters starts with the word. -/
theorem exists_now_of_lower
    {cs smalls : List Char}
    {sign : Char}
    (hLower : lower cs = 'n' :: 'o' :: 'w' :: sign :: smalls)
    (hSign : sign = '+' ∨ sign = '-') :
    ∃ token rest, cs = token ++ sign :: rest ∧ IsNow token := by
  rcases exists_of_lowerAfter hLower (by decide) (by decide) with
    ⟨n, afterN, rfl, hN, hLower⟩
  rcases exists_of_lowerAfter hLower (by decide) (by decide) with
    ⟨o, afterO, rfl, hO, hLower⟩
  rcases exists_of_lowerAfter hLower (by decide) (by decide) with
    ⟨w, afterW, rfl, hW, hLower⟩
  have hAscii : sign.toNat < 128 ∧ sign ∉ sharedSmallForms := by
    rcases hSign with rfl | rfl <;> decide
  rcases exists_of_lowerAfter hLower hAscii.1 hAscii.2 with
    ⟨c, rest, rfl, hC, -⟩
  have hSame : c = sign := by
    apply Char.toNat_inj.mp
    rcases toNat_of_lowerChar hC hAscii.1 hAscii.2 with
      hSame | ⟨hLow, hHigh, hLetter⟩
    · exact hSame
    · rcases hSign with rfl | rfl <;>
        simp at hLetter <;>
        omega
  rw [hSame]
  exact ⟨[n, o, w], rest, rfl, isNow_of_lowerChar hN hO hW⟩

/- A step is written with the word and a sign in front. -/
theorem exists_sign_of_step
    {smalls : List Char}
    {s : Step}
    (hStep : Relative.read? smalls = some (.step s)) :
    ∃ sign rest,
      smalls = 'n' :: 'o' :: 'w' :: sign :: rest ∧
        (sign = '+' ∨ sign = '-') := by
  unfold Relative.read? at hStep
  split at hStep
  · cases hStep
  · exact ⟨'+', _, rfl, .inl rfl⟩
  · exact ⟨'-', _, rfl, .inr rfl⟩
  · cases hStep

/- The word before a sign is the first token of a text. -/
theorem tokens_of_now
    {token : Token}
    {sign : Char}
    (hNow : IsNow token)
    (hSign : sign = '+' ∨ sign = '-')
    (rest : List Char) :
    ∃ others, tokens (token ++ sign :: rest) = token :: others := by
  have hKept : token.filter (·.toNat != 0) = token := by
    apply List.filter_eq_self.mpr
    intro c hMember
    rcases (hNow.latin c hMember).bounds with hBounds | hBounds <;>
      simp <;>
      omega
  have hSeparator :
      IsSeparator sign ∧ (sign.toNat != 0) = true := by
    rcases hSign with rfl | rfl <;> decide
  rw [tokens, List.filter_append, hKept, List.filter_cons,
    if_pos hSeparator.2,
    tokensAfter_run_separator (.inr hNow.isWord) hSeparator.1]
  exact ⟨_, rfl⟩

/- A step is no natural date. -/
theorem parseText_of_step
    (context : Context)
    {cs : List Char}
    {s : Step}
    (hStep : Relative.read? (lower cs) = some (.step s)) :
    parseText context cs = .ok none := by
  rcases exists_sign_of_step hStep with ⟨sign, smalls, hLower, hSign⟩
  rcases exists_now_of_lower hLower hSign with
    ⟨token, rest, rfl, hNow⟩
  have hLetters : ∀ c ∈ token, isDecimal c = false := by
    intro c hMember
    rw [isDecimal, (hNow.latin c hMember).digitValue?_eq]
    rfl
  have hDecimal : isDecimal sign = false := by
    rcases hSign with rfl | rfl <;> decide
  have hText :
      withoutOrdinals (token ++ sign :: rest) =
        token ++ sign :: withoutOrdinals rest := by
    rw [withoutOrdinals_append hLetters,
      withoutOrdinals_cons hDecimal]
  rcases tokens_of_now hNow hSign (withoutOrdinals rest) with
    ⟨others, hTokens⟩
  simp only [parseText, hText,
    readNatural_of_now hTokens hNow context.clock context.dayFirst]

/- A step is no word for a day near the current one. -/
theorem nearbyDay?_of_step
    {smalls : List Char}
    {s : Step}
    (hStep : Relative.read? smalls = some (.step s)) :
    nearbyDay? smalls = none := by
  rcases exists_sign_of_step hStep with ⟨sign, rest, rfl, -⟩
  simp [nearbyDay?]

/- The current instant is written with its word alone. -/
theorem eq_of_read?_now
    {smalls : List Char}
    (hNow : Relative.read? smalls = some .now) :
    smalls = "now".toList := by
  unfold Relative.read? at hNow
  split at hNow
  · rfl
  all_goals
    simp at hNow

------------------------------------------------------------
-- Texts without blanks around them
------------------------------------------------------------

/- A text without blanks around it as a natural date. -/
def parseStripped
    (context : Context)
    (cs : List Char) : Except Failure (Option Instant) :=
  if cs.isEmpty then
    .ok none
  else
    match nearbyDay? (lower cs) with
    | some distance =>
      match context.clock.shiftDays? distance with
      | some t => .ok (some t)
      | none => .error .outOfCalendar
    | none => parseText context cs

theorem parseStripped_of_now
    (context : Context)
    {cs : List Char}
    (hNow : Relative.read? (lower cs) = some .now) :
    parseStripped context cs = .ok (some context.clock) := by
  have hWord := eq_of_read?_now hNow
  have hSome : cs.isEmpty = false := by
    cases cs with
    | nil => cases hWord
    | cons c rest => rfl
  have hNear : nearbyDay? "now".toList = some 0 := by decide
  simp only [parseStripped, hSome, hWord, hNear,
    Instant.shiftDays?_zero]
  rfl

theorem parseStripped_of_step
    (context : Context)
    {cs : List Char}
    {s : Step}
    (hStep : Relative.read? (lower cs) = some (.step s)) :
    parseStripped context cs = .ok none := by
  unfold parseStripped
  split
  · rfl
  · rw [nearbyDay?_of_step hStep]
    exact parseText_of_step context hStep

------------------------------------------------------------
-- Values
------------------------------------------------------------

section Values

variable
  {context : Context}
  {v : Value}

/- The values that are read as dates by their text. -/
def IsReadByText : Value → Prop
  | .null | .stamp _ | .day _ => False
  | _ => True

theorem parse_eq_of_text
    (context : Context)
    (hText : IsReadByText v) :
    parse context v =
      v.print >>= fun cs => parseStripped context (strip cs) := by
  cases v with
  | null => cases hText
  | stamp s => cases hText
  | day d => cases hText
  | _ => rfl

theorem parseRelative_eq_of_text
    (context : Context)
    (hText : IsReadByText v) :
    parseRelative context v =
      relativeOf? v >>= fun relative =>
        match relative with
        | none => .ok none
        | some r => r.resolve? context.clock := by
  cases v with
  | null => cases hText
  | stamp s => cases hText
  | day d => cases hText
  | _ => rfl

theorem isDate_eq
    (context : Context)
    (v : Value) :
    isDate context v =
      relativeOf? v >>= fun relative =>
        if relative.any Relative.isStep then
          .ok false
        else
          (parse context v).map Option.isSome := by
  have hBody :
      isDate context v =
        relativeOf? v >>= fun relative =>
          if relative.any Relative.isStep then
            .ok false
          else
            parse context v >>= fun t => .ok t.isSome := by
    cases v <;> rfl
  rw [hBody]
  cases parse context v <;> rfl

theorem resolveBound_eq
    (context : Context)
    (v : Value) :
    resolveBound context v =
      isDate context v >>= fun natural =>
        if natural then
          parse context v
        else
          parseRelative context v := by
  cases v <;> rfl

/- Values that are no relative dates are read alike. -/
theorem resolveBound_of_natural
    (context : Context)
    (hNatural : relativeOf? v = .ok none)
    (hNone : parseRelative context v = .ok none) :
    resolveBound context v = resolveValue context v := by
  have hValue : resolveValue context v = parse context v := by
    simp only [resolveValue, hNone, bind, Except.bind]
  have hDate :
      isDate context v = (parse context v).map Option.isSome := by
    rw [isDate_eq, hNatural]
    rfl
  rw [resolveBound_eq, hDate, hValue, hNone]
  rcases hParse : parse context v with _ | _ | t <;> rfl

/- The text that a relative date is read from. -/
theorem exists_print_of_relativeOf?
    {relative : Option Relative}
    (hRelative : relativeOf? v = .ok relative) :
    ∃ cs,
      v.print = .ok cs ∧
        Relative.read? (lower (strip cs)) = relative := by
  unfold relativeOf? at hRelative
  rcases Failure.exists_of_bind hRelative with ⟨cs, hPrint, hRead⟩
  exact ⟨cs, hPrint, Except.ok.inj hRead⟩

/- The word for the current instant is a natural date as well. -/
theorem parse_of_now
    (context : Context)
    (hText : IsReadByText v)
    (hNow : relativeOf? v = .ok (some .now)) :
    parse context v = .ok (some context.clock) := by
  rcases exists_print_of_relativeOf? hNow with ⟨cs, hPrint, hRead⟩
  rw [parse_eq_of_text context hText, hPrint]
  exact parseStripped_of_now context hRead

theorem parse_of_step
    (context : Context)
    {s : Step}
    (hText : IsReadByText v)
    (hStep : relativeOf? v = .ok (some (.step s))) :
    parse context v = .ok none := by
  rcases exists_print_of_relativeOf? hStep with ⟨cs, hPrint, hRead⟩
  rw [parse_eq_of_text context hText, hPrint]
  exact parseStripped_of_step context hRead

/-
  What is no relative date is left to the natural dates, the word
  for the current instant means the same as either, and a step is
  no natural date, so that nothing else is tried after it.
-/
theorem resolveBound_of_text
    (context : Context)
    (hText : IsReadByText v) :
    resolveBound context v = resolveValue context v := by
  have hRelative := parseRelative_eq_of_text context hText
  rcases hKind : relativeOf? v with failure | _ | _ | s
  · rw [hKind] at hRelative
    rw [resolveBound_eq, isDate_eq, resolveValue, hKind, hRelative]
    rfl
  · rw [hKind] at hRelative
    exact resolveBound_of_natural context hKind hRelative
  · rw [hKind] at hRelative
    rw [resolveBound_eq, isDate_eq, resolveValue, hKind, hRelative,
      parse_of_now context hText hKind]
    rfl
  · rw [hKind] at hRelative
    rw [resolveBound_eq, isDate_eq, resolveValue, hKind, hRelative,
      parse_of_step context hText hKind]
    change s.resolve? context.clock = s.resolve? context.clock >>= _
    rcases s.resolve? context.clock with failure | _ | t <;> rfl

------------------------------------------------------------
-- Days and instants
------------------------------------------------------------

/- The start of a text stays where it is if it is not blank. -/
theorem exists_strip_cons
    {c : Char}
    (hFirst : isBlank c = false)
    (cs : List Char) :
    ∃ rest, strip (c :: cs) = c :: rest := by
  have hStart : stripStart (c :: cs) = c :: cs := by
    simp [stripStart, List.dropWhile, hFirst]
  have hEnd : [c].dropWhile isBlank = [c] := by
    simp [List.dropWhile, hFirst]
  rw [strip, hStart, stripEnd, List.reverse_cons,
    List.dropWhile_append]
  split
  · exact ⟨[], by rw [hEnd]; rfl⟩
  · exact ⟨_, by rw [List.reverse_append]; rfl⟩

/- What is written with a digit in front is no relative date. -/
theorem relativeOf?_of_digit
    {c : Char}
    {cs : List Char}
    (hDigit : IsDigit c)
    (hPrint : v.print = .ok (c :: cs)) :
    relativeOf? v = .ok none := by
  rcases exists_strip_cons hDigit.isBlank cs with ⟨rest, hStrip⟩
  have hNone : Relative.read? (lower (c :: rest)) = none := by
    apply relative_of_take
    intro hStart
    rcases hLower : lower (c :: rest) with _ | ⟨d, smalls⟩
    · rw [hLower] at hStart
      cases hStart
    · have hFirst : d = 'n' := by
        rw [hLower] at hStart
        exact (List.cons.inj hStart).1
      subst hFirst
      rcases exists_of_lowerAfter hLower (by decide) (by decide) with
        ⟨_, _, hSame, hSmall, -⟩
      cases hSame
      rw [hDigit.lowerChar_eq] at hSmall
      exact hDigit.ne (by decide) hSmall
  simp only [relativeOf?, hPrint, bind, Except.bind, hStrip, hNone]
  rfl

/- A day is written with a digit in front. -/
theorem exists_digit_of_isoText
    (d : Day) :
    ∃ c rest, IsDigit c ∧ d.isoText = c :: rest := by
  have hYear := paddedDigits_isNumeral 4 d.year
  rcases List.exists_cons_of_ne_nil hYear.1 with ⟨c, rest, hText⟩
  have hDigit := hYear.2 c (by rw [hText]; exact List.mem_cons_self)
  rw [Day.isoText, hText]
  exact ⟨c, _, hDigit, rfl⟩

/- The instant of a bound is the one of a field. -/
theorem resolveBound_eq_resolveValue
    (context : Context)
    (v : Value) :
    resolveBound context v = resolveValue context v := by
  cases v with
  | null => rfl
  | stamp s =>
      rcases exists_digit_of_isoText s.instant.day with
        ⟨c, rest, hDigit, hText⟩
      have hPrint : ∃ cs, (Value.stamp s).print = .ok (c :: cs) := by
        rw [Value.print, Stamp.isoText, Instant.isoText, hText]
        exact ⟨_, rfl⟩
      rcases hPrint with ⟨cs, hPrint⟩
      exact
        resolveBound_of_natural context
          (relativeOf?_of_digit hDigit hPrint) rfl
  | day d =>
      rcases exists_digit_of_isoText d with ⟨c, rest, hDigit, hText⟩
      have hPrint : (Value.day d).print = .ok (c :: rest) := by
        rw [Value.print, hText]
      exact
        resolveBound_of_natural context
          (relativeOf?_of_digit hDigit hPrint) rfl
  | _ => exact resolveBound_of_text context trivial

end Values

end Date

end RecordRules
