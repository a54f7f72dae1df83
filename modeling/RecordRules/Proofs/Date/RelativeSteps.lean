import RecordRules.Proofs.Calendar.Shifts
import RecordRules.Proofs.Date.Readable
import RecordRules.Proofs.Numeric.DecimalText
import RecordRules.Proofs.Text.Scripts

/-
  Relative dates: how they are written, and what they stand for.

  Main declarations:
    * `Text.Says`, a word in letters of any case, and
      `Text.IsPadded`, blanks around a text
    * `Date.IsNowText` and `Date.IsStepText`, the texts that are
      relative dates
    * `Date.read?_of_isStepText`, and `Date.read?_eq_none` for the
      other ASCII texts
    * `StepUnit.Leads` and `StepUnit.HasPlace`, steps by their counts
    * `Date.relative_dates_count_from_clock`
-/

namespace RecordRules

open Text Numeric Calendar

------------------------------------------------------------
-- Letters of any case
------------------------------------------------------------

namespace Text

theorem toNat_toLower
    (c : Char) :
    c.toLower.toNat =
      if 65 ≤ c.toNat ∧ c.toNat ≤ 90 then c.toNat + 32 else c.toNat := by
  unfold Char.toLower
  split
  · rename_i hCapital
    have hBounds : 65 ≤ c.toNat ∧ c.toNat ≤ 90 := hCapital
    rw [if_pos hBounds]
    change (c.val + 32).toNat = _
    rw [UInt32.toNat_add]
    change (c.toNat + 32) % 4294967296 = _
    omega
  · rename_i hOther
    have hBounds : ¬ (65 ≤ c.toNat ∧ c.toNat ≤ 90) := hOther
    rw [if_neg hBounds]

theorem lowerChar_eq_toLower
    {c : Char}
    (hAscii : c.toNat < 128) :
    lowerChar c = c.toLower := by
  refine Char.toNat_inj.mp ?_
  rw [toNat_toLower, lowerChar, if_pos hAscii]
  split
  · have hValid : (c.toNat + 32).isValidChar := by
      left
      omega
    rw [toNat_ofNat hValid]
  · rfl

/- Only letters are changed, and they stay letters. -/
theorem IsLatin.of_toLower
    {c : Char}
    (hLatin : IsLatin c.toLower) :
    IsLatin c := by
  have hBounds := hLatin.bounds
  rw [toNat_toLower] at hBounds
  split at hBounds
  · rename_i hCapital
    simp [IsLatin, isAsciiLetter, hCapital]
  · simpa [IsLatin, isAsciiLetter] using hBounds

theorem eq_of_toLower
    {c d : Char}
    (hOther : ¬ IsLatin d)
    (hLower : c.toLower = d) :
    c = d := by
  have hPoint := toNat_toLower c
  rw [hLower] at hPoint
  split at hPoint
  · refine absurd ?_ hOther
    simp [IsLatin, isAsciiLetter]
    omega
  · exact Char.toNat_inj.mp hPoint.symm

theorem isAscii_map_toLower
    {cs : List Char}
    (hAscii : IsAscii cs) :
    IsAscii (cs.map Char.toLower) := by
  intro d hMember
  rcases List.mem_map.mp hMember with ⟨c, hSource, rfl⟩
  have hSmall := hAscii c hSource
  rw [toNat_toLower]
  split <;> omega

/- What has digits as its small forms are the digits. -/
theorem map_toLower_of_decimals
    {cs : List Char}
    (hDigits : ∀ d ∈ cs.map Char.toLower, isDecimal d = true) :
    cs.map Char.toLower = cs := by
  have hSame : ∀ c ∈ cs, c.toLower = c := by
    intro c hMember
    have hDigit := hDigits _ (List.mem_map_of_mem hMember)
    refine (eq_of_toLower (fun hLatin => ?_) rfl).symm
    rw [isDecimal, hLatin.digitValue?_eq] at hDigit
    cases hDigit
  rw [List.map_congr_left hSame, List.map_id']

theorem IsLatin.isBlank
    {c : Char}
    (hLatin : IsLatin c) :
    Text.isBlank c = false := by
  have hBounds := hLatin.bounds
  simp only [Text.isBlank, Bool.or_eq_false_iff,
    Bool.and_eq_false_iff, decide_eq_false_iff_not,
    beq_eq_false_iff_ne]
  omega

/- A word, in letters of any case. -/
def Says
    (word : String)
    (cs : List Char) : Prop :=
  cs.map Char.toLower = word.toList

instance
    (word : String)
    (cs : List Char) :
    Decidable (Says word cs) := by
  unfold Says
  infer_instance

namespace Says

variable
  {word : String}
  {cs : List Char}

theorem latin
    (hWord : ∀ c ∈ word.toList, IsLatin c)
    (hSays : Says word cs) :
    ∀ c ∈ cs, IsLatin c := by
  intro c hMember
  have hSmall := List.mem_map_of_mem (f := Char.toLower) hMember
  rw [hSays] at hSmall
  exact (hWord _ hSmall).of_toLower

theorem map_lowerChar
    (hWord : ∀ c ∈ word.toList, IsLatin c)
    (hSays : Says word cs) :
    cs.map lowerChar = word.toList := by
  rw [← hSays]
  refine List.map_congr_left fun c hMember => ?_
  exact lowerChar_eq_toLower (hSays.latin hWord c hMember).isAscii

end Says

------------------------------------------------------------
-- Blanks around a text
------------------------------------------------------------

/- A text with blanks around it, or none. -/
def IsPadded (body cs : List Char) : Prop :=
  ∃ lead tail, cs = lead ++ (body ++ tail) ∧
    (∀ c ∈ lead, isBlank c = true) ∧ ∀ c ∈ tail, isBlank c = true

theorem isPadded_strip
    (cs : List Char) :
    IsPadded (strip cs) cs :=
  exists_blanks_around cs

/- The blanks around a text that neither starts nor ends blank. -/
theorem strip_of_isPadded
    {body cs : List Char}
    (hSome : body ≠ [])
    (hHead : ∀ c ∈ body.head?, isBlank c = false)
    (hLast : ∀ c ∈ body.getLast?, isBlank c = false)
    (hPadded : IsPadded body cs) :
    strip cs = body := by
  rcases hPadded with ⟨lead, tail, rfl, hLead, hTail⟩
  have hStart : ∀ c ∈ (body ++ tail).head?, isBlank c = false := by
    rw [List.head?_append_of_ne_nil _ hSome]
    exact hHead
  have hEnd : ∀ c ∈ body.reverse.head?, isBlank c = false := by
    rw [List.head?_reverse]
    exact hLast
  have hBack : ∀ c ∈ tail.reverse, isBlank c = true :=
    fun c hMember => hTail c (List.mem_reverse.mp hMember)
  rw [strip, stripStart, List.dropWhile_append_of_pos hLead,
    dropWhile_of_head hStart, stripEnd, List.reverse_append,
    List.dropWhile_append_of_pos hBack, dropWhile_of_head hEnd,
    List.reverse_reverse]

end Text

namespace Date

------------------------------------------------------------
-- How relative dates are written
------------------------------------------------------------

/- The word for a unit in the singular. -/
def StepUnit.name : StepUnit → String
  | days => "day"
  | months => "month"
  | years => "year"

/- A unit in the singular or the plural. -/
def StepUnit.IsWord
    (unit : StepUnit)
    (cs : List Char) : Prop :=
  Says unit.name cs ∨ Says (unit.name ++ "s") cs

/- The mark of a step back or forth. -/
def signMark (back : Bool) : Char :=
  if back then '-' else '+'

/- The current instant. -/
def IsNowText (cs : List Char) : Prop :=
  ∃ now, Says "now" now ∧ IsPadded now cs

/- A step from the current instant, by its parts. -/
def IsStepText
    (back : Bool)
    (digits : List Char)
    (unit : StepUnit)
    (cs : List Char) : Prop :=
  ∃ now word, Says "now" now ∧ IsDecimalText digits ∧
    unit.IsWord word ∧
      IsPadded (now ++ signMark back :: (digits ++ word)) cs

------------------------------------------------------------
-- Reading a relative date
------------------------------------------------------------

theorem latin_now :
    ∀ c ∈ "now".toList, IsLatin c := by
  decide

section Words

variable
  {unit : StepUnit}
  {word smalls : List Char}

theorem StepUnit.IsWord.latin
    (hWord : unit.IsWord word) :
    ∀ c ∈ word, IsLatin c := by
  rcases hWord with hOne | hMany
  · exact hOne.latin (by cases unit <;> decide)
  · exact hMany.latin (by cases unit <;> decide)

theorem StepUnit.IsWord.ne_nil
    (hWord : unit.IsWord word) :
    word ≠ [] := by
  rintro rfl
  rcases hWord with hOne | hMany
  · cases unit <;> cases hOne
  · cases unit <;> cases hMany

theorem StepUnit.IsWord.map_lowerChar
    (hWord : unit.IsWord word) :
    word.map lowerChar = unit.name.toList ∨
      word.map lowerChar = (unit.name ++ "s").toList := by
  rcases hWord with hOne | hMany
  · exact .inl (hOne.map_lowerChar (by cases unit <;> decide))
  · exact .inr (hMany.map_lowerChar (by cases unit <;> decide))

/- The small form of a word for a unit is read as the unit. -/
theorem StepUnit.IsWord.read?_eq
    (hWord : unit.IsWord word) :
    read? (word.map lowerChar) = some unit := by
  rcases hWord.map_lowerChar with hSmall | hSmall
  · rw [hSmall]
    cases unit <;> decide
  · rw [hSmall]
    cases unit <;> decide

theorem StepUnit.IsWord.stopsDigits
    (hWord : unit.IsWord word) :
    StopsDigits (word.map lowerChar) := by
  rcases hWord.map_lowerChar with hSmall | hSmall
  · rw [hSmall, StopsDigits]
    cases unit <;> decide
  · rw [hSmall, StopsDigits]
    cases unit <;> decide

/- In ASCII only the words for a unit are read as one. -/
theorem StepUnit.eq_of_read?
    (hAscii : IsAscii smalls)
    (hRead : read? smalls = some unit) :
    smalls = unit.name.toList ∨
      smalls = (unit.name ++ "s").toList := by
  simp only [read?] at hRead
  split at hRead
  · cases hRead
    assumption
  split at hRead
  · cases hRead
    assumption
  split at hRead
  · cases hRead
    assumption
  split at hRead
  · -- the long s lies outside ASCII
    rename_i hLong
    have hMember : Char.ofNat 0x17f ∈ smalls := by
      rcases hLong with rfl | rfl | rfl <;> simp
    exact absurd (hAscii _ hMember) (by decide)
  · cases hRead

end Words

/- Digits have as many values as there are characters. -/
theorem length_values
    {digits : List Char}
    (hDigits : ∀ c ∈ digits, isDecimal c = true) :
    (digits.filterMap digitValue?).length = digits.length := by
  rw [List.length_filterMap_eq_countP, List.countP_eq_length]
  exact hDigits

section Parts

variable
  {back : Bool}
  {unit : StepUnit}
  {now digits word body rest : List Char}
  {step : Step}

theorem Step.read?_append
    (back : Bool)
    (hDigits : IsDecimalText digits)
    (hWord : unit.IsWord word) :
    read? back (digits ++ word.map lowerChar) =
      some ⟨back, digits.filterMap digitValue?, unit⟩ := by
  have hSome : (digits.filterMap digitValue?).isEmpty = false := by
    rw [List.isEmpty_eq_false_iff, ← List.length_pos_iff,
      length_values hDigits.2]
    exact List.length_pos_iff.mpr hDigits.1
  simp only [read?, hSome, hWord.read?_eq,
    takeDigits_append_of_isDecimal hDigits.2 hWord.stopsDigits]
  rfl

/- What is read as a step are digits and the word for a unit. -/
theorem Step.exists_parts_of_read?
    (hRead : read? back rest = some step) :
    step.back = back ∧
      ∃ digits smalls, rest = digits ++ smalls ∧
        IsDecimalText digits ∧
          StepUnit.read? smalls = some step.unit := by
  simp only [read?] at hRead
  rcases exists_takeDigits rest with ⟨digits, hSplit, hDigits, hValues⟩
  split at hRead
  · cases hRead
  · rename_i hSome
    rcases Option.map_eq_some_iff.mp hRead with ⟨unit, hUnit, rfl⟩
    refine ⟨rfl, digits, _, hSplit, ⟨?_, hDigits⟩, hUnit⟩
    rintro rfl
    exact hSome (by rw [hValues]; rfl)

theorem lowerChar_signMark
    (back : Bool) :
    lowerChar (signMark back) = signMark back := by
  cases back <;> decide

/- The small form of the parts of a step. -/
theorem lower_parts
    (back : Bool)
    (hNow : Says "now" now)
    (hDigits : IsDecimalText digits)
    (hWord : unit.IsWord word) :
    lower (now ++ signMark back :: (digits ++ word)) =
      "now".toList ++
        signMark back :: (digits ++ word.map lowerChar) := by
  have hPlain :
      ∀ c ∈ now ++ signMark back :: (digits ++ word),
        c.toNat ≠ 0x3a3 ∧ c.toNat ≠ 0x130 := by
    intro c hMember
    rcases List.mem_append.mp hMember with hFirst | hOther
    · have := (hNow.latin latin_now c hFirst).isAscii
      omega
    rcases List.mem_cons.mp hOther with rfl | hOther
    · cases back <;> decide
    rcases List.mem_append.mp hOther with hDigit | hLast
    · exact plain_of_isDecimal (hDigits.2 c hDigit)
    · have := (hWord.latin c hLast).isAscii
      omega
  have hSame : digits.map lowerChar = digits := by
    rw [List.map_congr_left fun c hMember =>
        lowerChar_of_isDecimal (hDigits.2 c hMember), List.map_id']
  rw [lower_eq_map hPlain, List.map_append, List.map_cons,
    List.map_append, hNow.map_lowerChar latin_now, lowerChar_signMark,
    hSame]

theorem Relative.read?_now_append
    (back : Bool)
    (rest : List Char) :
    read? ("now".toList ++ signMark back :: rest) =
      (Step.read? back rest).map .step := by
  cases back <;> rfl

/- The parts of a step are read as the step. -/
theorem Relative.read?_parts
    (back : Bool)
    (hNow : Says "now" now)
    (hDigits : IsDecimalText digits)
    (hWord : unit.IsWord word) :
    read? (lower (now ++ signMark back :: (digits ++ word))) =
      some (.step ⟨back, digits.filterMap digitValue?, unit⟩) := by
  rw [lower_parts back hNow hDigits hWord, read?_now_append,
    Step.read?_append back hDigits hWord]
  rfl

/- A step is read off the word, a sign and what comes after it. -/
theorem Relative.exists_rest_of_read?
    {smalls : List Char}
    (hRead : read? smalls = some (.step step)) :
    ∃ back rest, smalls = "now".toList ++ signMark back :: rest ∧
      Step.read? back rest = some step := by
  unfold read? at hRead
  split at hRead
  · cases hRead
  · rename_i rest
    rcases Option.map_eq_some_iff.mp hRead with ⟨step, hStep, hSame⟩
    cases hSame
    exact ⟨false, rest, rfl, hStep⟩
  · rename_i rest
    rcases Option.map_eq_some_iff.mp hRead with ⟨step, hStep, hSame⟩
    cases hSame
    exact ⟨true, rest, rfl, hStep⟩
  · cases hRead

/- The parts of a step have no blanks at their ends. -/
theorem strip_parts
    {cs : List Char}
    (hNow : Says "now" now)
    (hWord : unit.IsWord word)
    (hPadded : IsPadded (now ++ signMark back :: (digits ++ word)) cs) :
    strip cs = now ++ signMark back :: (digits ++ word) := by
  have hFirst : now ≠ [] := by
    rintro rfl
    cases hNow
  refine strip_of_isPadded (by simp) ?_ ?_ hPadded
  · rw [List.head?_append_of_ne_nil _ hFirst]
    intro c hHead
    exact (hNow.latin latin_now c (List.mem_of_head? hHead)).isBlank
  · rw [← List.cons_append, ← List.append_assoc,
      List.getLast?_append_of_ne_nil _ hWord.ne_nil]
    intro c hLast
    exact (hWord.latin c (List.mem_of_getLast? hLast)).isBlank

/- In ASCII what is read as a step has its parts. -/
theorem exists_parts_of_read?
    (hAscii : IsAscii body)
    (hRead : Relative.read? (lower body) = some (.step step)) :
    ∃ now digits word,
      body = now ++ signMark step.back :: (digits ++ word) ∧
        Says "now" now ∧ IsDecimalText digits ∧
          step.unit.IsWord word := by
  have hLower : lower body = body.map Char.toLower := by
    rw [lower_of_isAscii hAscii]
    exact List.map_congr_left fun c hMember =>
      lowerChar_eq_toLower (hAscii c hMember)
  rw [hLower] at hRead
  rcases Relative.exists_rest_of_read? hRead with
    ⟨back, rest, hBody, hStep⟩
  rcases Step.exists_parts_of_read? hStep with
    ⟨rfl, digits, smalls, rfl, hDigits, hUnit⟩
  -- the parts of the text are those of its small form
  rcases List.map_eq_append_iff.mp hBody with
    ⟨now, tail, rfl, hNow, hTail⟩
  rcases List.map_eq_cons_iff.mp hTail with
    ⟨sign, others, rfl, hSign, hOthers⟩
  rcases List.map_eq_append_iff.mp hOthers with
    ⟨numeral, word, rfl, hNumeral, hWord⟩
  have hMark : sign = signMark step.back :=
    eq_of_toLower (by cases step.back <;> decide) hSign
  have hOwn : digits = numeral := by
    rw [← hNumeral] at hDigits ⊢
    exact map_toLower_of_decimals hDigits.2
  have hSmalls : IsAscii smalls := by
    rw [← hWord]
    refine isAscii_map_toLower fun c hMember => hAscii c ?_
    simp [hMember]
  refine ⟨now, numeral, word, by rw [hMark], hNow, hOwn ▸ hDigits, ?_⟩
  rcases StepUnit.eq_of_read? hSmalls hUnit with rfl | rfl
  · exact .inl hWord
  · exact .inr hWord

end Parts

/- A step that is written is read. -/
theorem read?_of_isStepText
    {back : Bool}
    {digits cs : List Char}
    {unit : StepUnit}
    (hText : IsStepText back digits unit cs) :
    Relative.read? (lower (strip cs)) =
      some (.step ⟨back, digits.filterMap digitValue?, unit⟩) := by
  rcases hText with ⟨now, word, hNow, hDigits, hWord, hPadded⟩
  rw [strip_parts hNow hWord hPadded,
    Relative.read?_parts back hNow hDigits hWord]

theorem read?_of_isNowText
    {cs : List Char}
    (hText : IsNowText cs) :
    Relative.read? (lower (strip cs)) = some .now := by
  rcases hText with ⟨now, hNow, hPadded⟩
  have hSome : now ≠ [] := by
    rintro rfl
    cases hNow
  have hSeen (c : Char) (hMember : c ∈ now) : isBlank c = false :=
    (hNow.latin latin_now c hMember).isBlank
  have hStrip : strip cs = now :=
    strip_of_isPadded hSome
      (fun c hHead => hSeen c (List.mem_of_head? hHead))
      (fun c hLast => hSeen c (List.mem_of_getLast? hLast)) hPadded
  have hAscii : IsAscii now :=
    fun c hMember => (hNow.latin latin_now c hMember).isAscii
  rw [hStrip, lower_of_isAscii hAscii, hNow.map_lowerChar latin_now]
  rfl

/- Other ASCII texts are no relative dates. -/
theorem read?_eq_none
    {cs : List Char}
    (hAscii : IsAscii cs)
    (hNow : ¬ IsNowText cs)
    (hStep : ∀ back digits unit, ¬ IsStepText back digits unit cs) :
    Relative.read? (lower (strip cs)) = none := by
  have hBody : IsAscii (strip cs) := by
    rcases exists_blanks_around cs with ⟨lead, tail, hText, -⟩
    intro c hMember
    refine hAscii c ?_
    rw [hText]
    exact List.mem_append_right _ (List.mem_append_left _ hMember)
  rcases hRead : Relative.read? (lower (strip cs)) with _ | _ | step
  · rfl
  · refine absurd ⟨strip cs, ?_, isPadded_strip cs⟩ hNow
    rw [Says, ← eq_of_read?_now hRead, lower_of_isAscii hBody]
    exact List.map_congr_left fun c hMember =>
      (lowerChar_eq_toLower (hBody c hMember)).symm
  · rcases exists_parts_of_read? hBody hRead with
      ⟨now, digits, word, hParts, hWord, hDigits, hUnit⟩
    refine absurd ?_ (hStep step.back digits step.unit)
    refine ⟨now, word, hWord, hDigits, hUnit, ?_⟩
    rw [← hParts]
    exact isPadded_strip cs

------------------------------------------------------------
-- Steps by their counts
------------------------------------------------------------

/- A number of units, less than none if they lead back. -/
def signedCount
    (back : Bool)
    (size : Nat) : Int :=
  if back then -size else size

namespace StepUnit

/- The instant that a number of units leads to, if there is one. -/
def shift?
    (unit : StepUnit)
    (clock : Instant)
    (n : Int) : Option Instant :=
  match unit with
  | days => clock.shiftDays? n
  | months => clock.shiftMonths? n
  | years => clock.shiftMonths? (12 * n)

/-
  Whether a number of units leads from one instant to another: the
  time of day is the same, and days, or months, are counted exactly.
-/
def Leads
    (unit : StepUnit)
    (clock : Instant)
    (n : Int)
    (t : Instant) : Prop :=
  t.time = clock.time ∧
    match unit with
    | days => (t.day.ordinal : Int) = clock.day.ordinal + n
    | months => clock.day.IsMonthsLater n t.day
    | years => clock.day.IsMonthsLater (12 * n) t.day

/-
  Whether a number of units leads to the years 1 to 9999: to the
  number of a day, or to a month the year of which is one of them.
-/
def HasPlace
    (unit : StepUnit)
    (clock : Instant)
    (n : Int) : Prop :=
  match unit with
  | days =>
    1 ≤ clock.day.ordinal + n ∧ clock.day.ordinal + n ≤ Day.lastOrdinal
  | months =>
    1 ≤ (clock.day.monthNumber + n - 1) / 12 ∧
      (clock.day.monthNumber + n - 1) / 12 ≤ 9999
  | years =>
    1 ≤ (clock.day.monthNumber + 12 * n - 1) / 12 ∧
      (clock.day.monthNumber + 12 * n - 1) / 12 ≤ 9999

variable
  {unit : StepUnit}
  {clock s t : Instant}
  {m n : Int}

theorem shift?_eq_some_iff :
    unit.shift? clock n = some t ↔ unit.Leads clock n t := by
  cases unit with
  | days => exact Instant.shiftDays?_eq_some_iff
  | months | years => exact Instant.shiftMonths?_eq_some_iff

theorem shift?_eq_none_iff :
    unit.shift? clock n = none ↔ ¬ unit.HasPlace clock n := by
  cases unit with
  | days =>
      exact Option.map_eq_none_iff.trans Day.shiftDays?_eq_none_iff
  | months | years =>
      exact Option.map_eq_none_iff.trans Day.shiftMonths?_eq_none_iff

/- More units lead to a later instant, and only they do. -/
theorem Leads.ticks_le_iff
    (hFirst : unit.Leads clock m s)
    (hSecond : unit.Leads clock n t) :
    s.ticks ≤ t.ticks ↔ m ≤ n := by
  rcases hFirst with ⟨hTime, hDay⟩
  rcases hSecond with ⟨hOther, hLater⟩
  rw [Instant.ticks_le_iff (hTime.trans hOther.symm)]
  cases unit with
  | days =>
      dsimp only at hDay hLater
      omega
  | months => exact hDay.ordinal_le_iff hLater
  | years =>
      have hMonths := hDay.ordinal_le_iff hLater
      omega

end StepUnit

/- The number that digits of any script stand for. -/
def decimalValue (digits : List Char) : Nat :=
  digitsValue (digits.filterMap digitValue?)

/- A step whose digits can be read is counted from the clock. -/
theorem Step.resolve?_eq
    {step : Step}
    (hFew : step.digits.length ≤ maxDigits)
    (clock : Instant) :
    step.resolve? clock =
      .ok (step.unit.shift? clock
        (signedCount step.back (digitsValue step.digits))) := by
  have hCount :
      step.count =
        .ok (signedCount step.back (digitsValue step.digits)) := by
    rw [count, if_neg (Nat.not_lt.mpr hFew)]
    rfl
  rw [resolve?, hCount]
  cases step.unit <;> rfl

section Texts

variable
  {context : Context}
  {s : String}
  {back : Bool}
  {digits : List Char}
  {unit : StepUnit}

theorem parseRelative_text
    (context : Context)
    (s : String) :
    parseRelative context (.text s) =
      match Relative.read? (lower (strip s.toList)) with
      | none => .ok none
      | some relative => relative.resolve? context.clock :=
  rfl

/- A step that is written in few enough digits has a result. -/
theorem parseRelative_of_isStepText
    (context : Context)
    (hText : IsStepText back digits unit s.toList)
    (hFew : digits.length ≤ maxDigits) :
    parseRelative context (.text s) =
      .ok (unit.shift? context.clock
        (signedCount back (decimalValue digits))) := by
  have hRead := read?_of_isStepText hText
  rcases hText with ⟨-, -, -, hDigits, -⟩
  have hValues :
      (digits.filterMap digitValue?).length ≤ maxDigits := by
    rw [length_values hDigits.2]
    exact hFew
  rw [parseRelative_text, hRead]
  exact Step.resolve?_eq hValues context.clock

/- In more digits it is a failure. -/
theorem parseRelative_of_many_digits
    (context : Context)
    (hText : IsStepText back digits unit s.toList)
    (hMany : maxDigits < digits.length) :
    ∃ failure, parseRelative context (.text s) = .error failure := by
  have hRead := read?_of_isStepText hText
  rcases hText with ⟨-, -, -, hDigits, -⟩
  have hValues :
      maxDigits < (digits.filterMap digitValue?).length := by
    rw [length_values hDigits.2]
    exact hMany
  refine ⟨.numeralTooLong (digits.filterMap digitValue?).length, ?_⟩
  rw [parseRelative_text, hRead]
  simp only [Relative.resolve?, Step.resolve?, Step.count,
    if_pos hValues]
  rfl

/- What a step is read as, its count leads to. -/
theorem leads_of_parseRelative
    {t : Instant}
    (hText : IsStepText back digits unit s.toList)
    (hResult : parseRelative context (.text s) = .ok (some t)) :
    unit.Leads context.clock (signedCount back (decimalValue digits))
      t := by
  rcases Nat.lt_or_ge maxDigits digits.length with hMany | hFew
  · rcases parseRelative_of_many_digits context hText hMany with
      ⟨failure, hFailure⟩
    cases hFailure.symm.trans hResult
  · rw [parseRelative_of_isStepText context hText hFew] at hResult
    exact StepUnit.shift?_eq_some_iff.mp (Except.ok.inj hResult)

end Texts

/-
  Relative dates are counted from the clock: days by their numbers,
  months through the years, a year for twelve months, each of them up
  to the ends of the calendar. More units lead to a later instant.
  Other texts of ASCII characters are no relative dates, and a count
  with too many digits is a failure.
-/
theorem relative_dates_count_from_clock
    (context : Context) :
    (∀ s : String, IsNowText s.toList →
      parseRelative context (.text s) = .ok (some context.clock)) ∧
      (∀ (s : String) back digits unit,
        IsStepText back digits unit s.toList →
        digits.length ≤ maxDigits →
        ∃ result, parseRelative context (.text s) = .ok result ∧
          (∀ t, result = some t ↔
            unit.Leads context.clock
              (signedCount back (decimalValue digits)) t) ∧
          (result = none ↔
            ¬ unit.HasPlace context.clock
              (signedCount back (decimalValue digits)))) ∧
      (∀ (s : String) back digits unit,
        IsStepText back digits unit s.toList →
        maxDigits < digits.length →
        ∃ failure, parseRelative context (.text s) = .error failure) ∧
      (∀ (s u : String) back digits others,
        IsStepText back digits .years s.toList →
        IsStepText back others .months u.toList →
        digits.length ≤ maxDigits → others.length ≤ maxDigits →
        decimalValue others = 12 * decimalValue digits →
        parseRelative context (.text s) =
          parseRelative context (.text u)) ∧
      (∀ (s u : String) back forth digits others unit t v,
        IsStepText back digits unit s.toList →
        IsStepText forth others unit u.toList →
        parseRelative context (.text s) = .ok (some t) →
        parseRelative context (.text u) = .ok (some v) →
        (t.ticks ≤ v.ticks ↔
          signedCount back (decimalValue digits) ≤
            signedCount forth (decimalValue others))) ∧
      ∀ s : String, IsAscii s.toList → ¬ IsNowText s.toList →
        (∀ back digits unit, ¬ IsStepText back digits unit s.toList) →
        parseRelative context (.text s) = .ok none := by
  refine ⟨?_, ?_, ?_, ?_, ?_, ?_⟩
  · intro s hNow
    rw [parseRelative_text, read?_of_isNowText hNow]
    rfl
  · intro s back digits unit hText hFew
    exact
      ⟨_, parseRelative_of_isStepText context hText hFew,
        fun t => StepUnit.shift?_eq_some_iff,
        StepUnit.shift?_eq_none_iff⟩
  · intro s back digits unit hText hMany
    exact parseRelative_of_many_digits context hText hMany
  · intro s u back digits others hYears hMonths hFew hOther hTwelve
    have hCount :
        signedCount back (decimalValue others) =
          12 * signedCount back (decimalValue digits) := by
      rw [hTwelve, signedCount, signedCount]
      split <;> omega
    rw [parseRelative_of_isStepText context hYears hFew,
      parseRelative_of_isStepText context hMonths hOther, hCount]
    rfl
  · intro s u back forth digits others unit t v hFirst hSecond hLeft
      hRight
    have hLeads := leads_of_parseRelative hFirst hLeft
    exact hLeads.ticks_le_iff (leads_of_parseRelative hSecond hRight)
  · intro s hAscii hNow hStep
    rw [parseRelative_text, read?_eq_none hAscii hNow hStep]

/-
  A month after the last day of January it is the last day of
  February, in a leap year the 29th.
-/
theorem month_after_end_of_january :
    ∃ context : Context, ∃ t : Instant,
      context.clock.day.year = 2024 ∧ context.clock.day.month = 1 ∧
        context.clock.day.day = 31 ∧
        t.day.month = 2 ∧ t.day.day = 29 ∧
        parseRelative context (.text " NOW+1Months\n") =
          .ok (some t) := by
  let clock : Instant := ⟨⟨2024, 1, 31, by decide⟩, .midnight⟩
  let t : Instant := ⟨⟨2024, 2, 29, by decide⟩, .midnight⟩
  let context : Context := ⟨clock, false, "US"⟩
  let s := " NOW+1Months\n"
  have hDigits : IsDecimalText ['1'] := ⟨by decide, by decide⟩
  have hText : IsStepText false ['1'] .months s.toList :=
    ⟨"NOW".toList, "Months".toList, by decide, hDigits, .inr (by decide),
      [' '], ['\n'], by decide, by decide, by decide⟩
  have hLeads : StepUnit.months.Leads clock 1 t :=
    ⟨rfl, by decide, by decide⟩
  rcases relative_dates_count_from_clock context with ⟨-, hSteps, -⟩
  rcases hSteps s false ['1'] .months hText (by decide) with
    ⟨result, hResult, hSome, -⟩
  rw [(hSome t).mpr hLeads] at hResult
  exact ⟨context, t, rfl, rfl, rfl, rfl, rfl, hResult⟩

end Date

end RecordRules
