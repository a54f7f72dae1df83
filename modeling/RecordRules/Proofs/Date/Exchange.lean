import RecordRules.Proofs.Date.RoundTrip

/-
  Written dates whose day and month change places when they are
  read back.

  Main declarations:
    * `Date.Exchanges`, the orders, settings and days concerned
    * `Date.readBack?_of_exchanges` and
      `Date.readBack?_of_not_exchanges`
    * `Date.Survives`, and `Date.survives_iff`
-/

namespace RecordRules

namespace Date

open Text Numeric

------------------------------------------------------------
-- Day and month in each other's place
------------------------------------------------------------

/- The day with day and month in each other's place. -/
def exchanged? (d : Day) : Option Day :=
  Day.of? d.year d.day d.month

theorem exists_exchanged
    {d : Day}
    (hFew : d.day ≤ 12) :
    ∃ e, exchanged? d = some e ∧
      e.year = d.year ∧ e.month = d.day ∧ e.day = d.month := by
  have hLengths :
      ∀ month < 13, 1 ≤ month →
        12 ≤ Calendar.monthLength d.year month := by
    intro month hLast hFirst
    unfold Calendar.monthLength
    grind
  have hValid : Day.Valid d.year d.day d.month := by
    have hLength := hLengths d.day (by omega) d.valid.2.2.2.2.1
    have hMonth := d.month_bounds
    exact
      ⟨d.valid.1, d.valid.2.1, d.valid.2.2.2.2.1, hFew, hMonth.1,
        by omega⟩
  exact ⟨_, dif_pos hValid, rfl, rfl, rfl⟩

/- The orders that a setting takes the other way round. -/
def exchangedOrders (dayFirst : Bool) : List (List Part) :=
  if dayFirst then
    [[.month, .day, .year], [.year, .month, .day]]
  else
    [[.day, .month, .year], [.year, .day, .month]]

/-
  Whether day and month of a written date change places: numerals
  in an order that the setting takes the other way round, with two
  different numbers that may both be months.
-/
def Exchanges
    (dayFirst : Bool)
    (parts : List Component)
    (d : Day) : Prop :=
  (∀ c ∈ parts, c.isName = false) ∧
    parts.map Component.part ∈ exchangedOrders dayFirst ∧
    d.day ≤ 12 ∧ d.day ≠ d.month

/- Members in such an order give the exchanged day. -/
theorem day?_members_of_exchanges
    {d : Day}
    {a b c : Component}
    {dayFirst : Bool}
    (hExchanges : Exchanges dayFirst [a, b, c] d)
    (current : Nat) :
    (Component.members d [a, b, c]).day? current dayFirst =
      exchanged? d := by
  rcases hExchanges with ⟨hNumbers, hOrder, hFew, -⟩
  have hA := hNumbers a (by simp)
  have hB := hNumbers b (by simp)
  have hC := hNumbers c (by simp)
  have hMonth := d.month_bounds.2
  have hLow : ¬ 31 < d.month := by omega
  have hSmall : ¬ 12 < d.month := by omega
  have hDays : ¬ 31 < d.day := by omega
  have hMost : ¬ 12 < d.day := by omega
  -- the two orders of each setting, with the day and the month known
  cases dayFirst
  all_goals
    simp only [exchangedOrders, Bool.false_eq_true, if_true,
      if_false, List.map_cons, List.map_nil, List.mem_cons,
      List.cons.injEq, and_true, List.not_mem_nil, or_false]
      at hOrder
    rcases hOrder with
      ⟨hFirst, hSecond, hThird⟩ | ⟨hFirst, hSecond, hThird⟩
    all_goals
      simp [Members.day?, exchanged?, Component.members,
        Component.value, Members.resolve, Members.resolveThree,
        Members.Parts.all, hA, hB, hC, hFirst, hSecond, hThird,
        hLow, hSmall, hDays, hMost, hFew, hMonth,
        List.findIdx?_cons]

theorem of?_of_large_month
    {year month day : Nat}
    (hLarge : 12 < month) :
    Day.of? year month day = none := by
  apply dif_neg
  rintro ⟨-, -, -, hMonth, -⟩
  omega

theorem of?_of_large_day
    {year month day : Nat}
    (hLarge : 31 < day) :
    Day.of? year month day = none := by
  apply dif_neg
  rintro ⟨-, -, -, -, -, hDay⟩
  have hMost := Calendar.monthLength_le year month
  omega

/-
  Numerals are read as they were written, with day and month in
  each other's place, or not at all, the year being between them.
-/
theorem day?_members_cases
    {d : Day}
    {a b c : Component}
    (hYear : 1000 ≤ d.year)
    (hComplete : Layout.isComplete [a, b, c] = true)
    (hNumbers : ∀ x ∈ [a, b, c], x.isName = false)
    (dayFirst : Bool)
    (current : Nat) :
    (Component.members d [a, b, c]).day? current dayFirst =
        some d ∨
      (Component.members d [a, b, c]).day? current dayFirst =
        none ∨
      (Component.members d [a, b, c]).day? current dayFirst =
          exchanged? d ∧
        [a, b, c].map Component.part ∈ exchangedOrders dayFirst := by
  have hA := hNumbers a (by simp)
  have hB := hNumbers b (by simp)
  have hC := hNumbers c (by simp)
  have hMonth := d.month_bounds.2
  have hLow : ¬ 31 < d.month := by omega
  have hSmall : ¬ 12 < d.month := by omega
  have hDays : ¬ 31 < d.day := by
    have hDay := d.day_le
    omega
  have hYears : ¬ d.year ≤ 12 := by omega
  have hYearAsMonth (year day : Nat) :
      Day.of? year d.year day = none :=
    of?_of_large_month (by omega)
  have hYearAsDay (year month : Nat) :
      Day.of? year month d.year = none :=
    of?_of_large_day (by omega)
  have hParts := Component.parts_of_isComplete hComplete
  simp only [List.mem_cons, List.cons.injEq, and_true,
    List.not_mem_nil, or_false] at hParts
  have hSplit :
      (12 < d.day ∧ ¬ d.day ≤ 12) ∨ (¬ 12 < d.day ∧ d.day ≤ 12) := by
    omega
  rcases hSplit with ⟨hMost, hFew⟩ | ⟨hMost, hFew⟩
  all_goals
    rcases hParts with hParts | hParts | hParts | hParts | hParts |
      hParts
  all_goals
    rcases hParts with ⟨hFirst, hSecond, hThird⟩
    cases dayFirst
  all_goals
    simp [Members.day?, Component.members, Component.value,
      Members.resolve, Members.resolveThree, Members.Parts.all,
      exchanged?, exchangedOrders, d.of?_self, hA, hB, hC, hFirst,
      hSecond, hThird, hLow, hSmall, hDays, hMonth, hYears, hFew,
      hMost, hYearAsMonth, hYearAsDay, List.findIdx?_cons]

/-
  Members of other orders, or with numbers that are equal or not
  both months, give the day as it was written or none.
-/
theorem day?_members_of_not_exchanges
    {d : Day}
    {a b c : Component}
    {dayFirst : Bool}
    (hYear : 1000 ≤ d.year)
    (hComplete : Layout.isComplete [a, b, c] = true)
    (hNot : ¬ Exchanges dayFirst [a, b, c] d)
    (current : Nat) :
    (Component.members d [a, b, c]).day? current dayFirst = none ∨
      (Component.members d [a, b, c]).day? current dayFirst =
        some d := by
  by_cases hName : ∃ x ∈ [a, b, c], x.isName = true
  · exact .inr (day?_members hComplete (.inl hName) current)
  have hNumbers : ∀ x ∈ [a, b, c], x.isName = false := by
    simpa using hName
  rcases day?_members_cases hYear hComplete hNumbers dayFirst current
    with hDay | hDay | ⟨hDay, hOrder⟩
  · exact .inr hDay
  · exact .inl hDay
  · rw [hDay, exchanged?]
    by_cases hFew : d.day ≤ 12
    · have hEq : d.day = d.month := by
        by_contra hDiffers
        exact hNot ⟨hNumbers, hOrder, hFew, hDiffers⟩
      have hSelf := d.of?_self
      rw [hEq] at hSelf ⊢
      exact .inr hSelf
    · exact .inl (of?_of_large_month (by omega))

------------------------------------------------------------
-- Texts that stand for different days
------------------------------------------------------------

/- Writings of one text have the same pieces. -/
theorem Writing.pieces_of_text
    {w u : Writing}
    (hText : w.text = u.text) :
    w.pieces.map Piece.text = u.pieces.map Piece.text := by
  have hTokens := congrArg tokens hText
  rw [w.tokens_text, u.tokens_text] at hTokens
  simp only [List.cons.injEq] at hTokens
  simp [Writing.pieces, hTokens]

theorem Component.numeralValue_text
    {c : Component}
    (hNumber : c.isName = false)
    (hFull : c ≠ .shortYear)
    (d : Day) :
    numeralValue (c.piece d).text = c.value d := by
  cases c with
  | fullYear | plainYear => exact numeralValue_natDigits d.year
  | shortYear => exact absurd rfl hFull
  | monthName | shortMonthName => cases hNumber
  | paddedMonth => exact numeralValue_paddedDigits 2 d.month
  | plainMonth => exact numeralValue_natDigits d.month
  | paddedDay => exact numeralValue_paddedDigits 2 d.day
  | plainDay => exact numeralValue_natDigits d.day

theorem exists_day_component
    (pattern : String) :
    ∃ c ∈ componentsOf pattern, c.part = .day := by
  rcases exists_componentsOf pattern with
    ⟨a, b, c, hParts, hComplete⟩
  have hAll := (Bool.and_eq_true_iff.mp hComplete).2
  have hDay := List.all_eq_true.mp hAll .day (by simp)
  rcases List.any_eq_true.mp hDay with ⟨x, hMember, hPart⟩
  exact ⟨x, hParts ▸ hMember, eq_of_beq hPart⟩

/- Days that are written alike have the same number in the month. -/
theorem day_eq_of_format
    {pattern : String}
    {d e : Day}
    (hPattern : pattern ≠ "")
    (hYear : 1000 ≤ d.year)
    (hSame : e.year = d.year)
    (hFormat :
      format e (some pattern) = format d (some pattern)) :
    e.day = d.day := by
  rcases exists_writing_of_format hPattern d with
    ⟨w, hWritten, hOutline⟩
  rcases exists_writing_of_format hPattern e with
    ⟨u, hOther, hOtherOutline⟩
  have hD :
      w.pieces = (componentsOf pattern).map (·.piece d) :=
    (congrArg Prod.fst hOutline).trans (outline_of_year hYear pattern)
  have hE :
      u.pieces = (componentsOf pattern).map (·.piece e) :=
    (congrArg Prod.fst hOtherOutline).trans
      (outline_of_year (hSame ▸ hYear) pattern)
  have hTexts :=
    Writing.pieces_of_text (hOther.trans (hFormat.trans hWritten.symm))
  rw [hD, hE, List.map_map, List.map_map, List.map_inj_left] at hTexts
  rcases exists_day_component pattern with ⟨c, hMember, hPart⟩
  have hNumber : c.isName = false := by
    apply Component.isName_of_part
    rw [hPart]
    decide
  have hFull : c ≠ .shortYear := by
    rintro rfl
    cases hPart
  have hValue := congrArg numeralValue (hTexts c hMember)
  simp only [Function.comp_apply,
    Component.numeralValue_text hNumber hFull, Component.value,
    hPart] at hValue
  exact hValue

/-
  A written day survives if the text, where it is read back, stands
  for a day that is written in the same way.
-/
def Survives
    (context : Context)
    (pattern : String)
    (d : Day) : Prop :=
  ∀ e, readBack? context pattern d = some e →
    format e (some pattern) = format d (some pattern)

theorem survives_iff
    {pattern : String}
    {d : Day}
    (hPattern : pattern ≠ "")
    (hYear : 1000 ≤ d.year)
    (hFull : .shortYear ∉ componentsOf pattern)
    (context : Context) :
    Survives context pattern d ↔
      ¬ Exchanges context.dayFirst (componentsOf pattern) d := by
  have hBack := readBack?_eq_members hYear hFull context
  rcases exists_componentsOf pattern with
    ⟨a, b, c, hParts, hComplete⟩
  rw [hParts] at hBack ⊢
  constructor
  · intro hSurvives hExchanges
    rcases exists_exchanged hExchanges.2.2.1 with
      ⟨e, hExchanged, hYears, -, hDay⟩
    rw [day?_members_of_exchanges hExchanges, hExchanged] at hBack
    have hSame :=
      day_eq_of_format hPattern hYear hYears (hSurvives e hBack)
    exact hExchanges.2.2.2 (hSame.symm.trans hDay)
  · intro hNot e hRead
    rw [hBack] at hRead
    rcases day?_members_of_not_exchanges hYear hComplete hNot
        context.clock.day.year with
      hDay | hDay
    · rw [hDay] at hRead
      cases hRead
    · rw [hDay] at hRead
      cases hRead
      rfl

end Date

end RecordRules
