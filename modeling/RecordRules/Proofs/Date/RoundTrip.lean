import RecordRules.Proofs.Date.WrittenDay

/-
  Days that are read back as they were written.

  Main declarations:
    * `Date.Component.members` and `Date.Component.foldlM_push`,
      what the components of a date leave behind
    * `Date.ReadsBack`, the orders that are read as written
    * `Date.parse_format_eq_midnight`
-/

namespace RecordRules

namespace Date

open Text Numeric

------------------------------------------------------------
-- Members of components
------------------------------------------------------------

/- The number that a component writes. -/
def Component.value
    (d : Day)
    (c : Component) : Nat :=
  match c.part with
  | .year => d.year
  | .month => d.month
  | .day => d.day

/- Numbers up to 100 between spaces are no years. -/
theorem pushQuantity_small
    (m : Members)
    {n : Nat}
    (hSmall : n ≤ 100) :
    m.pushQuantity ⟨n, 0⟩ = .ok (m.push n) := by
  have hNot : ¬ 100 < n := by omega
  simp [Members.pushQuantity, Quantity.exceeds, Quantity.whole, hNot]

/- Numbers above 100 between spaces are full years. -/
theorem pushQuantity_large
    (m : Members)
    {n : Nat}
    (hLarge : 100 < n) :
    m.pushQuantity ⟨n, 0⟩ =
      Members.pushYear { m with fullYear := true } n := by
  simp [Members.pushQuantity, Quantity.exceeds, Quantity.whole,
    hLarge]

/- One or two digits are a number that is no full year. -/
theorem push_short_numeral
    {digits : List Char}
    (hNumeral : IsNumeral digits)
    (hShort : digits.length ≤ 4)
    (hTwo : digits.length ≤ 2)
    (hSmall : numeralValue digits ≤ 100)
    (spaced : Bool)
    (m : Members) :
    (Piece.numeral digits hNumeral hShort).push spaced m =
      .ok (m.push (numeralValue digits)) := by
  have hDigits : digits.length ≤ maxDigits :=
    Nat.le_trans hShort (by decide)
  have hNot : ¬ 2 < digits.length := by omega
  cases spaced with
  | true => exact pushQuantity_small m hSmall
  | false =>
      simp [Piece.push, Members.pushToken,
        wholeNumber_of_isNumeral hNumeral hDigits, hNot, bind,
        Except.bind, pure, Except.pure]

/- More than two digits above 100 are a full year. -/
theorem push_long_numeral
    {digits : List Char}
    (hNumeral : IsNumeral digits)
    (hShort : digits.length ≤ 4)
    (hLong : 2 < digits.length)
    (hLarge : 100 < numeralValue digits)
    (spaced : Bool)
    (m : Members) :
    (Piece.numeral digits hNumeral hShort).push spaced m =
      Members.pushYear { m with fullYear := true }
        (numeralValue digits) := by
  have hDigits : digits.length ≤ maxDigits :=
    Nat.le_trans hShort (by decide)
  cases spaced with
  | true => exact pushQuantity_large m hLarge
  | false =>
      simp [Piece.push, Members.pushToken,
        wholeNumber_of_isNumeral hNumeral hDigits, hLong, bind,
        Except.bind]

theorem push_plain_small
    {n : Nat}
    (hSmall : n < tenPow 2)
    (hBound : n < tenPow 4)
    (spaced : Bool)
    (m : Members) :
    (Piece.plain n hBound).push spaced m = .ok (m.push n) := by
  have hValue := numeralValue_natDigits n
  have hPush :=
    push_short_numeral (natDigits_isNumeral n)
      (length_natDigits_le (by decide) hBound)
      (length_natDigits_le (by decide) hSmall)
      (by
        rw [hValue]
        exact Nat.le_trans (Nat.le_of_lt hSmall) (by decide))
      spaced m
  rw [hValue] at hPush
  exact hPush

theorem push_plain_year
    {n : Nat}
    (hLarge : 1000 ≤ n)
    (hBound : n < tenPow 4)
    (spaced : Bool)
    (m : Members) :
    (Piece.plain n hBound).push spaced m =
      Members.pushYear { m with fullYear := true } n := by
  have hValue := numeralValue_natDigits n
  have hLong : 2 < (natDigits n).length := by
    rw [← Nat.not_le]
    intro hTwo
    have hSmall : n < tenPow 2 :=
      (Nat.length_toDigits_le_iff (by decide) (by decide)).mp hTwo
    have hHundred : tenPow 2 = 100 := by decide
    omega
  have hPush :=
    push_long_numeral (natDigits_isNumeral n)
      (length_natDigits_le (by decide) hBound) hLong
      (by
        rw [hValue]
        omega)
      spaced m
  rw [hValue] at hPush
  exact hPush

theorem push_padded_small
    {n : Nat}
    (hSmall : n < tenPow 2)
    (spaced : Bool)
    (m : Members) :
    (Piece.padded 2 n (by decide) (by decide) hSmall).push spaced m =
      .ok (m.push n) := by
  have hValue := numeralValue_paddedDigits 2 n
  have hLength := length_paddedDigits (by decide) hSmall
  have hPush :=
    push_short_numeral (paddedDigits_isNumeral 2 n)
      (by
        rw [hLength]
        decide)
      (Nat.le_of_eq hLength)
      (by
        rw [hValue]
        exact Nat.le_trans (Nat.le_of_lt hSmall) (by decide))
      spaced m
  rw [hValue] at hPush
  exact hPush

namespace Component

theorem isName_of_part
    {c : Component}
    (hPart : c.part ≠ .month) :
    c.isName = false := by
  cases c <;> trivial

theorem push_year
    {d : Day}
    {c : Component}
    (hYear : 1000 ≤ d.year)
    (hPart : c.part = .year)
    (hShort : c ≠ .shortYear)
    (spaced : Bool)
    (m : Members) :
    (c.piece d).push spaced m =
      Members.pushYear { m with fullYear := true } d.year := by
  cases c with
  | fullYear | plainYear =>
      exact push_plain_year hYear (year_lt d) spaced m
  | shortYear => exact absurd rfl hShort
  | _ => cases hPart

theorem push_month
    {c : Component}
    (hPart : c.part = .month)
    (d : Day)
    (spaced : Bool)
    (m : Members) :
    (c.piece d).push spaced m =
      if c.isName then
        m.pushMonth d.month
      else
        .ok (m.push d.month) := by
  cases c with
  | monthName | shortMonthName => rfl
  | paddedMonth => exact push_padded_small (month_lt d) spaced m
  | plainMonth =>
      exact
        push_plain_small (month_lt d)
          (Nat.lt_trans (month_lt d) (by decide)) spaced m
  | _ => cases hPart

theorem push_day
    {c : Component}
    (hPart : c.part = .day)
    (d : Day)
    (spaced : Bool)
    (m : Members) :
    (c.piece d).push spaced m = .ok (m.push d.day) := by
  cases c with
  | paddedDay => exact push_padded_small (day_lt d) spaced m
  | plainDay =>
      exact
        push_plain_small (day_lt d)
          (Nat.lt_trans (day_lt d) (by decide)) spaced m
  | _ => cases hPart

/- The members that components give, if the year is in full. -/
def members
    (d : Day)
    (parts : List Component) : Members where
  numbers := parts.map (·.value d)
  yearAt := parts.findIdx? (·.part == .year)
  monthAt := parts.findIdx? isName
  fullYear := parts.any (·.part == .year)

/- A component of a further part is one more member. -/
theorem push_members
    {d : Day}
    {parts : List Component}
    {c : Component}
    (hYear : 1000 ≤ d.year)
    (hFull : c ≠ .shortYear)
    (hNew : c.part ∉ parts.map part)
    (spaced : Bool) :
    (c.piece d).push spaced (members d parts) =
      .ok (members d (parts ++ [c])) := by
  cases hPart : c.part with
  | year =>
      have hNone :
          parts.findIdx? (fun x => x.part == .year) = none := by
        rw [hPart] at hNew
        simpa using hNew
      rw [push_year hYear hPart hFull]
      simp [Members.pushYear, Members.push, members, value, hPart,
        hNone, isName_of_part, List.findIdx?_append, pure,
        Except.pure]
  | day =>
      rw [push_day hPart]
      simp [Members.push, members, value, hPart, isName_of_part,
        List.findIdx?_append]
  | month =>
      have hNone : parts.findIdx? isName = none := by
        rw [hPart] at hNew
        rw [List.findIdx?_eq_none_iff]
        intro x hMember
        apply isName_of_part
        intro hMonth
        exact hNew (hMonth ▸ List.mem_map_of_mem hMember)
      have hOther : (Part.month == Part.year) = false := by decide
      rw [push_month hPart]
      split
      all_goals
        rename_i hName
        simp [Members.pushMonth, Members.push, members, value, hPart,
          hName, hNone, hOther, List.findIdx?_append, pure,
          Except.pure]

/- The six orders of a year, a month and a day. -/
theorem parts_of_isComplete
    {a b c : Component}
    (hComplete : Layout.isComplete [a, b, c] = true) :
    [a.part, b.part, c.part] ∈
      [[Part.year, .month, .day], [.year, .day, .month],
        [.month, .year, .day], [.month, .day, .year],
        [.day, .year, .month], [.day, .month, .year]] := by
  have hAll := (Bool.and_eq_true_iff.mp hComplete).2
  simp only [List.any_cons, List.any_nil, List.all_cons,
    List.all_nil] at hAll
  revert hAll
  generalize a.part = x
  generalize b.part = y
  generalize c.part = z
  cases x <;> cases y <;> cases z <;> decide

/- No part of a day is written twice. -/
theorem nodup_of_isComplete
    {parts : List Component}
    (hComplete : Layout.isComplete parts = true) :
    (parts.map part).Nodup := by
  rcases Layout.exists_of_isComplete hComplete with ⟨a, b, c, rfl⟩
  have hAll :
      ∀ order ∈ [[Part.year, .month, .day], [.year, .day, .month],
        [.month, .year, .day], [.month, .day, .year],
        [.day, .year, .month], [.day, .month, .year]],
        order.Nodup := by
    decide
  exact hAll _ (parts_of_isComplete hComplete)

/- Components of different parts are the members of a date. -/
theorem foldlM_push
    {d : Day}
    (hYear : 1000 ≤ d.year)
    (spaced : Bool)
    (parts rest : List Component)
    (hFull : ∀ c ∈ rest, c ≠ .shortYear)
    (hNodup : ((parts ++ rest).map part).Nodup) :
    (rest.map (·.piece d)).foldlM (Piece.push spaced)
        (members d parts) =
      .ok (members d (parts ++ rest)) := by
  induction rest generalizing parts with
  | nil =>
      rw [List.append_nil]
      rfl
  | cons c rest ih =>
      have hNew : c.part ∉ parts.map part := by
        intro hMember
        rw [List.map_append] at hNodup
        exact
          (List.nodup_append.mp hNodup).2.2 c.part hMember c.part
            (by simp) rfl
      have hRest :=
        ih (parts ++ [c])
          (fun x hMember => hFull x (List.mem_cons_of_mem c hMember))
          (by simpa using hNodup)
      rw [List.append_assoc] at hRest
      rw [List.map_cons, List.foldlM_cons,
        push_members hYear (hFull c List.mem_cons_self) hNew]
      exact hRest

end Component

------------------------------------------------------------
-- Orders that are read as written
------------------------------------------------------------

/-
  Components in an order that is read as it is written: with the
  name of a month in any order, otherwise in one of the orders that
  the setting for days in front of months stands for.
-/
def ReadsBack
    (dayFirst : Bool)
    (parts : List Component) : Prop :=
  (∃ c ∈ parts, c.isName = true) ∨
    (dayFirst = false ∧
      (parts.map Component.part = [.month, .day, .year] ∨
        parts.map Component.part = [.year, .month, .day])) ∨
    (dayFirst = true ∧
      parts.map Component.part = [.day, .month, .year])

/- A known year and month leave the day, wherever they stand. -/
theorem resolve_members_of_name
    {d : Day}
    {a b c : Component}
    (hComplete : Layout.isComplete [a, b, c] = true)
    (hName : ∃ x ∈ [a, b, c], x.isName = true)
    (dayFirst : Bool) :
    (Component.members d [a, b, c]).resolve dayFirst =
      .ok (.all d.year d.month d.day) := by
  have hParts := Component.parts_of_isComplete hComplete
  simp only [List.mem_cons, List.cons.injEq, and_true,
    List.not_mem_nil, or_false] at hParts
  rcases hParts with hParts | hParts | hParts | hParts | hParts |
    hParts
  all_goals
    rcases hParts with ⟨hFirst, hSecond, hThird⟩
    simp [Component.isName_of_part, hFirst, hSecond,
      hThird] at hName
    simp [Component.members, Component.value, Members.resolve,
      Members.resolveKnown, Members.at?, Members.Parts.all,
      Component.isName_of_part, hFirst, hSecond, hThird, hName,
      List.findIdx?_cons]

/- Numerals are resolved as written in the order of the setting. -/
theorem resolve_members_of_order
    {d : Day}
    {a b c : Component}
    {dayFirst : Bool}
    (hNumbers : ∀ x ∈ [a, b, c], x.isName = false)
    (hOrder :
      (dayFirst = false ∧
        ([a, b, c].map Component.part = [.month, .day, .year] ∨
          [a, b, c].map Component.part = [.year, .month, .day])) ∨
      (dayFirst = true ∧
        [a, b, c].map Component.part = [.day, .month, .year])) :
    (Component.members d [a, b, c]).resolve dayFirst =
      .ok (.all d.year d.month d.day) := by
  have hMonth := d.month_bounds.2
  have hDay := d.day_le
  have hLow : ¬ 31 < d.month := by omega
  have hFew : ¬ 12 < d.month := by omega
  have hDays : ¬ 31 < d.day := by omega
  have hA := hNumbers a (by simp)
  have hB := hNumbers b (by simp)
  have hC := hNumbers c (by simp)
  simp only [List.map_cons, List.map_nil, List.cons.injEq,
    and_true] at hOrder
  rcases hOrder with ⟨rfl, hOrder | hOrder⟩ | ⟨rfl, hOrder⟩
  all_goals
    rcases hOrder with ⟨hFirst, hSecond, hThird⟩
    simp [Component.members, Component.value, Members.resolve,
      Members.resolveThree, Members.Parts.all, hA, hB, hC, hFirst,
      hSecond, hThird, hLow, hFew, hDays, hMonth,
      List.findIdx?_cons]

/- Members in an order that reads back are the day as written. -/
theorem day?_members
    {d : Day}
    {a b c : Component}
    {dayFirst : Bool}
    (hComplete : Layout.isComplete [a, b, c] = true)
    (hOrder : ReadsBack dayFirst [a, b, c])
    (current : Nat) :
    (Component.members d [a, b, c]).day? current dayFirst =
      some d := by
  have hResolve :
      (Component.members d [a, b, c]).resolve dayFirst =
        .ok (.all d.year d.month d.day) := by
    by_cases hName : ∃ x ∈ [a, b, c], x.isName = true
    · exact resolve_members_of_name hComplete hName dayFirst
    · have hNumbers : ∀ x ∈ [a, b, c], x.isName = false := by
        simpa using hName
      exact
        resolve_members_of_order hNumbers (hOrder.resolve_left hName)
  have hFull : (Component.members d [a, b, c]).fullYear = true := by
    have hAll := (Bool.and_eq_true_iff.mp hComplete).2
    exact List.all_eq_true.mp hAll .year (by simp)
  simp [Members.day?, hResolve, Members.Parts.all, hFull,
    d.of?_self]

------------------------------------------------------------
-- Formats that are read as written
------------------------------------------------------------

/-
  The components of a format, those of the international notation
  where it has no layout.
-/
def componentsOf (pattern : String) : List Component :=
  match Layout.ofFormat? pattern.toList with
  | some layout => layout.components
  | none => [.fullYear, .paddedMonth, .paddedDay]

theorem exists_componentsOf
    (pattern : String) :
    ∃ a b c, componentsOf pattern = [a, b, c] ∧
      Layout.isComplete [a, b, c] = true := by
  unfold componentsOf
  cases hFormat : Layout.ofFormat? pattern.toList with
  | some layout =>
      have hComplete := (Layout.properties_of_ofFormat? hFormat).1
      rcases Layout.exists_of_isComplete hComplete with
        ⟨a, b, c, hParts⟩
      rw [hParts] at hComplete
      exact ⟨a, b, c, hParts, hComplete⟩
  | none => exact ⟨_, _, _, rfl, by decide⟩

/- Years of four digits need no zeros. -/
theorem paddedDigits_year
    {n : Nat}
    (hLarge : 1000 ≤ n) :
    paddedDigits 4 n = natDigits n := by
  have hLength : 4 ≤ (natDigits n).length := by
    rw [← Nat.not_lt, Nat.lt_succ_iff]
    intro hThree
    have hSmall : n < tenPow 3 :=
      (Nat.length_toDigits_le_iff (by decide) (by decide)).mp hThree
    have hThousand : tenPow 3 = 1000 := by decide
    omega
  simp [paddedDigits, Nat.sub_eq_zero_of_le hLength]

theorem outline_of_year
    {d : Day}
    (hYear : 1000 ≤ d.year)
    (pattern : String) :
    (outline pattern d).1 =
      (componentsOf pattern).map (·.piece d) := by
  unfold outline componentsOf
  cases Layout.ofFormat? pattern.toList with
  | some layout => rfl
  | none =>
      simp [Writing.pieces, isoWriting, Piece.padded, Piece.plain,
        Component.piece, paddedDigits_year hYear]

/- A day is read back as its members are resolved. -/
theorem readBack?_eq_members
    {pattern : String}
    {d : Day}
    (hYear : 1000 ≤ d.year)
    (hFull : .shortYear ∉ componentsOf pattern)
    (context : Context) :
    readBack? context pattern d =
      (Component.members d (componentsOf pattern)).day?
        context.clock.day.year context.dayFirst := by
  rcases exists_componentsOf pattern with
    ⟨a, b, c, hParts, hComplete⟩
  rw [readBack?, outline_of_year hYear, Piece.dayOf?]
  rw [hParts] at hFull ⊢
  have hNodup := Component.nodup_of_isComplete hComplete
  have hFold (spaced : Bool) :
      ([a, b, c].map (·.piece d)).foldlM (Piece.push spaced)
          .start =
        .ok (Component.members d [a, b, c]) := by
    refine Component.foldlM_push hYear spaced [] [a, b, c] ?_ hNodup
    intro x hMember hEq
    exact hFull (hEq ▸ hMember)
  rw [hFold]

/-
  Reading undoes writing where the year is in full and the order is
  one that is read as it is written, and for formats without a
  layout where days do not come first.
-/
theorem parse_format_eq_midnight
    (context : Context)
    (t : Instant)
    (pattern : String)
    (hYear : 1000 ≤ t.day.year)
    (hPattern :
      (∃ layout,
        Layout.ofFormat? pattern.toList = some layout ∧
          .shortYear ∉ layout.components ∧
          ReadsBack context.dayFirst layout.components) ∨
      (pattern ≠ "" ∧ Layout.ofFormat? pattern.toList = none ∧
        context.dayFirst = false)) :
    parse context
        (.text (String.ofList (format t.day (some pattern)))) =
      .ok (some (.midnight t.day)) := by
  have hSome : pattern ≠ "" := by
    rintro rfl
    rcases hPattern with ⟨layout, hFormat, -⟩ | ⟨hSome, -⟩
    · have hNone : Layout.ofFormat? "".toList = none := by decide
      rw [hNone] at hFormat
      cases hFormat
    · exact hSome rfl
  have hOrder :
      .shortYear ∉ componentsOf pattern ∧
        ReadsBack context.dayFirst (componentsOf pattern) := by
    rcases hPattern with
      ⟨layout, hFormat, hFull, hOrder⟩ | ⟨-, hFormat, hMonths⟩
    · rw [componentsOf, hFormat]
      exact ⟨hFull, hOrder⟩
    · rw [componentsOf, hFormat, hMonths]
      exact ⟨by decide, .inr (.inl ⟨rfl, .inr rfl⟩)⟩
  have hBack : readBack? context pattern t.day = some t.day := by
    rcases exists_componentsOf pattern with
      ⟨a, b, c, hParts, hComplete⟩
    rw [readBack?_eq_members hYear hOrder.1, hParts]
    rw [hParts] at hOrder
    exact day?_members hComplete hOrder.2 context.clock.day.year
  rw [parse_of_format context hSome, hBack]
  rfl

/- The name of a month goes with days in front of months. -/
theorem parse_format_of_leap_day :
    1000 ≤ (⟨2024, 2, 29, by decide⟩ : Day).year ∧
      (∃ layout,
        Layout.ofFormat? "D. mmmm YYYY".toList = some layout ∧
          .shortYear ∉ layout.components ∧
          ReadsBack true layout.components) ∧
      parse
          ⟨.midnight ⟨1999, 12, 31, by decide⟩, true, "US"⟩
          (.text
            (String.ofList
              (format ⟨2024, 2, 29, by decide⟩
                (some "D. mmmm YYYY")))) =
        .ok (some (.midnight ⟨2024, 2, 29, by decide⟩)) := by
  have hLayout :
      Layout.ofFormat? "D. mmmm YYYY".toList =
        some ⟨[.plainDay, .monthName, .fullYear], ' '⟩ := by
    decide
  have hOrder :
      ReadsBack true
        [Component.plainDay, .monthName, .fullYear] :=
    .inl ⟨.monthName, by decide, rfl⟩
  refine ⟨by decide, ⟨_, hLayout, by decide, hOrder⟩, ?_⟩
  exact
    parse_format_eq_midnight _ (.midnight ⟨2024, 2, 29, by decide⟩)
      "D. mmmm YYYY" (by decide)
      (.inl ⟨_, hLayout, by decide, hOrder⟩)

end Date

end RecordRules
