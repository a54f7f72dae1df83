import RecordRules.Proofs.Calendar.Range

/-
  Days and instants a number of days or months later.

  Main declarations:
    * `Day.shiftDays?_eq_some_iff` and `Day.shiftDays?_eq_none_iff`
    * `Day.monthNumber`, months counted through the years, and
      `Day.IsMonthsLater`
    * `Day.shiftMonths?_eq_some_iff` and
      `Day.shiftMonths?_eq_none_iff`
    * `Day.ordinal_lt_of_monthNumber_lt`, days of later months are
      later
    * `Instant.ticks_le_iff`, the order of instants at one time of day
-/

namespace RecordRules

open Calendar

namespace Day

------------------------------------------------------------
-- Days later
------------------------------------------------------------

theorem ofOrdinal?_eq_some_iff
    {n : Int}
    {d : Day} :
    ofOrdinal? n = some d ↔ (d.ordinal : Int) = n := by
  constructor
  · intro hDay
    have hSome : (ofOrdinal? n).isSome = true := by
      rw [hDay]
      rfl
    rcases (isSome_ofOrdinal? n).mp hSome with ⟨hFirst, hLast⟩
    rcases exists_ordinal_eq (n := n.toNat) (by omega) (by omega) with
      ⟨e, hNumber⟩
    have hSame : (e.ordinal : Int) = n := by omega
    rw [← hSame, ofOrdinal?_ordinal] at hDay
    cases hDay
    exact hSame
  · rintro rfl
    exact ofOrdinal?_ordinal d

/- Days are counted by their numbers. -/
theorem shiftDays?_eq_some_iff
    {d e : Day}
    {n : Int} :
    d.shiftDays? n = some e ↔ (e.ordinal : Int) = d.ordinal + n :=
  ofOrdinal?_eq_some_iff

theorem shiftDays?_eq_none_iff
    {d : Day}
    {n : Int} :
    d.shiftDays? n = none ↔
      ¬ (1 ≤ d.ordinal + n ∧ d.ordinal + n ≤ lastOrdinal) := by
  rw [← isSome_ofOrdinal?, shiftDays?, Bool.not_eq_true,
    Option.isSome_eq_false_iff, Option.isNone_iff_eq_none]

------------------------------------------------------------
-- Months later
------------------------------------------------------------

/- Months counted through the years, the first of them being 13. -/
def monthNumber (d : Day) : Int :=
  12 * d.year + d.month

/-
  A day a number of months later, in the place of the month that the
  first one has, or the last of the month if that is sooner.
-/
def IsMonthsLater
    (d : Day)
    (n : Int)
    (e : Day) : Prop :=
  e.monthNumber = d.monthNumber + n ∧
    e.day = min d.day (monthLength e.year e.month)

theorem of?_eq_some_iff
    {year month day : Nat}
    {d : Day} :
    of? year month day = some d ↔
      d.year = year ∧ d.month = month ∧ d.day = day := by
  unfold of?
  constructor
  · intro hDay
    split at hDay
    · cases hDay
      exact ⟨rfl, rfl, rfl⟩
    · cases hDay
  · rintro ⟨rfl, rfl, rfl⟩
    rw [dif_pos d.valid]

theorem of?_eq_none_iff
    {year month day : Nat} :
    of? year month day = none ↔ ¬ Valid year month day := by
  unfold of?
  split
  · rename_i hValid
    exact iff_of_false nofun (not_not_intro hValid)
  · rename_i hInvalid
    exact iff_of_true rfl hInvalid

theorem monthIndex_eq
    (d : Day) :
    d.monthIndex = d.monthNumber - 1 := by
  have hMonth := d.valid.2.2.1
  rw [monthIndex, monthNumber]
  omega

theorem shiftMonths?_eq_some_iff
    {d e : Day}
    {n : Int} :
    d.shiftMonths? n = some e ↔ d.IsMonthsLater n e := by
  rw [IsMonthsLater, shiftMonths?, monthIndex_eq, of?_eq_some_iff]
  rcases e.valid with ⟨hFirst, -, hMonth, hLastMonth, -⟩
  constructor
  · rintro ⟨hYear, hPlace, hDay⟩
    rw [← hYear, ← hPlace] at hDay
    refine ⟨?_, hDay⟩
    rw [monthNumber]
    omega
  · rintro ⟨hNumber, hDay⟩
    rw [monthNumber] at hNumber
    have hYear :
        e.year = ((d.monthNumber - 1 + n) / 12).toNat := by
      omega
    have hPlace :
        e.month = ((d.monthNumber - 1 + n) % 12).toNat + 1 := by
      omega
    exact ⟨hYear, hPlace, hYear ▸ hPlace ▸ hDay⟩

/- No day is there if the year of the month is not. -/
theorem shiftMonths?_eq_none_iff
    {d : Day}
    {n : Int} :
    d.shiftMonths? n = none ↔
      ¬ (1 ≤ (d.monthNumber + n - 1) / 12 ∧
        (d.monthNumber + n - 1) / 12 ≤ 9999) := by
  rw [shiftMonths?, monthIndex_eq, of?_eq_none_iff]
  refine not_congr ?_
  have hDay := d.valid.2.2.2.2.1
  have hLength :
      1 ≤ monthLength ((d.monthNumber - 1 + n) / 12).toNat
        (((d.monthNumber - 1 + n) % 12).toNat + 1) :=
    monthLength_pos _ (by omega) (by omega)
  unfold Valid
  omega

------------------------------------------------------------
-- The order of days
------------------------------------------------------------

/- The days of later months are later. -/
theorem ordinal_lt_of_monthNumber_lt
    {d e : Day}
    (hEarlier : d.monthNumber < e.monthNumber) :
    d.ordinal < e.ordinal := by
  rcases d.valid with ⟨hYear, -, hMonth, hLastMonth, -, hEnd⟩
  rcases e.valid with ⟨-, -, hFirstMonth, hOtherLast, hDay, -⟩
  unfold monthNumber at hEarlier
  rcases Nat.lt_or_ge d.year e.year with hBefore | hAfter
  · have hYears :
        daysBeforeYear (d.year + 1) ≤ daysBeforeYear e.year :=
      daysBeforeYear_mono (by omega) hBefore
    have hStart := e.ordinal_bounds.1
    have hStop := d.ordinal_bounds.2
    omega
  · have hSame : d.year = e.year := by omega
    have hMonths :=
      daysBeforeMonth_mono d.year (by omega)
        (by omega : d.month + 1 ≤ e.month)
    rw [daysBeforeMonth_succ d.year hMonth] at hMonths
    rw [ordinal, ordinal, ← hSame]
    omega

/- More months lead to a later day, and only they do. -/
theorem IsMonthsLater.ordinal_le_iff
    {d e f : Day}
    {m n : Int}
    (hFirst : d.IsMonthsLater m e)
    (hSecond : d.IsMonthsLater n f) :
    e.ordinal ≤ f.ordinal ↔ m ≤ n := by
  rcases Int.lt_trichotomy m n with hLess | rfl | hMore
  · have hEarlier : e.monthNumber < f.monthNumber := by
      rw [hFirst.1, hSecond.1]
      omega
    have hOrder := ordinal_lt_of_monthNumber_lt hEarlier
    omega
  · have hSame : e = f :=
      Option.some.inj
        ((shiftMonths?_eq_some_iff.mpr hFirst).symm.trans
          (shiftMonths?_eq_some_iff.mpr hSecond))
    simp [hSame]
  · have hLater : f.monthNumber < e.monthNumber := by
      rw [hFirst.1, hSecond.1]
      omega
    have hOrder := ordinal_lt_of_monthNumber_lt hLater
    omega

end Day

------------------------------------------------------------
-- Instants
------------------------------------------------------------

namespace Instant

/- At one time of day instants have the order of their days. -/
theorem ticks_le_iff
    {s t : Instant}
    (hTime : s.time = t.time) :
    s.ticks ≤ t.ticks ↔ s.day.ordinal ≤ t.day.ordinal := by
  have hDay : 0 < dayTicks := by decide
  rw [ticks, ticks, hTime, Nat.add_le_add_iff_right,
    Nat.mul_le_mul_right_iff hDay]

theorem map_day_eq_some_iff
    {day : Option Day}
    {s t : Instant} :
    day.map (fun d => { s with day := d }) = some t ↔
      t.time = s.time ∧ day = some t.day := by
  rcases s with ⟨d, time⟩
  rcases t with ⟨e, other⟩
  rcases day with _ | f
  · simp
  · simp [and_comm, eq_comm]

theorem shiftDays?_eq_some_iff
    {s t : Instant}
    {n : Int} :
    s.shiftDays? n = some t ↔
      t.time = s.time ∧ (t.day.ordinal : Int) = s.day.ordinal + n := by
  rw [shiftDays?, map_day_eq_some_iff, Day.shiftDays?_eq_some_iff]

theorem shiftMonths?_eq_some_iff
    {s t : Instant}
    {n : Int} :
    s.shiftMonths? n = some t ↔
      t.time = s.time ∧ s.day.IsMonthsLater n t.day := by
  rw [shiftMonths?, map_day_eq_some_iff, Day.shiftMonths?_eq_some_iff]

end Instant

end RecordRules
