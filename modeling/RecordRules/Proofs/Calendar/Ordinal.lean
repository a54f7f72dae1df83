import RecordRules.Calendar.Instant

/-
  Days and their numbers.

  Main declarations:
    * `Calendar.daysBeforeYear_succ` and
      `Calendar.daysBeforeMonth_succ`
    * `Day.yearOfOrdinal_eq` and `Day.monthOfYearDay_eq`, what the
      two walks end in
    * `Day.ofOrdinal?_ordinal`, a day is the one of its number
    * `Instant.shiftDays?_zero`
-/

namespace RecordRules

open Numeric

theorem Numeric.total_append
    (first second : List Nat) :
    total (first ++ second) = total first + total second := by
  induction first with
  | nil => simp [total]
  | cons n rest ih =>
      rw [List.cons_append, total, total, ih, Nat.add_assoc]

namespace Calendar

------------------------------------------------------------
-- Lengths
------------------------------------------------------------

/- The number of days of a year. -/
def yearLength (year : Nat) : Nat :=
  if isLeapYear year then 366 else 365

/- Every `k`-th year is one more among those that `k` divides. -/
theorem div_of_next
    (y k : Nat) :
    (y + 1) / k = y / k + if (y + 1) % k = 0 then 1 else 0 := by
  rw [Nat.succ_div]
  simp only [Nat.dvd_iff_mod_eq_zero]

theorem daysBeforeYear_succ
    {year : Nat}
    (hFirst : 1 ≤ year) :
    daysBeforeYear (year + 1) =
      daysBeforeYear year + yearLength year := by
  rcases Nat.exists_eq_add_of_le' hFirst with ⟨y, rfl⟩
  have hCentury : (y + 1) % 100 = 0 → (y + 1) % 4 = 0 := by omega
  have hEra : (y + 1) % 400 = 0 → (y + 1) % 100 = 0 := by omega
  have hLess : y / 100 ≤ y / 4 := by omega
  simp only [daysBeforeYear, Nat.add_sub_cancel, div_of_next y 4,
    div_of_next y 100, div_of_next y 400, yearLength, isLeapYear]
  by_cases hFour : (y + 1) % 4 = 0
  · by_cases hHundred : (y + 1) % 100 = 0
    · by_cases hLast : (y + 1) % 400 = 0
      · simp [hFour, hHundred, hLast]
        omega
      · simp [hFour, hHundred, hLast]
        omega
    · have hLast : ¬ (y + 1) % 400 = 0 := mt hEra hHundred
      simp [hFour, hHundred, hLast]
      omega
  · have hHundred : ¬ (y + 1) % 100 = 0 := mt hCentury hFour
    have hLast : ¬ (y + 1) % 400 = 0 := mt hEra hHundred
    simp [hFour, hHundred, hLast]
    omega

/- Later years start later. -/
theorem daysBeforeYear_mono
    {first second : Nat}
    (hFirst : 1 ≤ first)
    (hOrder : first ≤ second) :
    daysBeforeYear first ≤ daysBeforeYear second := by
  induction hOrder with
  | refl => exact Nat.le_refl _
  | step hOrder ih =>
      rw [Nat.succ_eq_add_one,
        daysBeforeYear_succ (Nat.le_trans hFirst hOrder)]
      omega

theorem daysBeforeMonth_succ
    (year : Nat)
    {month : Nat}
    (hFirst : 1 ≤ month) :
    daysBeforeMonth year (month + 1) =
      daysBeforeMonth year month + monthLength year month := by
  have hMonth : month + 1 - 1 = (month - 1) + 1 := by omega
  have hSame : month - 1 + 1 = month := by omega
  rw [daysBeforeMonth, hMonth, List.range_succ, List.map_append,
    total_append, daysBeforeMonth, List.map_singleton, hSame]
  rfl

theorem daysBeforeMonth_mono
    (year : Nat)
    {first second : Nat}
    (hFirst : 1 ≤ first)
    (hOrder : first ≤ second) :
    daysBeforeMonth year first ≤ daysBeforeMonth year second := by
  induction hOrder with
  | refl => exact Nat.le_refl _
  | step hOrder ih =>
      rw [Nat.succ_eq_add_one,
        daysBeforeMonth_succ year (Nat.le_trans hFirst hOrder)]
      omega

/- Twelve months make a year. -/
theorem daysBeforeMonth_thirteen
    (year : Nat) :
    daysBeforeMonth year 13 = yearLength year := by
  have hRange :
      (List.range 12) = [0, 1, 2, 3, 4, 5, 6, 7, 8, 9, 10, 11] := by
    decide
  simp only [daysBeforeMonth, hRange, total, monthLength, yearLength,
    List.map_cons, List.map_nil]
  split <;> rfl

end Calendar

open Calendar

namespace Day

------------------------------------------------------------
-- The place of a day
------------------------------------------------------------

/- The number of a day within its year. -/
def yearDay (d : Day) : Nat :=
  daysBeforeMonth d.year d.month + d.day

theorem yearDay_bounds
    (d : Day) :
    1 ≤ d.yearDay ∧ d.yearDay ≤ yearLength d.year := by
  have hValid := d.valid
  rcases hValid with
    ⟨-, -, hMonth, hLastMonth, hDay, hLastDay⟩
  have hNext := daysBeforeMonth_succ d.year hMonth
  have hYear :
      daysBeforeMonth d.year (d.month + 1) ≤
        daysBeforeMonth d.year 13 :=
    daysBeforeMonth_mono d.year (by omega) (by omega)
  rw [daysBeforeMonth_thirteen] at hYear
  unfold yearDay
  omega

/- The number of a day lies within the numbers of its year. -/
theorem ordinal_bounds
    (d : Day) :
    daysBeforeYear d.year < d.ordinal ∧
      d.ordinal ≤ daysBeforeYear (d.year + 1) := by
  have hPlace := d.yearDay_bounds
  have hNext := daysBeforeYear_succ d.valid.1
  have hOrdinal : d.ordinal = daysBeforeYear d.year + d.yearDay := by
    rw [ordinal, yearDay, Nat.add_assoc]
  omega

------------------------------------------------------------
-- Walking up to a day
------------------------------------------------------------

/- From a year that is not too late the walk ends in the right one. -/
theorem yearOfOrdinal_eq
    {n start year : Nat}
    (hFirst : 1 ≤ start)
    (hStart : start ≤ year)
    (hYear : year ≤ 9999)
    (hAfter : daysBeforeYear year < n)
    (hBefore : n ≤ daysBeforeYear (year + 1)) :
    yearOfOrdinal n start = year := by
  induction start using yearOfOrdinal.induct n with
  | case1 start hStep ih =>
      rw [yearOfOrdinal, if_pos hStep]
      have hNotYet : start ≠ year := by
        rintro rfl
        omega
      exact ih (by omega) (by omega)
  | case2 start hStop =>
      rw [yearOfOrdinal, if_neg hStop]
      apply Decidable.byContradiction
      intro hOther
      have hEarlier : start + 1 ≤ year := by omega
      have hLess := daysBeforeYear_mono (by omega) hEarlier
      exact hStop ⟨by omega, by omega⟩

/-
  From a month that is not too late the walk ends in the right one:
  what is left of the number is counted from the start of the month.
-/
theorem monthOfYearDay_eq
    {year n start month day : Nat}
    (hFirst : 1 ≤ start)
    (hStart : start ≤ month)
    (hMonth : month ≤ 12)
    (hDay : 1 ≤ day)
    (hLast : day ≤ monthLength year month)
    (hPlace :
      daysBeforeMonth year start + n =
        daysBeforeMonth year month + day) :
    monthOfYearDay year n start = (month, day) := by
  induction n, start using monthOfYearDay.induct year with
  | case1 n start hStep ih =>
      rw [monthOfYearDay, if_pos hStep]
      have hNext := daysBeforeMonth_succ year hFirst
      have hNotYet : start ≠ month := by
        rintro rfl
        omega
      exact ih (by omega) (by omega) (by omega)
  | case2 n start hStop =>
      rw [monthOfYearDay, if_neg hStop]
      have hNext := daysBeforeMonth_succ year hFirst
      have hThere : start = month := by
        apply Decidable.byContradiction
        intro hOther
        have hEarlier : start + 1 ≤ month := by omega
        have hLess :=
          daysBeforeMonth_mono year (by omega) hEarlier
        exact hStop ⟨by omega, by omega⟩
      subst hThere
      have hSame : n = day := by omega
      rw [hSame]

------------------------------------------------------------
-- Numbers and days
------------------------------------------------------------

/- A day is the day of its number. -/
theorem ofOrdinal?_ordinal
    (d : Day) :
    ofOrdinal? d.ordinal = some d := by
  rcases d.ordinal_bounds with ⟨hAfter, hBefore⟩
  rcases d.valid with ⟨hFirst, hYear, hMonth, hLastMonth, hDay, hLast⟩
  have hEnd : daysBeforeYear (d.year + 1) ≤ daysBeforeYear 10000 :=
    daysBeforeYear_mono (by omega) (by omega)
  have hLastDay : daysBeforeYear 10000 = lastOrdinal := by decide
  -- no year has more than 366 days, so this year is not too late
  have hStart : d.ordinal / 366 + 1 ≤ d.year := by
    simp only [daysBeforeYear, Nat.add_sub_cancel] at hBefore
    omega
  have hWalk :=
    yearOfOrdinal_eq (by omega) hStart hYear hAfter hBefore
  have hRest : d.ordinal - daysBeforeYear d.year = d.yearDay := by
    rw [ordinal, yearDay]
    omega
  have hSplit :
      monthOfYearDay d.year d.yearDay 1 = (d.month, d.day) :=
    monthOfYearDay_eq (by omega) hMonth hLastMonth hDay hLast
      (by rw [yearDay]; simp [daysBeforeMonth, total])
  have hRange : 1 ≤ (d.ordinal : Int) ∧ (d.ordinal : Int) ≤ lastOrdinal := by
    omega
  rw [ofOrdinal?, if_pos hRange, Int.toNat_natCast]
  simp only [hWalk, hRest, hSplit]
  rw [of?, dif_pos d.valid]

theorem shiftDays?_zero
    (d : Day) :
    d.shiftDays? 0 = some d := by
  rw [shiftDays?, Int.add_zero, ofOrdinal?_ordinal]

end Day

/- No days later it is the same instant. -/
theorem Instant.shiftDays?_zero
    (t : Instant) :
    t.shiftDays? 0 = some t := by
  rw [shiftDays?, Day.shiftDays?_zero]
  rfl

end RecordRules
