import RecordRules.Proofs.Calendar.Ordinal

/-
  The numbers that days and instants have.

  Main declarations:
    * `Day.exists_ordinal_eq`, every number up to the last is that of
      a day
    * `Day.isSome_ofOrdinal?`
    * `Instant.InCalendar`, and `Instant.isSome_ofTicks?`
-/

namespace RecordRules

open Calendar

------------------------------------------------------------
-- Days
------------------------------------------------------------

theorem Calendar.monthLength_pos
    (year : Nat)
    {month : Nat}
    (hFirst : 1 ≤ month)
    (hLast : month ≤ 12) :
    1 ≤ monthLength year month := by
  have hMonth : month ∈ List.range' 1 12 := by
    rw [List.mem_range'_1]
    omega
  have hMonths :
      ∀ m ∈ List.range' 1 12, m = 2 ∨ monthLength year m = 30 ∨
        monthLength year m = 31 := by
    simp [List.range', monthLength]
  rcases hMonths month hMonth with rfl | hLength | hLength
  · change 1 ≤ if isLeapYear year then 29 else 28
    split <;> omega
  · omega
  · omega

namespace Day

/- The first day of year 1. -/
def first : Day :=
  ⟨1, 1, 1, by decide⟩

theorem ordinal_first : first.ordinal = 1 := by
  decide

/- Every day but the last of all is followed by another. -/
theorem exists_next
    (d : Day)
    (hMore : d.ordinal < lastOrdinal) :
    ∃ e : Day, e.ordinal = d.ordinal + 1 := by
  rcases d.valid with ⟨hFirst, hYear, hMonth, hLast, hDay, hEnd⟩
  rcases Nat.lt_or_ge d.day (monthLength d.year d.month) with
    hWithin | hAtEnd
  · exact
      ⟨⟨d.year, d.month, d.day + 1, hFirst, hYear, hMonth, hLast,
        by omega, by omega⟩, rfl⟩
  have hDays : d.day = monthLength d.year d.month := by omega
  have hNextMonth := daysBeforeMonth_succ d.year hMonth
  rcases Nat.lt_or_ge d.month 12 with hEarlier | hDecember
  · have hLength :=
      monthLength_pos d.year (Nat.le_add_left 1 d.month)
        (Nat.succ_le_of_lt hEarlier)
    refine
      ⟨⟨d.year, d.month + 1, 1, hFirst, hYear, by omega, by omega,
        Nat.le_refl 1, hLength⟩, ?_⟩
    rw [ordinal, ordinal]
    dsimp only
    omega
  · have hTwelve : d.month = 12 := by omega
    have hNextYear := daysBeforeYear_succ hFirst
    rw [hTwelve] at hNextMonth hDays
    rw [daysBeforeMonth_thirteen] at hNextMonth
    have hNumber : d.ordinal = daysBeforeYear (d.year + 1) := by
      rw [ordinal, hTwelve]
      omega
    have hYearMore : d.year ≠ 9999 := by
      intro hSame
      rw [hSame] at hNumber
      have hAll : daysBeforeYear (9999 + 1) = lastOrdinal := by decide
      omega
    refine
      ⟨⟨d.year + 1, 1, 1, by omega, by omega, Nat.le_refl 1, by omega,
        Nat.le_refl 1, monthLength_pos _ (Nat.le_refl 1) (by omega)⟩,
        ?_⟩
    have hJanuary : daysBeforeMonth (d.year + 1) 1 = 0 := rfl
    rw [hNumber, ordinal]
    dsimp only
    rw [hJanuary]

/- Every number from 1 to the last is that of a day. -/
theorem exists_ordinal_eq
    {n : Nat}
    (hFirst : 1 ≤ n)
    (hLast : n ≤ lastOrdinal) :
    ∃ d : Day, d.ordinal = n := by
  induction hFirst with
  | refl => exact ⟨first, ordinal_first⟩
  | step hFirst ih =>
      rcases ih (Nat.le_of_succ_le hLast) with ⟨d, rfl⟩
      exact d.exists_next hLast

/- The numbers that have a day. -/
theorem isSome_ofOrdinal?
    (n : Int) :
    (ofOrdinal? n).isSome = true ↔ 1 ≤ n ∧ n ≤ lastOrdinal := by
  constructor
  · unfold ofOrdinal?
    split
    · rename_i hRange
      exact fun _ => hRange
    · exact nofun
  · rintro ⟨hFirst, hLast⟩
    rcases Int.eq_ofNat_of_zero_le (Int.le_trans (by decide) hFirst)
      with ⟨k, rfl⟩
    rcases exists_ordinal_eq (n := k) (by omega) (by omega) with
      ⟨d, rfl⟩
    rw [ofOrdinal?_ordinal]
    rfl

end Day

------------------------------------------------------------
-- Instants
------------------------------------------------------------

namespace Instant

/- Whether a count of microseconds lies in the years 1 to 9999. -/
def InCalendar (n : Int) : Prop :=
  dayTicks ≤ n ∧ n < (Day.lastOrdinal + 1) * dayTicks

instance (n : Int) : Decidable (InCalendar n) := by
  unfold InCalendar
  infer_instance

/- Less than a day is a time of day. -/
theorem isSome_timeOfTicks?
    {n : Nat}
    (hDay : n < dayTicks) :
    (TimeOfDay.ofTicks? n).isSome = true := by
  have hTicks : dayTicks = 86400 * 1000000 := rfl
  unfold TimeOfDay.ofTicks? TimeOfDay.of?
  dsimp only
  split
  · rfl
  · rename_i hInvalid
    refine absurd ?_ hInvalid
    exact ⟨by omega, by omega, by omega, by omega⟩

/- The counts of microseconds that are instants. -/
theorem isSome_ofTicks?
    (n : Int) :
    (ofTicks? n).isSome = true ↔ InCalendar n := by
  have hTicks : dayTicks = 86400000000 := rfl
  have hRest : (n % dayTicks).toNat < dayTicks := by
    rw [hTicks]
    omega
  rcases Option.isSome_iff_exists.mp (isSome_timeOfTicks? hRest) with
    ⟨time, hTime⟩
  have hDay :
      ofTicks? n =
        (Day.ofOrdinal? (n / dayTicks)).map fun day => ⟨day, time⟩ := by
    rw [ofTicks?, hTime]
    rcases Day.ofOrdinal? (n / dayTicks) with _ | day <;> rfl
  rw [hDay, Option.isSome_map, Day.isSome_ofOrdinal?, InCalendar,
    hTicks]
  omega

/- A day before or after is there, but for the ends of the calendar. -/
theorem isSome_shiftDays?
    (t : Instant)
    (n : Int) :
    (t.shiftDays? n).isSome = true ↔
      1 ≤ t.day.ordinal + n ∧ t.day.ordinal + n ≤ Day.lastOrdinal := by
  rw [shiftDays?, Option.isSome_map, Day.shiftDays?,
    Day.isSome_ofOrdinal?]

end Instant

end RecordRules
