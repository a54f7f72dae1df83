import RecordRules.Proofs.Calendar.Range
import RecordRules.Proofs.Date.Resolution
import RecordRules.Proofs.Value.HasText

/-
  The values that are read as dates without a failure.

  Main declarations:
    * `Stamp.IsLocal`, and `Date.exists_toLocal_iff`
    * `Date.CanReadText`, and `Date.exists_parseText_iff`
    * `Date.CanParse` and `Date.CanParseRelative`
    * `Date.exists_parse_iff` and `Date.exists_parseRelative_iff`
    * `Date.exists_resolveValue_iff`
-/

namespace RecordRules

open Text Numeric

theorem Failure.exists_map_iff
    {α β : Type}
    (result : Except Failure α)
    (f : α → β) :
    (∃ b, result.map f = .ok b) ↔ ∃ a, result = .ok a := by
  cases result with
  | error failure => exact iff_of_false nofun nofun
  | ok a => exact iff_of_true ⟨f a, rfl⟩ ⟨a, rfl⟩

/-
  Whether a stamp has a local instant: its offset is less than a day,
  and does not lead out of the calendar.
-/
def Stamp.IsLocal (s : Stamp) : Prop :=
  ∀ seconds ∈ s.offset,
    seconds.natAbs < Date.offsetLimit ∧
      Instant.InCalendar (s.instant.ticks - seconds * 1000000)

/- Whether the days before and after the current one are days. -/
def Context.IsInside (context : Context) : Prop :=
  1 < context.clock.day.ordinal ∧
    context.clock.day.ordinal < Day.lastOrdinal

namespace Date

------------------------------------------------------------
-- Local instants
------------------------------------------------------------

theorem exists_toLocal_iff
    (s : Stamp) :
    (∃ t, toLocal s = .ok t) ↔ s.IsLocal := by
  rcases s with ⟨instant, _ | seconds⟩
  · exact iff_of_true ⟨instant, rfl⟩ nofun
  · have hLocal :
        (Stamp.mk instant (some seconds)).local? =
          Instant.ofTicks? (instant.ticks - seconds * 1000000) :=
      rfl
    have hCalendar :=
      Instant.isSome_ofTicks? (instant.ticks - seconds * 1000000)
    simp only [Stamp.IsLocal, Option.mem_some_iff, forall_eq',
      ← hCalendar]
    unfold toLocal
    dsimp only
    split
    · rename_i hWide
      exact iff_of_false nofun fun hBoth => by omega
    · rename_i hNarrow
      rw [hLocal]
      rcases Instant.ofTicks? (instant.ticks - seconds * 1000000) with
        _ | t
      · exact iff_of_false nofun fun hBoth => nomatch hBoth.2
      · exact iff_of_true ⟨t, rfl⟩ ⟨Nat.not_le.mp hNarrow, rfl⟩

------------------------------------------------------------
-- Texts
------------------------------------------------------------

/-
  Whether a text is read as a natural date without a failure. It
  holds no fraction that is too long, and gives no stamp, or one that
  is refused as it stands or has a local instant.
-/
structure CanReadText
    (context : Context)
    (cs : List Char) : Prop where
  exact :
    readNatural context.clock context.dayFirst (withoutOrdinals cs) ≠
      .error .inexactFraction
  isLocal :
    ∀ s,
      readNatural context.clock context.dayFirst (withoutOrdinals cs) =
          .ok s →
        isBeyondWriting s = false → s.IsLocal

theorem exists_parseText_iff
    (context : Context)
    (cs : List Char) :
    (∃ t, parseText context cs = .ok t) ↔ CanReadText context cs := by
  unfold parseText
  dsimp only
  rcases hRead :
      readNatural context.clock context.dayFirst (withoutOrdinals cs)
    with refusal | s
  · cases refusal with
    | unreadable =>
        refine iff_of_true ⟨none, rfl⟩ ⟨?_, ?_⟩
        · rw [hRead]
          nofun
        · rw [hRead]
          nofun
    | inexactFraction =>
        exact iff_of_false nofun fun hCan => hCan.exact hRead
  · cases hBeyond : isBeyondWriting s with
    | true =>
        refine iff_of_true ⟨none, by simp [hBeyond]⟩ ⟨?_, ?_⟩
        · rw [hRead]
          nofun
        · intro other hOther hWritten
          cases hRead.symm.trans hOther
          rw [hBeyond] at hWritten
          cases hWritten
    | false =>
        simp only [hBeyond, Bool.false_eq_true, if_false]
        rw [Failure.exists_map_iff, exists_toLocal_iff]
        constructor
        · intro hLocal
          refine ⟨?_, ?_⟩
          · rw [hRead]
            nofun
          · intro other hOther _
            cases hRead.symm.trans hOther
            exact hLocal
        · intro hCan
          exact hCan.isLocal s hRead hBeyond

/-
  Whether a text without blanks around it is read as a natural date
  without a failure, where the days next to the current one are
  days.
-/
def CanReadStripped
    (context : Context)
    (cs : List Char) : Prop :=
  cs ≠ [] → nearbyDay? (lower cs) = none → CanReadText context cs

theorem distance_of_nearbyDay?
    {word : List Char}
    {distance : Int}
    (hNear : nearbyDay? word = some distance) :
    -1 ≤ distance ∧ distance ≤ 1 := by
  unfold nearbyDay? at hNear
  split at hNear
  · cases hNear
    decide
  split at hNear
  · cases hNear
    decide
  split at hNear
  · cases hNear
    decide
  · cases hNear

theorem exists_parseStripped_iff
    {context : Context}
    (hClock : context.IsInside)
    (cs : List Char) :
    (∃ t, parseStripped context cs = .ok t) ↔
      CanReadStripped context cs := by
  unfold parseStripped CanReadStripped
  rcases hClock with ⟨hAfter, hBefore⟩
  cases cs with
  | nil => exact iff_of_true ⟨none, rfl⟩ fun hSome => absurd rfl hSome
  | cons c rest =>
      simp only [List.isEmpty_cons, Bool.false_eq_true, if_false]
      rcases hNear : nearbyDay? (lower (c :: rest)) with _ | distance
      · simp [exists_parseText_iff]
      · have hSmall := distance_of_nearbyDay? hNear
        have hDay :=
          (context.clock.isSome_shiftDays? distance).mpr
            ⟨by omega, by omega⟩
        rcases Option.isSome_iff_exists.mp hDay with ⟨t, hShift⟩
        refine iff_of_true ⟨some t, ?_⟩ ?_
        · simp only [hShift]
        · rintro - ⟨⟩

------------------------------------------------------------
-- Values
------------------------------------------------------------

/- Whether a value is read as a natural date without a failure. -/
def CanParse (context : Context) : Value → Prop
  | .null | .day _ => True
  | .stamp s => s.IsLocal
  | v =>
    v.hasText = true ∧
      ∀ cs, v.print = .ok cs → CanReadStripped context (strip cs)

/-
  Whether a value is read as a relative date without a failure: it
  has a text, in which a count does not have too many digits.
-/
def CanParseRelative : Value → Prop
  | .null | .stamp _ | .day _ => True
  | v =>
    v.hasText = true ∧
      ∀ s,
        relativeOf? v = .ok (some (.step s)) →
          s.digits.length ≤ maxDigits

theorem exists_parse_iff
    {context : Context}
    (hClock : context.IsInside)
    (v : Value) :
    (∃ t, parse context v = .ok t) ↔ CanParse context v := by
  have hText (hText : IsReadByText v) :
      (∃ t, parse context v = .ok t) ↔
        v.hasText = true ∧
          ∀ cs, v.print = .ok cs →
            CanReadStripped context (strip cs) := by
    rw [parse_eq_of_text context hText, Failure.exists_bind_iff,
      ← Value.exists_print_iff]
    simp only [exists_parseStripped_iff hClock]
    constructor
    · rintro ⟨cs, hPrint, hCan⟩
      refine ⟨⟨cs, hPrint⟩, fun others hOther => ?_⟩
      cases hPrint.symm.trans hOther
      exact hCan
    · rintro ⟨⟨cs, hPrint⟩, hCan⟩
      exact ⟨cs, hPrint, hCan cs hPrint⟩
  cases v with
  | null => exact iff_of_true ⟨none, rfl⟩ trivial
  | day d => exact iff_of_true ⟨_, rfl⟩ trivial
  | stamp s =>
      exact (Failure.exists_map_iff _ _).trans (exists_toLocal_iff s)
  | _ => exact hText trivial

theorem Step.exists_count_iff
    (s : Step) :
    (∃ count, s.count = .ok count) ↔ s.digits.length ≤ maxDigits := by
  unfold Step.count
  split
  · rename_i hMany
    exact iff_of_false nofun (Nat.not_le.mpr hMany)
  · rename_i hFew
    exact iff_of_true ⟨_, rfl⟩ (Nat.not_lt.mp hFew)

theorem Step.exists_resolve?_iff
    (s : Step)
    (clock : Instant) :
    (∃ t, s.resolve? clock = .ok t) ↔ s.digits.length ≤ maxDigits := by
  rw [Step.resolve?, Failure.exists_bind_iff, ← s.exists_count_iff]
  apply exists_congr
  intro count
  refine and_iff_left ?_
  cases s.unit <;> exact ⟨_, rfl⟩

theorem exists_relativeOf?_iff
    (v : Value) :
    (∃ relative, relativeOf? v = .ok relative) ↔ v.hasText = true := by
  unfold relativeOf?
  rw [Failure.exists_bind_iff, ← Value.exists_print_iff]
  simp [pure, Except.pure]

theorem exists_parseRelative_iff
    (context : Context)
    (v : Value) :
    (∃ t, parseRelative context v = .ok t) ↔ CanParseRelative v := by
  have hText (hText : IsReadByText v) :
      (∃ t, parseRelative context v = .ok t) ↔
        v.hasText = true ∧
          ∀ s, relativeOf? v = .ok (some (.step s)) →
            s.digits.length ≤ maxDigits := by
    rw [parseRelative_eq_of_text context hText,
      Failure.exists_bind_iff, ← exists_relativeOf?_iff]
    rcases relativeOf? v with failure | _ | _ | s
    · exact iff_of_false (nomatch ·) (nomatch ·.1)
    · exact iff_of_true ⟨none, rfl, none, rfl⟩ ⟨⟨none, rfl⟩, nofun⟩
    · exact
        iff_of_true ⟨some .now, rfl, _, rfl⟩ ⟨⟨_, rfl⟩, nofun⟩
    · have hStep := s.exists_resolve?_iff context.clock
      simp only [Except.ok.injEq, Option.some.injEq,
        exists_eq_left', Relative.step.injEq, forall_eq', exists_eq',
        true_and]
      exact hStep
  cases v with
  | null | stamp _ | day _ => exact iff_of_true ⟨none, rfl⟩ trivial
  | _ => exact hText trivial

/-
  Whether a field or a bound with a value is read without a failure,
  be it as a relative or as a natural date.
-/
def CanRead
    (context : Context)
    (v : Value) : Prop :=
  CanParse context v ∧ CanParseRelative v

/- What is a relative date is looked at as a natural one as well. -/
theorem exists_parse_of_parseRelative
    {context : Context}
    {v : Value}
    {t : Instant}
    (hRelative : parseRelative context v = .ok (some t)) :
    ∃ natural, parse context v = .ok natural := by
  have hText (hText : IsReadByText v) :
      ∃ natural, parse context v = .ok natural := by
    rw [parseRelative_eq_of_text context hText] at hRelative
    rcases hKind : relativeOf? v with failure | _ | _ | s
    · rw [hKind] at hRelative
      cases hRelative
    · rw [hKind] at hRelative
      cases hRelative
    · exact ⟨_, parse_of_now context hText hKind⟩
    · exact ⟨_, parse_of_step context hText hKind⟩
  cases v with
  | null | stamp _ | day _ => cases hRelative
  | _ => exact hText trivial

theorem exists_resolveValue_iff
    {context : Context}
    (hClock : context.IsInside)
    (v : Value) :
    (∃ t, resolveValue context v = .ok t) ↔ CanRead context v := by
  rw [CanRead, ← exists_parse_iff hClock,
    ← exists_parseRelative_iff context, resolveValue,
    Failure.exists_bind_iff]
  constructor
  · rintro ⟨_ | t, hRelative, hRest⟩
    · exact ⟨hRest, none, hRelative⟩
    · exact ⟨exists_parse_of_parseRelative hRelative, _, hRelative⟩
  · rintro ⟨hNatural, _ | t, hRelative⟩
    · exact ⟨none, hRelative, hNatural⟩
    · exact ⟨some t, hRelative, some t, rfl⟩

end Date

end RecordRules
