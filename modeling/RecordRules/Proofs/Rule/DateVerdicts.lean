import RecordRules.Proofs.Date.Readable
import RecordRules.Proofs.Date.ShortNumbers
import RecordRules.Proofs.Rule.Readings

/-
  When the rules for dates give a verdict or a format.

  Main declarations:
    * `DateRule.CanJudge`, values and bounds that are read
    * `DateRule.check_returnsIff` and `DateRule.format_returnsIff`
    * `DateRule.reading_returns_iff`
-/

namespace RecordRules

open Edit Rule

namespace Edit

variable {α : Type} {r : Record}

theorem returnsIff_ofResult
    (result : Except Failure α) :
    ReturnsIff (ofResult result) r (∃ a, result = .ok a) where
  returns := fun ⟨a, hResult⟩ => ⟨a, r, by rw [hResult]; rfl⟩
  fails := by
    intro hNone
    rcases result with failure | a
    · exact ⟨failure, rfl⟩
    · exact absurd ⟨a, rfl⟩ hNone

/- What always returns does so after a step that does not fail. -/
theorem exists_outcome_of_passes
    {m : Edit Unit}
    {f : Unit → Edit α}
    (hPasses : Passes m r)
    (hRest : Returns (f ())) :
    ∃ a s, (m >>= f).outcome r = (.ok a, s) := by
  rcases hPasses with ⟨s, hFirst⟩
  rw [outcome_bind_of_ok hFirst]
  exact hRest s

end Edit

namespace DateRule

open Date

variable
  {context : Context}
  {options : RuleOptions}
  {field : String}
  {format : Option String}
  {r : Record}
  {v : Value}

------------------------------------------------------------
-- Bounds
------------------------------------------------------------

/- What is read without a failure has a text. -/
theorem hasText_of_canRead
    (hRead : CanRead context v) :
    v.hasText = true := by
  rcases hRead with ⟨hParse, -⟩
  cases v with
  | null | stamp _ | day _ => rfl
  | _ => exact hParse.1

/- A bound that is read can be told. -/
theorem exists_boundText
    (hClock : context.IsInside)
    {limit : Option Instant}
    {bound : Value}
    (hLimit : resolveBound context bound = .ok limit)
    (format : Option String) :
    ∃ text, boundText format limit bound = .ok text := by
  cases limit with
  | none =>
      rw [resolveBound_eq_resolveValue] at hLimit
      have hRead := (exists_resolveValue_iff hClock bound).mp ⟨_, hLimit⟩
      exact (Value.exists_print_iff bound).mpr (hasText_of_canRead hRead)
  | some t =>
      unfold boundText
      dsimp only
      split <;> exact ⟨_, rfl⟩

theorem exists_resolveBound_iff
    (hClock : context.IsInside)
    (bound : Value) :
    (∃ limit, resolveBound context bound = .ok limit) ↔
      CanRead context bound := by
  rw [resolveBound_eq_resolveValue]
  exact exists_resolveValue_iff hClock bound

------------------------------------------------------------
-- Verdicts
------------------------------------------------------------

/- A value is compared if it is read. -/
theorem resolveCompared_returnsIff
    (hClock : context.IsInside)
    (format : Option String)
    (v : Value)
    (r : Record) :
    ReturnsIff (resolveCompared context field format v) r
      (CanRead context v) := by
  refine ReturnsIff.congr ?_ (exists_resolveBound_iff hClock v)
  rw [resolveBound_eq]
  unfold resolveCompared
  rcases isDate context v with failure | _ | _
  · exact ⟨nofun, fun _ => ⟨failure, rfl⟩⟩
  · rcases parseRelative context v with failure | resolved
    · exact ⟨nofun, fun _ => ⟨failure, rfl⟩⟩
    · refine Returns.returnsIff (fun s => ?_) ⟨resolved, rfl⟩
      rcases resolved with _ | t
      · exact ⟨none, s, rfl⟩
      · cases proper? format with
        | none => exact ⟨some t, s, rfl⟩
        | some pattern =>
            cases s with
            | linked values errors infos => exact ⟨some t, _, rfl⟩
            | detached cells => exact ⟨some t, _, rfl⟩
  · exact returnsIff_ofResult _

/- A field with a value is known to be a date if it is read. -/
theorem checkValid_returnsIff
    (hClock : context.IsInside)
    (hGet : r.get field = .ok v) :
    ReturnsIff (checkValid context options field format) r
      (v.isEmpty = false → CanRead context v) := by
  unfold checkValid
  refine .getField_bind hGet ?_
  extract_lets standard rest
  have hReport (valid : Bool) :
      Returns (do
        report options field (!v.isEmpty) valid standard
        return valid : Edit Bool) :=
    .bind (report_returns options field _ _ _) fun _ => .pure _
  split
  · rename_i hEmpty
    refine (Returns.returnsIff (m := rest none) (hReport false) ?_)
    rw [hEmpty]
    nofun
  · rename_i hEmpty
    have hSome := Bool.eq_false_iff.mpr hEmpty
    refine
      (ReturnsIff.ofResult_bind (q := True)
        (exists_resolveValue_iff hClock v) fun resolved _ => ?_).congr
        (by simp [hSome])
    refine ⟨fun _ => ?_, fun hNot => absurd trivial hNot⟩
    cases resolved with
    | none => exact hReport false r
    | some t =>
        exact
          exists_outcome_of_passes (setField_passes hGet hSome _)
            (hReport true)

/-
  A field is compared with bounds that are read; without a value the
  bounds only have to have texts.
-/
theorem checkBound_returnsIff
    (hClock : context.IsInside)
    (hGet : r.get field = .ok v)
    (side : String)
    (holds : Option Instant → Option Instant → Bool)
    (bound : Value) :
    ReturnsIff
      (checkBound context options field format side holds bound) r
      (if v.isEmpty then
        bound.hasText = true
      else
        CanRead context bound ∧ CanRead context v) := by
  unfold checkBound
  refine .getField_bind hGet ?_
  extract_lets rest
  have hRest (found : Option Instant × Bool) (s : Record) :
      ReturnsIff (rest found) s
        (∃ text, boundText format found.1 bound = .ok text) := by
    refine
      (ReturnsIff.ofResult_bind (q := True) .rfl fun text _ => ?_).congr
        (by rw [and_true])
    exact
      Returns.returnsIff
        (.bind (report_returns options field _ _ _) fun _ => .pure _)
        trivial
  split
  · refine (hRest (none, false) r).congr ?_
    exact Value.exists_print_iff bound
  · refine
      ReturnsIff.ofResult_bind (exists_resolveBound_iff hClock bound)
        fun limit hLimit => ?_
    refine
      (resolveCompared_returnsIff hClock format v r).bind fun input s => ?_
    exact
      (hRest (limit, holds input limit) s).returns
        (exists_boundText hClock hLimit format)

theorem checkBetween_returnsIff
    (hClock : context.IsInside)
    (hGet : r.get field = .ok v)
    (start stop : Value) :
    ReturnsIff (checkBetween context options field format start stop) r
      (if v.isEmpty then
        start.hasText = true ∧ stop.hasText = true
      else
        CanRead context start ∧ CanRead context stop ∧
          CanRead context v) := by
  unfold checkBetween
  refine .getField_bind hGet ?_
  extract_lets rest
  have hRest
      (found : Option Instant × Option Instant × Bool)
      (s : Record) :
      ReturnsIff (rest found) s
        ((∃ text, boundText format found.1 start = .ok text) ∧
          ∃ text, boundText format found.2.1 stop = .ok text) := by
    refine ReturnsIff.ofResult_bind .rfl fun lowText _ => ?_
    refine
      (ReturnsIff.ofResult_bind (q := True) .rfl fun highText _ =>
        ?_).congr (by rw [and_true])
    exact
      Returns.returnsIff
        (.bind (report_returns options field _ _ _) fun _ => .pure _)
        trivial
  split
  · refine (hRest (none, none, false) r).congr ?_
    exact
      and_congr (Value.exists_print_iff start)
        (Value.exists_print_iff stop)
  · refine
      ReturnsIff.ofResult_bind (exists_resolveBound_iff hClock start)
        fun low hLow => ?_
    refine
      ReturnsIff.ofResult_bind (exists_resolveBound_iff hClock stop)
        fun high hHigh => ?_
    refine
      (resolveCompared_returnsIff hClock format v r).bind fun input s => ?_
    exact
      (hRest (low, high, comesBefore low input && comesBefore input high)
        s).returns
        ⟨exists_boundText hClock hLow format,
          exists_boundText hClock hHigh format⟩

/- Whether a rule has a verdict on a field with a given value. -/
def CanJudge
    (context : Context)
    (v : Value) : DateRule → Prop
  | anyDate => v.isEmpty = false → CanRead context v
  | before bound | after bound =>
    if v.isEmpty then
      bound.hasText = true
    else
      CanRead context bound ∧ CanRead context v
  | between start stop =>
    if v.isEmpty then
      start.hasText = true ∧ stop.hasText = true
    else
      CanRead context start ∧ CanRead context stop ∧ CanRead context v

theorem check_returnsIff
    (hClock : context.IsInside)
    (hGet : r.get field = .ok v)
    (rule : DateRule) :
    ReturnsIff (rule.check context options field format) r
      (rule.CanJudge context v) := by
  cases rule with
  | anyDate => exact checkValid_returnsIff hClock hGet
  | before bound => exact checkBound_returnsIff hClock hGet _ _ bound
  | after bound => exact checkBound_returnsIff hClock hGet _ _ bound
  | between start stop =>
      exact checkBetween_returnsIff hClock hGet start stop

------------------------------------------------------------
-- Formats
------------------------------------------------------------

/- A field with a value is formatted, or left alone, if it is read. -/
theorem format_returnsIff
    (hClock : context.IsInside)
    (hGet : r.get field = .ok v) :
    ReturnsIff (DateRule.format context options field format) r
      (v.isEmpty = false → CanRead context v) := by
  unfold DateRule.format
  refine .getField_bind hGet ?_
  split
  · rename_i hEmpty
    refine (Returns.pure _).returnsIff ?_
    rw [hEmpty]
    nofun
  · rename_i hEmpty
    have hSome := Bool.eq_false_iff.mpr hEmpty
    refine
      (ReturnsIff.ofResult_bind (q := True)
        (exists_resolveValue_iff hClock v) fun resolved hResolve =>
          ?_).congr (by simp [hSome])
    cases resolved with
    | none => exact (Returns.pure _).returnsIff trivial
    | some t =>
        rcases exists_print_of_resolveValue hResolve with ⟨cs, hPrint⟩
        rcases exists_changeMessage options
            "Value has been formatted from " hPrint with
          ⟨message, hMessage⟩
        rw [hMessage]
        refine Returns.returnsIff ?_ trivial
        refine .bind (noteChange_returns options field message) ?_
        intro _
        refine .bind (store_returns options field _) ?_
        exact fun _ => .pure _

------------------------------------------------------------
-- Readings, verdicts and formats
------------------------------------------------------------

/-
  A value is read without a failure exactly if it has a text, if a
  count in it does not have too many digits, if it gives no stamp
  whose offset is too wide or leads out of the calendar, and if it
  holds no fraction that is too long, which only a number of 29
  digits makes. Rules for dates have a verdict, and formats a text or
  none, exactly where the values that they look at are so read.
-/
theorem reading_returns_iff
    (hClock : context.IsInside) :
    (∀ v,
      ((∃ t, parse context v = .ok t) ↔ CanParse context v) ∧
        ((∃ t, parseRelative context v = .ok t) ↔
          CanParseRelative v)) ∧
      (∀ cs,
        (∀ token ∈ tokens (withoutOrdinals cs), IsShort token) →
          readNatural context.clock context.dayFirst
              (withoutOrdinals cs) ≠
            .error .inexactFraction) ∧
      ∀ field r v, r.get field = .ok v → ∀ options format,
        (∀ rule : DateRule,
          ReturnsIff (rule.check context options field format) r
            (rule.CanJudge context v)) ∧
          ReturnsIff (DateRule.format context options field format) r
            (v.isEmpty = false → CanRead context v) := by
  refine ⟨fun v => ⟨?_, ?_⟩, ?_, ?_⟩
  · exact exists_parse_iff hClock v
  · exact exists_parseRelative_iff context v
  · intro cs hShort
    exact readNatural_exact hShort context.clock context.dayFirst
  · intro field r v hGet options format
    exact ⟨check_returnsIff hClock hGet, format_returnsIff hClock hGet⟩

/-
  A text with an offset of a day makes the rule for dates fail, and
  one with an offset of an hour less is a date.
-/
theorem offset_of_a_day_fails :
    ∃ context : Context,
      context.IsInside ∧
        parse context (.text "2024-03-15T10:30:00+24:00") =
          .error .offsetTooWide ∧
        (∀ r : Record,
          r.get "due" = .ok (.text "2024-03-15T10:30:00+24:00") →
            ∃ failure,
              (anyDate.check context {} "due" none).outcome r =
                (.error failure, r)) ∧
        ∀ r : Record,
          r.get "due" = .ok (.text "2024-03-15T10:30:00+23:00") →
            ∃ valid s,
              (anyDate.check context {} "due" none).outcome r =
                (.ok valid, s) := by
  let context : Context :=
    ⟨.midnight ⟨2024, 1, 1, by decide⟩, false, "US"⟩
  have hClock : context.IsInside := by
    constructor
    · decide +kernel
    · decide +kernel
  have hWide :
      parse context (.text "2024-03-15T10:30:00+24:00") =
        .error .offsetTooWide := by
    decide +kernel
  have hNarrow :
      parse context (.text "2024-03-15T10:30:00+23:00") =
        .ok (some
          ⟨⟨2024, 3, 14, by decide⟩, ⟨11, 30, 0, 0, by decide⟩⟩) := by
    decide +kernel
  have hRelative :
      parseRelative context (.text "2024-03-15T10:30:00+23:00") =
        .ok none := by
    decide +kernel
  rcases reading_returns_iff hClock with ⟨hValues, -, hRules⟩
  refine ⟨context, hClock, hWide, fun r hGet => ?_, fun r hGet => ?_⟩
  · apply ((hRules "due" r _ hGet {} none).1 anyDate).fails
    intro hCan
    rcases (hValues _).1.mpr (hCan (by decide)).1 with ⟨t, hParse⟩
    rw [hWide] at hParse
    cases hParse
  · apply ((hRules "due" r _ hGet {} none).1 anyDate).returns
    intro _
    exact
      ⟨(hValues _).1.mp ⟨_, hNarrow⟩, (hValues _).2.mp ⟨_, hRelative⟩⟩

end DateRule

end RecordRules
