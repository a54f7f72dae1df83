import RecordRules.Proofs.Date.Resolution
import RecordRules.Proofs.Edit.Returning
import RecordRules.Proofs.Rule.Rewriting

/-
  The rules for dates read a value as one and the same instant.

  Main declarations:
    * `Edit.Passes`, steps that do not fail
    * `DateRule.result_resolveCompared`
    * `DateRule.result_checkValid` and `DateRule.result_format`
    * `DateRule.HoldsInstant`, and
      `DateRule.holdsInstant_of_check`
    * `DateRule.expression_means_one_instant`
-/

namespace RecordRules

open Edit Rule

------------------------------------------------------------
-- Steps that do not fail
------------------------------------------------------------

namespace Edit

/- A step does not fail on a record. -/
def Passes
    (m : Edit Unit)
    (r : Record) : Prop :=
  ∃ s, m.outcome r = (.ok (), s)

theorem result_of_passes
    {α : Type}
    {m : Edit Unit}
    {f : Unit → Edit α}
    {r : Record}
    {result : Except Failure α}
    (hPasses : Passes m r)
    (hRest : ∀ s, ((f ()).outcome s).1 = result) :
    ((m >>= f).outcome r).1 = result := by
  rcases hPasses with ⟨s, hFirst⟩
  rw [outcome_bind_of_ok hFirst]
  exact hRest s

theorem Returns.passes
    {m : Edit Unit}
    (hReturns : Returns m)
    (r : Record) :
    Passes m r := by
  rcases hReturns r with ⟨_, s, hRun⟩
  exact ⟨s, hRun⟩

/- A field that holds a value can be written. -/
theorem setField_passes
    {r : Record}
    {field : String}
    {v : Value}
    (hGet : r.get field = .ok v)
    (hSome : v.isEmpty = false)
    (w : Value) :
    Passes (setField field w) r := by
  have hThere : v ≠ .null := by
    rintro rfl
    cases hSome
  rcases Record.exists_set_of_get hGet hThere w with ⟨s, hSet⟩
  rw [Passes, outcome_setField, hSet]
  exact ⟨s, rfl⟩

end Edit

/- What is read as an instant has a text. -/
theorem Date.exists_print_of_resolveValue
    {context : Context}
    {v : Value}
    {t : Instant}
    (hResolve : resolveValue context v = .ok (some t)) :
    ∃ cs, v.print = .ok cs := by
  rcases hPrint : v.print with failure | cs
  · exfalso
    have hNone : relativeOf? v = .error failure := by
      simp only [relativeOf?, hPrint, bind, Except.bind]
    cases v with
    | null => cases hPrint
    | stamp s => cases hPrint
    | day d => cases hPrint
    | _ =>
        simp [resolveValue, parseRelative, hNone, bind, Except.bind]
          at hResolve
  · exact ⟨cs, rfl⟩

namespace DateRule

variable
  (context : Context)
  (options : RuleOptions)
  (field : String)
  (format : Option String)
  {r : Record}
  {v : Value}

------------------------------------------------------------
-- Results
------------------------------------------------------------

/- A compared value is the instant that a bound would be. -/
theorem result_resolveCompared
    (v : Value)
    (r : Record) :
    ((resolveCompared context field format v).outcome r).1 =
      Date.resolveBound context v := by
  rw [Date.resolveBound_eq]
  unfold resolveCompared
  rw [outcome_bind, outcome_ofResult]
  rcases Date.isDate context v with failure | _ | _
  · rfl
  · simp only [Bool.false_eq_true, if_false]
    rw [outcome_bind, outcome_ofResult]
    rcases Date.parseRelative context v with failure | _ | t
    · rfl
    · rfl
    · cases proper? format with
      | none => rfl
      | some pattern =>
          cases r with
          | linked values errors infos => rfl
          | detached cells => rfl
  · rfl

/- A value is a date if it is read as an instant. -/
theorem result_checkValid
    (hGet : r.get field = .ok v)
    (hSome : v.isEmpty = false) :
    ((checkValid context options field format).outcome r).1 =
      (Date.resolveValue context v).map Option.isSome := by
  have hReport (valid : Bool) (standard : String) (s : Record) :
      Passes (report options field true valid standard) s :=
    (report_returns options field true valid standard).passes s
  unfold checkValid
  rw [outcome_bind_of_ok (outcome_getField_of_get hGet)]
  simp only [hSome, Bool.false_eq_true, if_false]
  rcases Date.resolveValue context v with failure | _ | t
  · rfl
  · exact result_of_passes (hReport ..) fun _ => rfl
  · refine result_of_passes (setField_passes hGet hSome _) fun s => ?_
    exact result_of_passes (hReport ..) fun _ => rfl

/- The format step gives the text of the instant. -/
theorem result_format
    (hGet : r.get field = .ok v)
    (hSome : v.isEmpty = false) :
    ((DateRule.format context options field format).outcome r).1 =
      (Date.resolveValue context v).map
        (Option.map (formatted format)) := by
  unfold DateRule.format
  rw [outcome_bind_of_ok (outcome_getField_of_get hGet)]
  simp only [hSome, Bool.false_eq_true, if_false]
  rcases hResolve : Date.resolveValue context v with failure | _ | t
  · rfl
  · rfl
  · rcases Date.exists_print_of_resolveValue hResolve with
      ⟨cs, hPrint⟩
    rcases exists_changeMessage options
        "Value has been formatted from " hPrint with
      ⟨message, hMessage⟩
    rw [hMessage]
    refine
      result_of_passes ((noteChange_returns options field _).passes r)
        fun s => ?_
    exact
      result_of_passes ((store_returns options field _).passes s)
        fun _ => rfl

------------------------------------------------------------
-- Good verdicts
------------------------------------------------------------

section Verdicts

variable
  {context : Context}
  {options : RuleOptions}
  {field : String}
  {format : Option String}
  {r s : Record}

/- A field holds a value that is read as an instant. -/
def HoldsInstant
    (context : Context)
    (field : String)
    (r : Record) : Prop :=
  ∃ v t,
    r.get field = .ok v ∧ v.isEmpty = false ∧
      Date.resolveValue context v = .ok (some t)

/- A value that is compared as an instant is read as that one. -/
theorem resolveValue_of_resolveCompared
    {v : Value}
    {compared : Option Instant}
    (hRun :
      (resolveCompared context field format v).outcome r =
        (.ok compared, s)) :
    Date.resolveValue context v = .ok compared := by
  rw [← Date.resolveBound_eq_resolveValue,
    ← result_resolveCompared context field format v r, hRun]

theorem holdsInstant_of_checkValid
    (hRun :
      (checkValid context options field format).outcome r =
        (.ok true, s)) :
    HoldsInstant context field r := by
  unfold checkValid at hRun
  rcases exists_of_outcome_getField_bind hRun with ⟨v, hGet, hRun⟩
  cases hEmpty : v.isEmpty with
  | true =>
      simp only [hEmpty, if_true, pure_bind] at hRun
      cases (get_of_report hRun).1
  | false =>
      simp only [hEmpty, Bool.false_eq_true, if_false] at hRun
      rcases exists_of_outcome_ofResult_bind hRun with
        ⟨resolved, hResolve, hRun⟩
      cases resolved with
      | none => cases (get_of_report hRun).1
      | some t => exact ⟨v, t, hGet, hEmpty, hResolve⟩

/- A good verdict rests on an instant. -/
theorem holdsInstant_of_check
    {rule : DateRule}
    (hRun :
      (rule.check context options field format).outcome r =
        (.ok true, s)) :
    HoldsInstant context field r := by
  cases rule with
  | anyDate => exact holdsInstant_of_checkValid hRun
  | _ =>
      rcases comparesInstant_of_check hRun nofun with
        ⟨v, t, compared, hGet, hSome, hInput, -⟩
      exact
        ⟨v, t, hGet, hSome, resolveValue_of_resolveCompared hInput⟩

end Verdicts

------------------------------------------------------------
-- One instant everywhere
------------------------------------------------------------

/-
  A date means the same instant, or none, in a field, in a bound and
  in a comparison. So a field with a value is a date just where its
  format gives a text, and one on the right side of a bound is a
  date.
-/
theorem expression_means_one_instant
    (context : Context) :
    (∀ v, Date.resolveBound context v = Date.resolveValue context v) ∧
      (∀ field format v r,
        ((resolveCompared context field format v).outcome r).1 =
          Date.resolveValue context v) ∧
      (∀ field r v, r.get field = .ok v → v.isEmpty = false →
        ∀ options format formatting pattern,
          ((anyDate.check context options field format).outcome
                r).1 = .ok true ↔
            ∃ text,
              ((DateRule.format context formatting field
                    pattern).outcome r).1 = .ok (some text) ∧
                text ≠ []) ∧
      ∀ (rule : DateRule) field r options format,
        ((rule.check context options field format).outcome r).1 =
            .ok true →
          ∀ others pattern,
            ((anyDate.check context others field pattern).outcome
                r).1 = .ok true := by
  refine ⟨Date.resolveBound_eq_resolveValue context, ?_, ?_, ?_⟩
  · intro field format v r
    rw [result_resolveCompared, Date.resolveBound_eq_resolveValue]
  · intro field r v hGet hSome options format formatting pattern
    rw [check, result_checkValid context options field format hGet hSome,
      result_format context formatting field pattern hGet hSome]
    rcases Date.resolveValue context v with failure | _ | t
    · simp [Except.map]
    · simp [Except.map]
    · simp [Except.map, formatted_ne_nil]
  · intro rule field r options format hVerdict others pattern
    rcases hRun : (rule.check context options field format).outcome r
      with ⟨result, s⟩
    rw [hRun] at hVerdict
    cases hVerdict
    rcases holdsInstant_of_check hRun with
      ⟨v, t, hGet, hSome, hResolve⟩
    rw [check, result_checkValid context others field pattern hGet hSome,
      hResolve]
    rfl

/-
  Two months from now comes after the day of the current instant,
  so it is a date, and its format gives a text.
-/
theorem two_months_ahead_is_date :
    ∃ (context : Context) (r : Record) (rule : DateRule),
      r.get "due" = .ok (.text "NOW+2months") ∧
        ((rule.check context {} "due" (some "dd/mm/yyyy")).outcome
            r).1 = .ok true ∧
        ((anyDate.check context {} "due" none).outcome r).1 =
          .ok true ∧
        ∃ text,
          ((DateRule.format context {} "due" none).outcome r).1 =
              .ok (some text) ∧
            text ≠ [] := by
  let today : Day := ⟨2024, 1, 1, by decide⟩
  let context : Context := ⟨.midnight today, false, "US"⟩
  let r : Record := .ofValues [("due", .text "NOW+2months")]
  have hGet : r.get "due" = .ok (.text "NOW+2months") := rfl
  have hAfter :
      (((after (.day today)).check context {} "due"
          (some "dd/mm/yyyy")).outcome r).1 = .ok true := by
    decide
  rcases expression_means_one_instant context with
    ⟨-, -, hFormats, hDates⟩
  have hDate :=
    hDates (after (.day today)) "due" r {} (some "dd/mm/yyyy") hAfter
      {} none
  have hText :=
    (hFormats "due" r _ hGet (by decide) {} none {} none).mp hDate
  exact
    ⟨context, r, after (.day today), hGet, hAfter, hDate, hText⟩

end DateRule

end RecordRules
