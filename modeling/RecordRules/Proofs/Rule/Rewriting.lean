import RecordRules.Proofs.Date.Exchange
import RecordRules.Proofs.Record.Fields
import RecordRules.Proofs.Rule.Confined

/-
  What a date field holds after its rule has been evaluated and the
  field formatted.

  Main declarations:
    * `DateRule.patternOf`, the format that is written
    * `DateRule.Rewrites`, whether the verdict already writes
    * `DateRule.ComparesInstant`, what a good verdict on a bound
      rests on
    * `DateRule.get_of_check` and `DateRule.get_of_format`
    * `DateRule.evaluate_keeps_day_iff`
-/

namespace RecordRules

open Edit Rule

------------------------------------------------------------
-- Annotations
------------------------------------------------------------

namespace Rule

variable (options : RuleOptions) (field : String)

theorem report_sameValue
    (present valid : Bool)
    (standard : String) :
    MovesBy (SameValue field)
      (report options field present valid standard) := by
  intro r
  unfold report
  rw [outcome_bind, outcome_isLinked]
  dsimp only
  split
  · exact annotate_sameValue field .error field _ r
  · rfl

/- A formatted text is what the field of a linked record holds. -/
theorem get_store
    {options : RuleOptions}
    {r : Record}
    (hLinked : r.isLinked = true)
    (hSet : options.setRecord = true)
    (field : String)
    (text : List Char) :
    ((store options field text).outcome r).2.get field =
      .ok (.text (String.ofList text)) := by
  rcases Record.exists_of_isLinked hLinked with
    ⟨values, errors, infos, rfl⟩
  unfold store
  rw [outcome_bind_of_ok (outcome_isLinked _)]
  simp only [hSet, Record.isLinked, Bool.and_self, if_true]
  exact Record.get_put values errors infos field _

end Rule

namespace DateRule

------------------------------------------------------------
-- Formats
------------------------------------------------------------

/- The format that a rule writes dates in. -/
def patternOf (format : Option String) : String :=
  (proper? format).getD isoFormat

theorem patternOf_ne_empty
    (format : Option String) :
    patternOf format ≠ "" := by
  unfold patternOf proper?
  cases format with
  | none => decide
  | some text =>
      by_cases hEmpty : text = ""
      · subst hEmpty
        decide
      · simp [Option.filter, hEmpty]

/- A written date is not empty. -/
theorem formatted_ne_nil
    (format : Option String)
    (t : Instant) :
    formatted format t ≠ [] := by
  rcases Date.exists_writing_of_format (patternOf_ne_empty format)
      t.day with
    ⟨w, hText, -⟩
  have hWritten : formatted format t = w.text := hText.symm
  rw [hWritten, Date.Writing.text_eq]
  simp

/- Whether comparing a value writes it: no natural date, a format. -/
def WritesCompared
    (context : Context)
    (format : Option String)
    (v : Value) : Prop :=
  (proper? format).isSome = true ∧
    Date.isDate context v = .ok false

/-
  Whether a good verdict already writes the value: always where any
  date will do, and else where comparing it does.
-/
def Rewrites
    (context : Context)
    (format : Option String)
    (v : Value) : DateRule → Prop
  | anyDate => True
  | _ => WritesCompared context format v

/-
  A record holds an instant in the format if a condition is met,
  and else the value that it held before.
-/
def HoldsIf
    (written : Prop)
    (field : String)
    (format : Option String)
    (t : Instant)
    (v : Value)
    (r : Record) : Prop :=
  (written ∧
      r.get field =
        .ok (.text (String.ofList (formatted format t)))) ∨
    (¬ written ∧ r.get field = .ok v)

------------------------------------------------------------
-- Verdicts
------------------------------------------------------------

variable
  {context : Context}
  {options : RuleOptions}
  {field : String}
  {format : Option String}
  {r s : Record}
  {v : Value}
  {t : Instant}

theorem outcome_getField_of_get
    (hGet : r.get field = .ok v) :
    (getField field).outcome r = (.ok v, r) := by
  rw [outcome_getField, hGet]

/- A verdict that is only reported leaves the field as it is. -/
theorem get_of_report
    {present valid verdict given : Bool}
    {standard : String}
    (hRun :
      (do
        report options field present valid standard
        return verdict : Edit Bool).outcome r =
        (.ok given, s)) :
    given = verdict ∧ s.get field = r.get field := by
  rcases exists_of_outcome_bind hRun with ⟨_, after, hReport, hEnd⟩
  have hKeeps := report_sameValue options field present valid standard r
  rw [hReport] at hKeeps
  rw [outcome_pure] at hEnd
  cases hEnd
  exact ⟨rfl, hKeeps⟩

theorem get_of_checkValid
    (hLinked : r.isLinked = true)
    (hGet : r.get field = .ok v)
    (hSome : v.isEmpty = false)
    (hResolve : Date.resolveValue context v = .ok (some t))
    (hRun :
      (checkValid context options field format).outcome r =
        (.ok true, s)) :
    s.get field =
      .ok (.text (String.ofList (formatted format t))) := by
  rcases Record.exists_of_isLinked hLinked with
    ⟨values, errors, infos, rfl⟩
  unfold checkValid at hRun
  rw [outcome_bind_of_ok (outcome_getField_of_get hGet)] at hRun
  simp only [hSome, hResolve, Bool.false_eq_true, if_false,
    ofResult_ok_bind] at hRun
  rw [outcome_bind_of_ok (outcome_setField_linked ..)] at hRun
  rw [(get_of_report hRun).2]
  exact Record.get_put values errors infos field _

/- A compared value that is an instant is written or left. -/
theorem get_of_resolveCompared
    {u : Instant}
    (hLinked : r.isLinked = true)
    (hGet : r.get field = .ok v)
    (hResolve : Date.resolveValue context v = .ok (some t))
    (hRun :
      (resolveCompared context field format v).outcome r =
        (.ok (some u), s)) :
    HoldsIf (WritesCompared context format v) field format t v s := by
  unfold resolveCompared at hRun
  rcases exists_of_outcome_ofResult_bind hRun with
    ⟨natural, hDate, hCompared⟩
  cases natural with
  | true =>
      simp only [if_true, outcome_ofResult] at hCompared
      rcases Prod.mk.inj hCompared with ⟨-, rfl⟩
      refine .inr ⟨?_, hGet⟩
      rintro ⟨-, hNot⟩
      rw [hDate] at hNot
      cases hNot
  | false =>
      simp only [Bool.false_eq_true, if_false] at hCompared
      rcases exists_of_outcome_ofResult_bind hCompared with
        ⟨resolved, hRelative, hWrite⟩
      cases hFormat : proper? format with
      | none =>
          have hNone : ¬ WritesCompared context format v := by
            rintro ⟨hSome, -⟩
            rw [hFormat] at hSome
            cases hSome
          simp only [hFormat] at hWrite
          cases hWrite
          exact .inr ⟨hNone, hGet⟩
      | some pattern =>
          cases resolved with
          | none => cases hWrite
          | some instant =>
              have hEq : instant = t := by
                simp [Date.resolveValue, hRelative, bind,
                  Except.bind, pure, Except.pure] at hResolve
                exact hResolve
              subst hEq
              rcases Record.exists_of_isLinked hLinked with
                ⟨values, errors, infos, rfl⟩
              have hWritten :
                  formatted format instant =
                    Date.format instant.day (some pattern) := by
                rw [formatted, hFormat]
                rfl
              refine .inl ⟨⟨by rw [hFormat]; rfl, hDate⟩, ?_⟩
              simp only [hFormat] at hWrite
              rw [outcome_bind_of_ok (outcome_isLinked _)] at hWrite
              simp only [Record.isLinked, if_true] at hWrite
              rw [outcome_bind_of_ok (outcome_setField_linked ..)]
                at hWrite
              rcases Prod.mk.inj hWrite with ⟨-, rfl⟩
              rw [hWritten]
              exact Record.get_put values errors infos field _

/-
  A field that holds a value has been compared as an instant, and
  holds at the end what it held after that.
-/
def ComparesInstant
    (context : Context)
    (field : String)
    (format : Option String)
    (r s : Record) : Prop :=
  ∃ v t compared,
    r.get field = .ok v ∧ v.isEmpty = false ∧
      (resolveCompared context field format v).outcome r =
        (.ok (some t), compared) ∧
      s.get field = compared.get field

theorem comparesInstant_of_checkBound
    {side : String}
    {holds : Option Instant → Option Instant → Bool}
    {bound : Value}
    (hNone : ∀ limit, holds none limit = false)
    (hRun :
      (checkBound context options field format side holds
        bound).outcome r = (.ok true, s)) :
    ComparesInstant context field format r s := by
  unfold checkBound at hRun
  rcases exists_of_outcome_getField_bind hRun with ⟨v, hGet, hRun⟩
  cases hEmpty : v.isEmpty with
  | true =>
      simp only [hEmpty, if_true, pure_bind] at hRun
      rcases exists_of_outcome_ofResult_bind hRun with
        ⟨text, -, hReport⟩
      cases (get_of_report hReport).1
  | false =>
      simp only [hEmpty, Bool.false_eq_true, if_false] at hRun
      rcases exists_of_outcome_ofResult_bind hRun with
        ⟨limit, -, hRun⟩
      rcases exists_of_outcome_bind hRun with
        ⟨input, compared, hInput, hRun⟩
      rw [pure_bind] at hRun
      rcases exists_of_outcome_ofResult_bind hRun with
        ⟨text, -, hReport⟩
      rcases get_of_report hReport with ⟨hVerdict, hKeeps⟩
      cases input with
      | none =>
          rw [hNone] at hVerdict
          cases hVerdict
      | some t => exact ⟨v, t, compared, hGet, hEmpty, hInput, hKeeps⟩

theorem comparesInstant_of_checkBetween
    {start stop : Value}
    (hRun :
      (checkBetween context options field format start
        stop).outcome r = (.ok true, s)) :
    ComparesInstant context field format r s := by
  unfold checkBetween at hRun
  rcases exists_of_outcome_getField_bind hRun with ⟨v, hGet, hRun⟩
  cases hEmpty : v.isEmpty with
  | true =>
      simp only [hEmpty, if_true, pure_bind] at hRun
      rcases exists_of_outcome_ofResult_bind hRun with
        ⟨lowText, -, hRun⟩
      rcases exists_of_outcome_ofResult_bind hRun with
        ⟨highText, -, hReport⟩
      cases (get_of_report hReport).1
  | false =>
      simp only [hEmpty, Bool.false_eq_true, if_false] at hRun
      rcases exists_of_outcome_ofResult_bind hRun with ⟨low, -, hRun⟩
      rcases exists_of_outcome_ofResult_bind hRun with
        ⟨high, -, hRun⟩
      rcases exists_of_outcome_bind hRun with
        ⟨input, compared, hInput, hRun⟩
      rw [pure_bind] at hRun
      rcases exists_of_outcome_ofResult_bind hRun with
        ⟨lowText, -, hRun⟩
      rcases exists_of_outcome_ofResult_bind hRun with
        ⟨highText, -, hReport⟩
      rcases get_of_report hReport with ⟨hVerdict, hKeeps⟩
      cases input with
      | none => cases low <;> cases hVerdict
      | some t => exact ⟨v, t, compared, hGet, hEmpty, hInput, hKeeps⟩

/- A rule with a bound compares a field before a good verdict. -/
theorem comparesInstant_of_check
    {rule : DateRule}
    (hRun :
      (rule.check context options field format).outcome r =
        (.ok true, s))
    (hBound : rule ≠ anyDate) :
    ComparesInstant context field format r s := by
  cases rule with
  | anyDate => exact absurd rfl hBound
  | before bound =>
      exact comparesInstant_of_checkBound (fun limit => rfl) hRun
  | after bound =>
      have hNone (limit : Option Instant) :
          comesBefore limit none = false := by
        cases limit <;> rfl
      exact comparesInstant_of_checkBound hNone hRun
  | between start stop => exact comparesInstant_of_checkBetween hRun

/- What has been compared has been written or left. -/
theorem get_of_comparesInstant
    (hLinked : r.isLinked = true)
    (hGet : r.get field = .ok v)
    (hResolve : Date.resolveValue context v = .ok (some t))
    (hCompares : ComparesInstant context field format r s) :
    HoldsIf (WritesCompared context format v) field format t v s := by
  rcases hCompares with ⟨w, u, compared, hHeld, -, hInput, hKeeps⟩
  cases hGet.symm.trans hHeld
  unfold HoldsIf
  rw [hKeeps]
  exact get_of_resolveCompared hLinked hGet hResolve hInput

/- After a good verdict the value has been written or left. -/
theorem get_of_check
    {rule : DateRule}
    (hLinked : r.isLinked = true)
    (hGet : r.get field = .ok v)
    (hSome : v.isEmpty = false)
    (hResolve : Date.resolveValue context v = .ok (some t))
    (hRun :
      (rule.check context options field format).outcome r =
        (.ok true, s)) :
    HoldsIf (rule.Rewrites context format v) field format t v s := by
  cases rule with
  | anyDate =>
      exact
        .inl
          ⟨trivial, get_of_checkValid hLinked hGet hSome hResolve hRun⟩
  | _ =>
      exact
        get_of_comparesInstant hLinked hGet hResolve
          (comparesInstant_of_check hRun nofun)

------------------------------------------------------------
-- Formatting
------------------------------------------------------------

/- Formatting writes the instant that the field is read as. -/
theorem get_of_format
    {resolved : Option Instant}
    {given : Option (List Char)}
    (hLinked : r.isLinked = true)
    (hSet : options.setRecord = true)
    (hGet : r.get field = .ok v)
    (hSome : v.isEmpty = false)
    (hResolve : Date.resolveValue context v = .ok resolved)
    (hRun :
      (DateRule.format context options field format).outcome r =
        (.ok given, s)) :
    s.get field =
      .ok
        (resolved.elim v fun t =>
          .text (String.ofList (formatted format t))) := by
  unfold DateRule.format at hRun
  rw [outcome_bind_of_ok (outcome_getField_of_get hGet)] at hRun
  simp only [hSome, hResolve, Bool.false_eq_true, if_false,
    ofResult_ok_bind] at hRun
  cases resolved with
  | none =>
      rcases Prod.mk.inj hRun with ⟨-, rfl⟩
      exact hGet
  | some t =>
      rcases exists_of_outcome_bind hRun with
        ⟨_, noted, hNote, hStored⟩
      rcases exists_of_outcome_bind hStored with
        ⟨_, after, hStore, hEnd⟩
      rw [outcome_pure] at hEnd
      rcases Prod.mk.inj hEnd with ⟨-, rfl⟩
      have hKind :=
        (noteChange_confined options field
          (changeMessage options "Value has been formatted from "
            v)).keeps_isLinked r
      rw [hNote] at hKind
      have hGiven :=
        get_store (hKind.trans hLinked) hSet field
          (formatted format t)
      rw [hStore] at hGiven
      exact hGiven

------------------------------------------------------------
-- Evaluating and formatting
------------------------------------------------------------

theorem exists_check_of_evaluate
    {rule : DateRule}
    (hRun :
      (rule.evaluate context options field format).outcome r =
        (.ok true, s)) :
    ∃ checked given,
      (rule.check context options field format).outcome r =
          (.ok true, checked) ∧
        (DateRule.format context options field format).outcome
            checked =
          (.ok given, s) := by
  unfold evaluate at hRun
  exact outcome_verdict_iff.mp hRun

/-
  What a field holds after a good verdict and the format step: the
  written instant unless the verdict already wrote it and its text
  does not survive.
-/
theorem get_of_evaluate_iff
    {rule : DateRule}
    (hLinked : r.isLinked = true)
    (hSet : options.setRecord = true)
    (hGet : r.get field = .ok v)
    (hSome : v.isEmpty = false)
    (hResolve : Date.resolveValue context v = .ok (some t))
    (hRun :
      (rule.evaluate context options field format).outcome r =
        (.ok true, s)) :
    s.get field =
        .ok (.text (String.ofList (formatted format t))) ↔
      (rule.Rewrites context format v →
        Date.Survives context (patternOf format) t.day) := by
  rcases exists_check_of_evaluate hRun with
    ⟨checked, given, hCheck, hFormat⟩
  have hKind : checked.isLinked = true := by
    have hKeeps :=
      (check_confined context options field format
        rule).keeps_isLinked r
    rw [hCheck] at hKeeps
    exact hKeeps.trans hLinked
  rcases get_of_check hLinked hGet hSome hResolve hCheck with
    ⟨hWritten, hHeld⟩ | ⟨hLeft, hHeld⟩
  · have hText :
        (Value.text (String.ofList (formatted format t))).isEmpty =
          false := by
      have hNotNil := formatted_ne_nil format t
      simpa [Value.isEmpty] using hNotNil
    have hRead :=
      Date.resolveValue_of_format context (patternOf_ne_empty format)
        t.day
    have hAfter := get_of_format hKind hSet hHeld hText hRead hFormat
    have hInj (d : Day) :
        (.text (String.ofList (formatted format (.midnight d))) :
            Value) =
          .text (String.ofList (formatted format t)) ↔
        Date.format d (some (patternOf format)) =
          Date.format t.day (some (patternOf format)) := by
      rw [Value.text.injEq, String.ofList_inj]
      rfl
    rw [hAfter, Date.Survives]
    cases hBack :
        Date.readBack? context (patternOf format) t.day with
    | none =>
        simp only [Option.map_none, Option.elim_none, true_iff]
        intro _ d hDay
        cases hDay
    | some d =>
        simp only [Option.map_some, Option.elim_some, Except.ok.injEq,
          hInj]
        constructor
        · intro hEq _ e hDay
          cases hDay
          exact hEq
        · intro hAll
          exact hAll hWritten d rfl
  · have hAfter := get_of_format hKind hSet hHeld hSome hResolve hFormat
    exact ⟨fun _ hWritten => absurd hWritten hLeft, fun _ => hAfter⟩

/-
  Where a rule that evaluates and formats gives a good verdict, the
  field holds the instant that it was read as, in the format, unless
  the verdict already wrote that text and the text does not survive
  being read back. With a year of four digits written in full it
  does not survive where day and month change places.
-/
theorem evaluate_keeps_day_iff
    {rule : DateRule}
    (hLinked : r.isLinked = true)
    (hSet : options.setRecord = true)
    (hGet : r.get field = .ok v)
    (hSome : v.isEmpty = false)
    (hResolve : Date.resolveValue context v = .ok (some t))
    (hRun :
      (rule.evaluate context options field format).outcome r =
        (.ok true, s)) :
    (s.get field =
          .ok (.text (String.ofList (formatted format t))) ↔
        (rule.Rewrites context format v →
          Date.Survives context (patternOf format) t.day)) ∧
      (1000 ≤ t.day.year →
        .shortYear ∉ Date.componentsOf (patternOf format) →
        (s.get field =
            .ok (.text (String.ofList (formatted format t))) ↔
          ¬ (rule.Rewrites context format v ∧
            Date.Exchanges context.dayFirst
              (Date.componentsOf (patternOf format)) t.day))) := by
  have hKeeps :=
    get_of_evaluate_iff hLinked hSet hGet hSome hResolve hRun
  refine ⟨hKeeps, ?_⟩
  intro hYear hFull
  rw [hKeeps, not_and,
    Date.survives_iff (patternOf_ne_empty format) hYear hFull]

/-
  The fourth of March, in a format with the day in front of the
  month, ends up as the third of April.
-/
theorem evaluate_exchanges_fourth_of_march :
    ∃ context options s,
      context.dayFirst = false ∧ options.setRecord = true ∧
        Date.resolveValue context (.text "2024-03-04") =
          .ok (some (.midnight ⟨2024, 3, 4, by decide⟩)) ∧
        (anyDate.evaluate context options "due"
            (some "dd/mm/yyyy")).outcome
          (.ofValues [("due", .text "2024-03-04")]) =
          (.ok true, s) ∧
        s.get "due" ≠ .ok (.text "04/03/2024") := by
  let context : Context :=
    ⟨.midnight ⟨2024, 1, 1, by decide⟩, false, "US"⟩
  let day : Day := ⟨2024, 3, 4, by decide⟩
  have hFirst :
      Date.resolveValue context (.text "2024-03-04") =
        .ok (some (.midnight day)) :=
    Date.resolveValue_of_readBack? "yyyy-mm-dd" day (by decide)
      (by decide) (by decide)
  have hSecond :
      Date.resolveValue context (.text "04/03/2024") =
        .ok (some (.midnight ⟨2024, 4, 3, by decide⟩)) :=
    Date.resolveValue_of_readBack? "dd/mm/yyyy" day (by decide)
      (by decide) (by decide)
  have hCheck :
      (anyDate.check context {} "due" (some "dd/mm/yyyy")).outcome
          (.ofValues [("due", .text "2024-03-04")]) =
        (.ok true, .ofValues [("due", .text "04/03/2024")]) := by
    have hGet :
        (getField "due").outcome
            (.ofValues [("due", .text "2024-03-04")]) =
          (.ok (.text "2024-03-04"),
            .ofValues [("due", .text "2024-03-04")]) :=
      rfl
    unfold check checkValid
    rw [outcome_bind_of_ok hGet]
    simp only [hFirst]
    decide
  have hFormat :
      (DateRule.format context {} "due" (some "dd/mm/yyyy")).outcome
          (.ofValues [("due", .text "04/03/2024")]) =
        (.ok (some "03/04/2024".toList),
          .ofValues [("due", .text "03/04/2024")]) := by
    have hGet :
        (getField "due").outcome
            (.ofValues [("due", .text "04/03/2024")]) =
          (.ok (.text "04/03/2024"),
            .ofValues [("due", .text "04/03/2024")]) :=
      rfl
    unfold DateRule.format
    rw [outcome_bind_of_ok hGet]
    simp only [hSecond]
    decide
  have hRun :
      (anyDate.evaluate context {} "due" (some "dd/mm/yyyy")).outcome
          (.ofValues [("due", .text "2024-03-04")]) =
        (.ok true, .ofValues [("due", .text "03/04/2024")]) := by
    unfold evaluate
    rw [outcome_bind_of_ok hCheck]
    simp only [Bool.true_or, if_true]
    rw [outcome_bind_of_ok hFormat]
    rfl
  have hKept :=
    (evaluate_keeps_day_iff rfl rfl rfl (by decide) hFirst hRun).2
      (by decide) (by decide)
  have hWritten :
      String.ofList
          (formatted (some "dd/mm/yyyy") (.midnight day)) =
        "04/03/2024" := by
    decide
  rw [hWritten] at hKept
  refine ⟨context, {}, _, rfl, rfl, hFirst, hRun, ?_⟩
  intro hText
  refine hKept.mp hText ⟨trivial, ?_⟩
  refine ⟨by decide, by decide, by decide, by decide⟩

end DateRule

end RecordRules
