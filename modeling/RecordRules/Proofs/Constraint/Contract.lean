import RecordRules.Proofs.Constraint.Evaluation
import RecordRules.Proofs.Rule.Contract

/-
  What a constraint may do to a record, in each of its modes.

  Main declarations:
    * `Constraint.reports`, when a verdict is an error
    * `Constraint.VerdictWrites`, when a verdict writes the value
    * `Constraint.permission`, and `Constraint.apply_acts`
-/

namespace RecordRules

open Edit Failure

------------------------------------------------------------
-- Rules of a type
------------------------------------------------------------

/- The types of rules for texts that ask for more than a value. -/
def TextRule.typeNames : List String :=
  [ "isEmail", "isPhone", "isSSN", "matchesPattern", "hasLength"
  , "min", "max" ]

/- Only rules of these types ask for more than a value. -/
theorem TextRule.eq_present_iff
    {type : String}
    {arguments : Value}
    {rule : TextRule}
    (hRule : TextRule.ofArguments (.text type) arguments = .ok rule) :
    rule = present ↔ type ∉ typeNames := by
  unfold ofArguments at hRule
  split at hRule
  · rename_i hType
    cases hType
    cases hRule
    simp [typeNames]
  · rename_i hType
    cases hType
    rcases exists_of_bind hRule with ⟨region, -, hEq⟩
    cases hEq
    simp [typeNames]
  · rename_i hType
    cases hType
    cases hRule
    simp [typeNames]
  · rename_i hType
    cases hType
    cases hRule
    simp [typeNames]
  · rename_i hType
    cases hType
    rcases exists_of_bind hRule with ⟨least, -, hRest⟩
    rcases exists_of_bind hRest with ⟨most, -, hEq⟩
    cases hEq
    simp [typeNames]
  · rename_i hType
    cases hType
    rcases exists_of_bind hRule with ⟨limit, -, hEq⟩
    cases hEq
    simp [typeNames]
  · rename_i hType
    cases hType
    rcases exists_of_bind hRule with ⟨limit, -, hEq⟩
    cases hEq
    simp [typeNames]
  · cases hRule
    simp_all [typeNames]

namespace Constraint

------------------------------------------------------------
-- Reports and permissions
------------------------------------------------------------

/- Whether a constraint asks for no more than that a value is there. -/
def asksForPresence (c : Constraint) : Bool :=
  c.validator = .text ∧ c.config.ruleType ∉ TextRule.typeNames

/-
  Whether the rule of a constraint reports its verdict on a value.
  That a value is there is never reported.
-/
def ruleReports
    (c : Constraint)
    (v : Value)
    (valid : Bool) : Bool :=
  !c.asksForPresence && c.options.value.reports (!v.isEmpty) valid

/-
  Whether a constraint adds an error after a verdict on a value.
  Formatting never does, and the import of a phone number does after
  every bad verdict.
-/
def reports
    (c : Constraint)
    (v : Value)
    (valid : Bool) : Bool :=
  match c.validator, c.config.mode with
  | _, .format => false
  | .text, .normalizePhone => !valid
  | _, _ => c.ruleReports v valid

/- Whether a constraint has a format step. -/
def formats (c : Constraint) : Bool :=
  match c.validator, c.config.mode with
  | _, .validate | .text, .normalizePhone => false
  | _, _ => true

/- Whether the format step of a constraint notes an info. -/
def NotesFormat (c : Constraint) : Prop :=
  if c.formatsPlainText then
    c.options.notesText = true
  else
    c.options.value.NotesChanges

/- Whether the rule of a constraint writes the value it judges. -/
def RuleWrites
    (context : Context)
    (c : Constraint)
    (v : Value)
    (linked : Bool) : Prop :=
  match c.validator with
  | .date =>
    (DateRule.ofArguments c.ruleType c.config.arguments).MayWrite
      context c.config.format v linked
  | _ => False

/-
  Whether the verdict of a constraint writes the value: a rule for
  dates may, and a phone number that is imported is.
-/
def VerdictWrites
    (context : Context)
    (c : Constraint)
    (v : Value)
    (linked : Bool) : Prop :=
  match c.validator, c.config.mode with
  | _, .format => False
  | .text, .normalizePhone =>
    ∃ region, TextRule.regionOf c.config.arguments = .ok region ∧
      TextRule.IsImported (Rule.messageOr region context.region) v
  | _, _ => c.RuleWrites context v linked

/-
  What a constraint may do to a record of a kind with a value in
  the field.
-/
def permission
    (context : Context)
    (c : Constraint)
    (v : Value)
    (linked : Bool) : Permission where
  writes :=
    c.VerdictWrites context v linked ∨
      c.formats = true ∧ linked = true ∧
        c.options.value.setRecord = true
  errors := c.config.mode ≠ .format
  infos := c.formats = true ∧ c.NotesFormat

------------------------------------------------------------
-- Verdicts
------------------------------------------------------------

variable (context : Context) (field : String) (c : Constraint)

/- The rule of a constraint on a text reports as the type says. -/
theorem ruleReports_of_ofArguments
    {rule : TextRule}
    (hText : c.validator = .text)
    (hRule :
      TextRule.ofArguments c.ruleType c.config.arguments = .ok rule) :
    rule.reports c.options.value = c.ruleReports := by
  have hPresent := TextRule.eq_present_iff hRule
  funext v valid
  by_cases hEq : rule = .present
  · have hType := hPresent.mp hEq
    subst hEq
    simp [ruleReports, asksForPresence, hText, hType,
      TextRule.reports]
  · have hType : c.config.ruleType ∈ TextRule.typeNames := by
      by_contra hNot
      exact hEq (hPresent.mpr hNot)
    rw [TextRule.reports_of_ne hEq]
    simp [ruleReports, asksForPresence, hType]

/- The verdict of a constraint, as its rule gives it. -/
theorem verdict_acts :
    Acts field c.ruleReports
      (fun v linked => .judging (c.RuleWrites context v linked))
      ((c.inMode .validate).apply context field) := by
  rcases c with ⟨validator, config⟩
  cases validator with
  | date => exact DateRule.check_acts ..
  | text =>
      refine .ofResult_bind (Schema.Checked.toExcept_noteless _) ?_
      intro layout _
      refine .ofResult_bind (TextRule.regionOf_noteless _) ?_
      intro region _
      refine .ofResult_bind (TextRule.ofArguments_noteless _ _) ?_
      intro rule hRule
      have hReports :=
        ruleReports_of_ofArguments ⟨.text, config⟩ rfl hRule
      rw [← hReports]
      exact TextRule.check_acts ..
  | number =>
      refine .ofResult_bind (Schema.Checked.toExcept_noteless _) ?_
      intro layout _
      refine .ofResult_bind (NumberRule.ofArguments_noteless _ _) ?_
      intro rule _
      exact NumberRule.check_acts ..

/- The format step of a constraint on a text, in its three ways. -/
theorem formatText_acts
    (layout : TextFormat)
    (region : Option String)
    (hText : c.validator = .text) :
    Acts field (fun _ _ => false)
      (fun _ => c.options.value.formatting c.NotesFormat)
      (do
        formatText context field layout region c
        return true) := by
  cases hRoute : c.textRoute with
  | plain =>
      have hNotes : c.NotesFormat = (c.options.notesText = true) := by
        simp [NotesFormat, formatsPlainText, hText, hRoute]
      simp only [formatText, hRoute, bind_assoc, pure_bind, hNotes]
      exact (TextRule.format_formats ..).acts fun _ => true
  | phone style =>
      have hNotes :
          c.NotesFormat = c.options.value.NotesChanges := by
        simp [NotesFormat, formatsPlainText, hRoute]
      simp only [formatText, hRoute, bind_assoc, pure_bind, hNotes]
      exact (TextRule.formatPhone_formats ..).acts fun _ => true
  | ssn =>
      have hNotes :
          c.NotesFormat = c.options.value.NotesChanges := by
        simp [NotesFormat, formatsPlainText, hRoute]
      simp only [formatText, hRoute, bind_assoc, pure_bind, hNotes]
      exact (TextRule.formatSsn_formats ..).acts fun _ => true

/- The format step of a constraint. -/
theorem format_acts :
    Acts field (fun _ _ => false)
      (fun _ => c.options.value.formatting c.NotesFormat)
      ((c.inMode .format).apply context field) := by
  rcases c with ⟨validator, config⟩
  cases validator with
  | date => exact (DateRule.format_formats ..).acts _
  | text =>
      refine .ofResult_bind (Schema.Checked.toExcept_noteless _) ?_
      intro layout _
      refine .ofResult_bind (TextRule.regionOf_noteless _) ?_
      intro region _
      exact formatText_acts context field ⟨.text, config⟩ _ region rfl
  | number =>
      refine .ofResult_bind (Schema.Checked.toExcept_noteless _) ?_
      intro layout _
      exact (NumberRule.format_formats ..).acts _

------------------------------------------------------------
-- Whole constraints
------------------------------------------------------------

theorem formatDue_gives
    (valid : Bool) :
    Gives (formatDue context field c valid) valid := by
  unfold formatDue
  refine .bind fun linked => ?_
  split
  · exact .bind fun _ => .pure _
  · exact .pure _

theorem evaluateAndFormat_acts :
    Acts field c.ruleReports
      (fun v linked =>
        { writes :=
            c.RuleWrites context v linked ∨
              linked = true ∧ c.options.value.setRecord = true
          errors := True
          infos := c.NotesFormat })
      ((c.inMode .evaluateAndFormat).apply context field) := by
  rw [apply_evaluateAndFormat]
  refine .followed ?_ (fun v linked valid => ?_)
    (formatDue_gives context field c)
  · refine (verdict_acts context field c).mono fun v linked => ?_
    exact ⟨.inl, id, False.elim⟩
  · unfold formatDue
    refine .isLinked_bind ?_
    split
    · refine .bind ?_ fun _ => .pure _
      refine (format_acts context field c).respects fun _ => ?_
      exact ⟨.inr, id, id⟩
    · exact .pure _

/- Only texts are imported as phone numbers; others are evaluated. -/
theorem apply_of_normalizePhone
    (hMode : c.config.mode = .normalizePhone)
    (hText : c.validator ≠ .text) :
    c.apply context field =
      (c.inMode .evaluateAndFormat).apply context field := by
  rcases c with ⟨validator, config⟩
  cases validator with
  | text => exact (hText rfl).elim
  | date | number =>
      simp only at hMode
      simp only [apply, applyDate, applyNumber, hMode, inMode_mode]
      rfl

/-
  What a constraint reports and what it may do to a record rest on
  the value of its field, and so does its verdict.
-/
theorem apply_acts :
    Acts field c.reports (c.permission context)
      (c.apply context field) := by
  -- the two steps together, also where no phone number is imported
  have hBoth
      (hWhole :
        c.apply context field =
          (c.inMode .evaluateAndFormat).apply context field)
      (hReports : c.reports = c.ruleReports)
      (hWithin :
        ∀ v linked,
          (c.RuleWrites context v linked →
            c.VerdictWrites context v linked) ∧
          c.formats = true ∧ c.config.mode ≠ .format) :
      Acts field c.reports (c.permission context)
        (c.apply context field) := by
    rw [hWhole, hReports]
    refine (evaluateAndFormat_acts context field c).mono ?_
    intro v linked
    rcases hWithin v linked with ⟨hVerdict, hFormats, hMode⟩
    exact ⟨.imp hVerdict (⟨hFormats, ·⟩), fun _ => hMode, (⟨hFormats, ·⟩)⟩
  rcases c with ⟨validator, mode, type, format, layout, arguments, options⟩
  cases mode with
  | evaluateAndFormat =>
      cases validator <;>
      exact hBoth rfl rfl fun v linked => ⟨id, rfl, nofun⟩
  | validate =>
      have hVerdict :=
        verdict_acts context field
          ⟨validator, .validate, type, format, layout, arguments,
            options⟩
      cases validator <;>
      exact hVerdict.mono fun v linked =>
        ⟨.inl, fun _ => nofun, False.elim⟩
  | format =>
      have hFormat :=
        format_acts context field
          ⟨validator, .format, type, format, layout, arguments, options⟩
      cases validator <;>
      exact hFormat.mono fun v linked =>
        ⟨fun hWrites => .inr ⟨rfl, hWrites⟩, False.elim,
          fun hNotes => ⟨rfl, hNotes⟩⟩
  | normalizePhone =>
      cases validator with
      | date | number =>
          refine hBoth ?_ rfl fun v linked => ⟨id, rfl, nofun⟩
          exact apply_of_normalizePhone context field _ rfl nofun
      | text =>
          refine .ofResult_bind (Schema.Checked.toExcept_noteless _) ?_
          intro layout _
          refine .ofResult_bind (TextRule.regionOf_noteless _) ?_
          intro region hRegion
          refine (TextRule.normalizePhone_acts ..).mono ?_
          intro v linked
          refine ⟨fun hImported => .inl ⟨region, hRegion, hImported⟩, ?_, ?_⟩
          · exact fun _ => nofun
          · exact False.elim

end Constraint

end RecordRules
