import Mathlib.Tactic.SplitIfs
import RecordRules.Proofs.Rule.Confined

/-
  A constraint that evaluates and formats is its verdict, followed
  by its format step where that is due.

  Main declarations:
    * `Constraint.inMode`, a constraint in another mode
    * `Constraint.formatsAfter`, when the format step is due
    * `Constraint.outcome_evaluateAndFormat`
-/

namespace RecordRules

open Edit

------------------------------------------------------------
-- Modes
------------------------------------------------------------

namespace Constraint

/- A constraint in another mode. -/
def inMode
    (c : Constraint)
    (mode : Mode) : Constraint :=
  { c with config := { c.config with mode } }

@[simp] theorem inMode_mode
    (c : Constraint)
    (mode : Mode) :
    (c.inMode mode).config.mode = mode :=
  rfl

@[simp] theorem inMode_options
    (c : Constraint)
    (mode : Mode) :
    (c.inMode mode).options = c.options :=
  rfl

@[simp] theorem inMode_textRoute
    (c : Constraint)
    (mode : Mode) :
    (c.inMode mode).textRoute = c.textRoute :=
  rfl

@[simp] theorem inMode_ruleType
    (c : Constraint)
    (mode : Mode) :
    (c.inMode mode).ruleType = c.ruleType :=
  rfl

@[simp] theorem inMode_arguments
    (c : Constraint)
    (mode : Mode) :
    (c.inMode mode).config.arguments = c.config.arguments :=
  rfl

@[simp] theorem inMode_formatObject
    (c : Constraint)
    (mode : Mode) :
    (c.inMode mode).formatObject = c.formatObject :=
  rfl

/- Whether a constraint formats neither phone nor security numbers. -/
def formatsPlainText (c : Constraint) : Bool :=
  c.validator = .text ∧ c.textRoute = .plain

/-
  Whether the format step is due after a verdict: after a good one,
  on demand after any, and for plain texts of detached records.
-/
def formatsAfter
    (c : Constraint)
    (linked valid : Bool) : Bool :=
  valid || c.options.value.formatOnError ||
    (c.formatsPlainText && !linked)

/- The format step where it is due, and the verdict before it. -/
def formatDue
    (context : Context)
    (field : String)
    (c : Constraint)
    (valid : Bool) : Edit Bool := do
  if c.formatsAfter (← isLinked) valid then
    let _ ← (c.inMode .format).apply context field
  return valid

------------------------------------------------------------
-- The families of rules
------------------------------------------------------------

variable (context : Context) (field : String) (c : Constraint)

theorem applyDate_evaluateAndFormat :
    (c.inMode .evaluateAndFormat).applyDate context field =
      (do
        let valid ← (c.inMode .validate).applyDate context field
        if valid || c.options.value.formatOnError then
          let _ ← (c.inMode .format).applyDate context field
        return valid) := by
  simp only [applyDate, DateRule.evaluate, inMode_mode,
    inMode_options, bind_assoc, pure_bind]
  rfl

theorem applyNumber_evaluateAndFormat :
    (c.inMode .evaluateAndFormat).applyNumber field =
      (do
        let valid ← (c.inMode .validate).applyNumber field
        if valid || c.options.value.formatOnError then
          let _ ← (c.inMode .format).applyNumber field
        return valid) := by
  simp only [applyNumber, inMode_mode, inMode_options,
    inMode_formatObject, inMode_ruleType, inMode_arguments]
  cases (NumberFormat.read c.formatObject).toExcept with
  | error failure => rfl
  | ok layout =>
      simp only [NumberRule.evaluate, ofResult_ok_bind, bind_assoc,
        pure_bind, reduceCtorEq, if_true, if_false]

/- The rule of a constraint that formats by a style of phone numbers. -/
theorem ofArguments_of_phone
    {style : String}
    {region : Option String}
    (hRoute : c.textRoute = .phone style)
    (hRegion : TextRule.regionOf c.config.arguments = .ok region) :
    TextRule.ofArguments c.ruleType c.config.arguments =
      .ok (.phone region) := by
  have hType : c.config.ruleType = "isPhone" := by
    unfold textRoute at hRoute
    split at hRoute
    · cases hRoute
    · split_ifs at hRoute with hEmpty hPhone
      exact eq_of_beq hPhone
  simp only [ruleType, hType, TextRule.ofArguments, hRegion]
  rfl

/- The rule of a constraint that formats security numbers. -/
theorem ofArguments_of_ssn
    (hRoute : c.textRoute = .ssn) :
    TextRule.ofArguments c.ruleType c.config.arguments =
      .ok .ssn := by
  have hType : c.config.ruleType = "isSSN" := by
    unfold textRoute at hRoute
    split at hRoute
    · cases hRoute
    · split_ifs at hRoute with hEmpty hPhone hSsn
      exact eq_of_beq hSsn
  simp [ruleType, hType, TextRule.ofArguments]

/-
  On a text the format step also follows where the record is
  detached, unless it goes by a style of its own.
-/
theorem applyText_evaluateAndFormat
    (hText : c.validator = .text) :
    (c.inMode .evaluateAndFormat).applyText context field =
      (do
        let valid ← (c.inMode .validate).applyText context field
        if c.formatsAfter (← isLinked) valid then
          let _ ← (c.inMode .format).applyText context field
        return valid) := by
  simp only [applyText, inMode_mode, inMode_options,
    inMode_formatObject, inMode_ruleType, inMode_arguments,
    evaluateText, formatText, inMode_textRoute]
  cases (TextFormat.read c.formatObject).toExcept with
  | error failure => rfl
  | ok layout =>
      cases hRegion : TextRule.regionOf c.config.arguments with
      | error failure => rfl
      | ok region =>
          cases hRoute : c.textRoute with
          | plain =>
              have hPlain : c.formatsPlainText = true := by
                simp [formatsPlainText, hText, hRoute]
              simp only [formatsAfter, hPlain, TextRule.evaluate,
                ofResult_ok_bind, bind_assoc, pure_bind,
                Bool.true_and]
          | phone style =>
              have hPlain : c.formatsPlainText = false := by
                simp [formatsPlainText, hRoute]
              simp only [formatsAfter, hPlain,
                TextRule.evaluatePhone, ofResult_ok_bind,
                ofArguments_of_phone c hRoute hRegion,
                bind_assoc, pure_bind, Bool.false_and,
                Bool.or_false, isLinked_bind_const]
          | ssn =>
              have hPlain : c.formatsPlainText = false := by
                simp [formatsPlainText, hRoute]
              simp only [formatsAfter, hPlain,
                TextRule.evaluateSsn, ofResult_ok_bind,
                ofArguments_of_ssn c hRoute,
                bind_assoc, pure_bind, Bool.false_and,
                Bool.or_false, isLinked_bind_const]

------------------------------------------------------------
-- Whole constraints
------------------------------------------------------------

theorem formatDue_of_not_plain
    (hPlain : c.formatsPlainText = false) :
    formatDue context field c = fun valid =>
      (do
        if valid || c.options.value.formatOnError then
          let _ ← (c.inMode .format).apply context field
        return valid) := by
  funext valid
  simp only [formatDue, formatsAfter, hPlain, Bool.false_and,
    Bool.or_false, isLinked_bind_const]

theorem apply_evaluateAndFormat :
    (c.inMode .evaluateAndFormat).apply context field =
      (c.inMode .validate).apply context field >>=
        formatDue context field c := by
  rcases c with ⟨validator, config⟩
  cases validator with
  | date =>
      rw [formatDue_of_not_plain _ _ _ (by simp [formatsPlainText])]
      exact applyDate_evaluateAndFormat context field _
  | text => exact applyText_evaluateAndFormat context field _ rfl
  | number =>
      rw [formatDue_of_not_plain _ _ _ (by simp [formatsPlainText])]
      exact applyNumber_evaluateAndFormat field _

/-
  A constraint that evaluates and formats fails as its verdict
  does. After a verdict it leaves the record of the verdict, or,
  where the format step is due on a record of this kind, the record
  that the format step makes of that one.
-/
theorem outcome_evaluateAndFormat
    (r : Record) :
    ((c.inMode .evaluateAndFormat).apply context field).outcome r =
      match
        ((c.inMode .validate).apply context field).outcome r with
      | (.error failure, s) => (.error failure, s)
      | (.ok valid, s) =>
        if c.formatsAfter r.isLinked valid then
          match
            ((c.inMode .format).apply context field).outcome s with
          | (.error failure, t) => (.error failure, t)
          | (.ok _, t) => (.ok valid, t)
        else
          (.ok valid, s) := by
  rw [apply_evaluateAndFormat, outcome_bind]
  have hKind :=
    (apply_confined context field (c.inMode .validate)).keeps_isLinked
      r
  rcases hVerdict :
      ((c.inMode .validate).apply context field).outcome r with
    ⟨failure | valid, s⟩
  · rfl
  · rw [hVerdict] at hKind
    change (formatDue context field c valid).outcome s = _
    rw [formatDue, outcome_bind, outcome_isLinked]
    simp only [hKind]
    split
    · rw [outcome_bind]
      rcases hFormat :
          ((c.inMode .format).apply context field).outcome s with
        ⟨failure | passed, t⟩
      · rfl
      · rfl
    · rfl

end Constraint

end RecordRules
