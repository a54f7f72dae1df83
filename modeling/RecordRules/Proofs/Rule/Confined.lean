import RecordRules.Constraint.Apply
import RecordRules.Proofs.Edit.ConfinedTo

/-
  Every rule, every format and every constraint reaches its own
  field only.

  Main declarations:
    * `DateRule.check_confined` and `DateRule.format_confined`
    * `NumberRule.check_confined` and `NumberRule.format_confined`
    * `TextRule.check_confined` and `TextRule.format_confined`
    * `Constraint.apply_confined`
-/

namespace RecordRules

open Edit

------------------------------------------------------------
-- Reports and formatted values
------------------------------------------------------------

namespace Rule

variable (options : RuleOptions) (field : String)

theorem report_confined
    (present valid : Bool)
    (standard : String) :
    ConfinedTo field
      (report options field present valid standard) := by
  unfold report
  refine .bind .isLinked fun linked => ?_
  split
  · exact .annotate _ _
  · exact .pure _

theorem noteChange_confined
    (message : Except Failure String) :
    ConfinedTo field (noteChange options field message) := by
  unfold noteChange
  refine .bind .isLinked fun linked => ?_
  split
  · exact .bind (.ofResult _) fun _ => .annotate _ _
  · exact .pure _

theorem store_confined
    (text : List Char) :
    ConfinedTo field (store options field text) := by
  unfold store
  refine .bind .isLinked fun linked => ?_
  split
  · exact .setField _
  · exact .pure _

end Rule

open Rule

------------------------------------------------------------
-- Dates
------------------------------------------------------------

namespace DateRule

variable
  (context : Context)
  (options : RuleOptions)
  (field : String)
  (format : Option String)

theorem resolveCompared_confined
    (v : Value) :
    ConfinedTo field
      (resolveCompared context field format v) := by
  unfold resolveCompared
  refine .bind (.ofResult _) fun natural => ?_
  split
  · exact .ofResult _
  · refine .bind (.ofResult _) fun resolved => ?_
    split
    · refine .bind .isLinked fun linked => ?_
      split
      · exact .bind (.setField _) fun _ => .pure _
      · exact .pure _
    · exact .pure _

theorem checkValid_confined :
    ConfinedTo field
      (checkValid context options field format) := by
  unfold checkValid
  refine .bind .getField fun v => ?_
  extract_lets standard rest
  have hRest : ∀ resolved, ConfinedTo field (rest resolved) := by
    intro resolved
    unfold rest
    extract_lets reported
    have hReported : ConfinedTo field (reported ()) :=
      .bind (report_confined ..) fun _ => .pure _
    split
    · exact .bind (.setField _) fun _ => hReported
    · exact hReported
  split
  · exact .bind (.pure _) hRest
  · exact .bind (.ofResult _) hRest

theorem checkBound_confined
    (side : String)
    (holds : Option Instant → Option Instant → Bool)
    (bound : Value) :
    ConfinedTo field
      (checkBound context options field format side holds
        bound) := by
  unfold checkBound
  refine .bind .getField fun v => ?_
  extract_lets rest
  have hRest : ∀ found, ConfinedTo field (rest found) := by
    rintro ⟨limit, valid⟩
    refine .bind (.ofResult _) fun text => ?_
    exact .bind (report_confined ..) fun _ => .pure _
  split
  · exact .bind (.pure _) hRest
  · refine .bind (.ofResult _) fun limit => ?_
    refine .bind (resolveCompared_confined ..) fun input => ?_
    exact .bind (.pure _) hRest

theorem checkBetween_confined
    (start stop : Value) :
    ConfinedTo field
      (checkBetween context options field format start stop) := by
  unfold checkBetween
  refine .bind .getField fun v => ?_
  extract_lets rest
  have hRest : ∀ found, ConfinedTo field (rest found) := by
    rintro ⟨low, high, valid⟩
    refine .bind (.ofResult _) fun lowText => ?_
    refine .bind (.ofResult _) fun highText => ?_
    exact .bind (report_confined ..) fun _ => .pure _
  split
  · exact .bind (.pure _) hRest
  · refine .bind (.ofResult _) fun low => ?_
    refine .bind (.ofResult _) fun high => ?_
    refine .bind (resolveCompared_confined ..) fun input => ?_
    exact .bind (.pure _) hRest

theorem check_confined
    (rule : DateRule) :
    ConfinedTo field (rule.check context options field format) := by
  cases rule with
  | anyDate => exact checkValid_confined ..
  | before bound => exact checkBound_confined ..
  | after bound => exact checkBound_confined ..
  | between start stop => exact checkBetween_confined ..

theorem format_confined :
    ConfinedTo field
      (DateRule.format context options field format) := by
  unfold DateRule.format
  refine .bind .getField fun v => ?_
  split
  · exact .pure _
  · refine .bind (.ofResult _) fun resolved => ?_
    split
    · exact .pure _
    · refine .bind (noteChange_confined ..) fun _ => ?_
      exact .bind (store_confined ..) fun _ => .pure _

theorem evaluate_confined
    (rule : DateRule) :
    ConfinedTo field
      (rule.evaluate context options field format) := by
  unfold evaluate
  refine .bind (check_confined ..) fun valid => ?_
  split
  · exact .bind (format_confined ..) fun _ => .pure _
  · exact .pure _

end DateRule

------------------------------------------------------------
-- Numbers
------------------------------------------------------------

namespace NumberRule

variable (options : RuleOptions) (field : String)

theorem check_confined
    (rule : NumberRule) :
    ConfinedTo field (rule.check options field) := by
  unfold check
  refine .bind (.ofResult _) fun standard => ?_
  refine .bind .getField fun v => ?_
  extract_lets rest
  have hRest : ∀ valid, ConfinedTo field (rest valid) := by
    intro valid
    exact .bind (report_confined ..) fun _ => .pure _
  split
  · exact .bind (.pure _) hRest
  · refine .bind (.ofResult _) fun number => ?_
    split
    · exact .bind (.ofResult _) hRest
    · exact .bind (.pure _) hRest

theorem format_confined
    (layout : NumberFormat) :
    ConfinedTo field (NumberRule.format options field layout) := by
  unfold NumberRule.format
  refine .bind .getField fun v => ?_
  split
  · exact .pure _
  · refine .bind (.ofResult _) fun number => ?_
    split
    · exact .pure _
    · refine .bind (.ofResult _) fun text => ?_
      refine .bind (noteChange_confined ..) fun _ => ?_
      exact .bind (store_confined ..) fun _ => .pure _

theorem evaluate_confined
    (layout : NumberFormat)
    (rule : NumberRule) :
    ConfinedTo field (rule.evaluate options field layout) := by
  unfold evaluate
  refine .bind (check_confined ..) fun valid => ?_
  split
  · exact .bind (format_confined ..) fun _ => .pure _
  · exact .pure _

end NumberRule

------------------------------------------------------------
-- Texts
------------------------------------------------------------

namespace TextRule

variable (context : Context) (field : String)

theorem check_confined
    (options : RuleOptions)
    (rule : TextRule) :
    ConfinedTo field (rule.check context options field) := by
  unfold check
  refine .bind .getField fun v => ?_
  split
  · exact .pure _
  · refine .bind (.ofResult _) fun cs => ?_
    extract_lets rest
    have hRest : ∀ valid, ConfinedTo field (rest valid) := by
      intro valid
      refine .bind (.ofResult _) fun standard => ?_
      exact .bind (report_confined ..) fun _ => .pure _
    split
    · exact .bind (.pure _) hRest
    · exact .bind (.ofResult _) hRest

theorem format_confined
    (options : GivenOptions)
    (layout : TextFormat) :
    ConfinedTo field (TextRule.format options field layout) := by
  unfold TextRule.format
  refine .bind .getField fun v => ?_
  split
  · exact .pure _
  · refine .bind (.ofResult _) fun cs => ?_
    refine .bind (.ofResult _) fun text => ?_
    extract_lets rest
    have hRest : ConfinedTo field (rest ()) :=
      .bind (store_confined ..) fun _ => .pure _
    refine .bind .isLinked fun linked => ?_
    split
    · exact .bind (.annotate _ _) fun _ => hRest
    · exact hRest

theorem formatSsn_confined
    (options : RuleOptions) :
    ConfinedTo field (formatSsn options field) := by
  unfold formatSsn
  refine .bind .getField fun v => ?_
  refine .bind (.ofResult _) fun cs => ?_
  split
  · exact .pure _
  · split
    · refine .bind (noteChange_confined ..) fun _ => ?_
      exact .bind (store_confined ..) fun _ => .pure _
    · split
      · exact .bind (store_confined ..) fun _ => .pure _
      · exact .pure _

theorem formatPhone_confined
    (options : RuleOptions)
    (style region : Option String) :
    ConfinedTo field
      (formatPhone context options field style region) := by
  unfold formatPhone
  refine .bind .getField fun v => ?_
  refine .bind (.ofResult _) fun cs => ?_
  split
  · exact .pure _
  · split
    · refine .bind (noteChange_confined ..) fun _ => ?_
      exact .bind (store_confined ..) fun _ => .pure _
    · split
      · exact .bind (store_confined ..) fun _ => .pure _
      · exact .pure _

theorem evaluate_confined
    (options : GivenOptions)
    (layout : TextFormat)
    (rule : TextRule) :
    ConfinedTo field
      (rule.evaluate context options field layout) := by
  unfold evaluate
  refine .bind (check_confined ..) fun valid => ?_
  refine .bind .isLinked fun linked => ?_
  split
  · exact .bind (format_confined ..) fun _ => .pure _
  · exact .pure _

theorem evaluateSsn_confined
    (options : RuleOptions) :
    ConfinedTo field (evaluateSsn context options field) := by
  unfold evaluateSsn
  refine .bind (check_confined ..) fun valid => ?_
  split
  · exact .bind (formatSsn_confined ..) fun _ => .pure _
  · exact .pure _

theorem evaluatePhone_confined
    (options : RuleOptions)
    (style region : Option String) :
    ConfinedTo field
      (evaluatePhone context options field style region) := by
  unfold evaluatePhone
  refine .bind (check_confined ..) fun valid => ?_
  split
  · exact .bind (formatPhone_confined ..) fun _ => .pure _
  · exact .pure _

theorem normalizePhone_confined
    (region : String) :
    ConfinedTo field (normalizePhone field region) := by
  unfold normalizePhone
  refine .bind .getField fun v => ?_
  refine .bind (.ofResult _) fun cs => ?_
  split
  · exact .pure _
  · extract_lets number
    split
    · exact .bind (.setField _) fun _ => .pure _
    · refine .bind .isLinked fun linked => ?_
      split
      · exact .bind (.annotate _ _) fun _ => .pure _
      · exact .pure _

end TextRule

------------------------------------------------------------
-- Constraints
------------------------------------------------------------

namespace Constraint

variable (context : Context) (field : String)

theorem applyDate_confined
    (c : Constraint) :
    ConfinedTo field (c.applyDate context field) := by
  unfold applyDate
  extract_lets rule options
  split
  · refine .bind (DateRule.format_confined ..) fun text => ?_
    exact .pure _
  · exact DateRule.check_confined ..
  · exact DateRule.evaluate_confined ..

theorem applyNumber_confined
    (c : Constraint) :
    ConfinedTo field (c.applyNumber field) := by
  unfold applyNumber
  refine .bind (.ofResult _) fun layout => ?_
  extract_lets options
  split
  · refine .bind (NumberRule.format_confined ..) fun text => ?_
    exact .pure _
  · refine .bind (.ofResult _) fun rule => ?_
    split
    · exact NumberRule.check_confined ..
    · exact NumberRule.evaluate_confined ..

theorem formatText_confined
    (layout : TextFormat)
    (region : Option String)
    (c : Constraint) :
    ConfinedTo field
      (formatText context field layout region c) := by
  unfold formatText
  split
  · exact .bind (TextRule.formatPhone_confined ..) fun _ => .pure _
  · exact .bind (TextRule.formatSsn_confined ..) fun _ => .pure _
  · exact .bind (TextRule.format_confined ..) fun _ => .pure _

theorem evaluateText_confined
    (layout : TextFormat)
    (region : Option String)
    (c : Constraint) :
    ConfinedTo field
      (evaluateText context field layout region c) := by
  unfold evaluateText
  split
  · exact TextRule.evaluatePhone_confined ..
  · exact TextRule.evaluateSsn_confined ..
  · refine .bind (.ofResult _) fun rule => ?_
    exact TextRule.evaluate_confined ..

theorem applyText_confined
    (c : Constraint) :
    ConfinedTo field (c.applyText context field) := by
  unfold applyText
  refine .bind (.ofResult _) fun layout => ?_
  refine .bind (.ofResult _) fun region => ?_
  split
  · exact TextRule.normalizePhone_confined ..
  · exact .bind (formatText_confined ..) fun _ => .pure _
  · refine .bind (.ofResult _) fun rule => ?_
    exact TextRule.check_confined ..
  · exact evaluateText_confined ..

/- A constraint reaches no field but its own. -/
theorem apply_confined
    (c : Constraint) :
    ConfinedTo field (c.apply context field) := by
  unfold apply
  cases c.validator with
  | date => exact applyDate_confined ..
  | text => exact applyText_confined ..
  | number => exact applyNumber_confined ..

/- So do all the constraints of a field, one after another. -/
theorem applyEach_confined
    (constraints : List Constraint) :
    ConfinedTo field (applyEach context field constraints) := by
  induction constraints with
  | nil => exact .pure _
  | cons c rest ih =>
      refine .bind (apply_confined context field c) fun valid => ?_
      exact .bind ih fun others => .pure _

end Constraint

end RecordRules
