import RecordRules.Proofs.Edit.Permission
import RecordRules.Proofs.Numeric.IntegerText
import RecordRules.Proofs.Rule.Rewriting

/-
  What every rule and every format may do to a record.

  Main declarations:
    * `RuleOptions.reports`, when a verdict is an error
    * `DateRule.MayWrite`, when a verdict on a date writes it
    * `DateRule.check_acts` and `DateRule.format_formats`
    * `NumberRule.check_acts` and `NumberRule.format_formats`
    * `TextRule.check_acts` and `TextRule.format_formats`
    * `TextRule.normalizePhone_acts`
-/

namespace RecordRules

open Edit Failure

------------------------------------------------------------
-- Permissions
------------------------------------------------------------

/-
  Whether a verdict is reported: a bad one, if errors are wanted,
  on a value that is present or wanted even if it is not.
-/
def RuleOptions.reports
    (options : RuleOptions)
    (present valid : Bool) : Bool :=
  (present || options.validateOnEmpty) && !valid && options.addError

/- What a verdict may do: report errors, and write if it does. -/
def Edit.Permission.judging (writes : Prop) : Permission :=
  ⟨writes, True, False⟩

/-
  What a format may do: write to a linked record where allowed,
  and note infos under a condition.
-/
def RuleOptions.formatting
    (options : RuleOptions)
    (infos : Prop)
    (linked : Bool) : Permission :=
  ⟨linked = true ∧ options.setRecord = true, False, infos⟩

/- Whether changes are noted. -/
def RuleOptions.NotesChanges (options : RuleOptions) : Prop :=
  options.addInfo = true ∧ options.setRecord = true

------------------------------------------------------------
-- Reports and formatted values
------------------------------------------------------------

namespace Rule

variable
  {linked : Bool}
  {p : Permission}
  (options : RuleOptions)
  (field : String)

theorem report_respects
    (present valid : Bool)
    (standard : String)
    (hErrors : p.errors) :
    Respects linked p
      (report options field present valid standard) := by
  unfold report
  refine .isLinked_bind ?_
  cases linked with
  | true =>
      split
      · exact .annotate _ _ (fun _ => hErrors) nofun
      · exact .pure _
  | false =>
      rw [Bool.and_false, if_neg Bool.false_ne_true]
      exact .pure _

theorem noteChange_respects
    {message : Except Failure String}
    (hMessage : Noteless message)
    (hInfos : options.NotesChanges → p.infos) :
    Respects linked p (noteChange options field message) := by
  unfold noteChange
  refine .isLinked_bind ?_
  cases linked with
  | true =>
      split
      · rename_i hWanted
        have hNotes : options.NotesChanges := by
          simpa [RuleOptions.NotesChanges] using hWanted
        refine .ofResult_bind hMessage fun text _ => ?_
        exact .annotate _ _ nofun fun _ => hInfos hNotes
      · exact .pure _
  | false =>
      rw [Bool.and_false, if_neg Bool.false_ne_true]
      exact .pure _

theorem store_respects
    (text : List Char)
    (hWrites : linked = true ∧ options.setRecord = true → p.writes) :
    Respects linked p (store options field text) := by
  unfold store
  refine .isLinked_bind ?_
  split
  · rename_i hWanted
    rw [Bool.and_eq_true] at hWanted
    exact .setField _ _ (hWrites hWanted.symm)
  · exact .pure _

/- A formatted text that is stored where that is allowed. -/
theorem store_quiet
    {α : Type}
    (infos : Prop)
    (text : List Char)
    (a : α) :
    Quiet (options.formatting infos)
      (do
        store options field text
        return a) :=
  .bind (fun _ => store_respects options field text id) (.pure a)

/- A change that is noted, and then stored. -/
theorem noteAndStore_quiet
    {α : Type}
    {message : Except Failure String}
    (hMessage : Noteless message)
    (text : List Char)
    (a : α) :
    Quiet (options.formatting options.NotesChanges)
      (do
        noteChange options field message
        store options field text
        return a) :=
  .bind (fun _ => noteChange_respects options field hMessage id)
    (store_quiet options field _ text a)

/- A report adds one error to a linked record, or none. -/
theorem errors_of_report
    {r s : Record}
    {present valid : Bool}
    {standard : String}
    (hLinked : r.isLinked = true)
    (hRun :
      (report options field present valid standard).outcome r =
        (.ok (), s)) :
    ∃ message,
      s.errors =
        if options.reports present valid then
          Record.withMessage r.errors field message
        else
          r.errors := by
  rcases Record.exists_of_isLinked hLinked with
    ⟨values, errors, infos, rfl⟩
  unfold report at hRun
  rw [outcome_bind_of_ok (outcome_isLinked _)] at hRun
  simp only [Record.isLinked, Bool.and_true] at hRun
  refine ⟨messageOr options.errorMessage standard, ?_⟩
  unfold RuleOptions.reports
  split at hRun
  · rename_i hWanted
    rw [if_pos hWanted]
    cases hRun
    rfl
  · rename_i hWanted
    rw [if_neg hWanted]
    cases hRun
    rfl

/- A verdict that is reported and given. -/
theorem report_judges
    {p : Bool → Permission}
    (present valid : Bool)
    (standard : String)
    (hErrors : ∀ linked, (p linked).errors) :
    Judges field (options.reports present) p
      (do
        report options field present valid standard
        return valid) where
  respects := fun linked =>
    (report_respects options field _ _ _ (hErrors linked)).bind
      fun _ => .pure _
  settled := (Settled.unit _).bind fun _ => .pure valid
  errors_eq := by
    intro r given s hLinked hRun
    rcases exists_of_outcome_bind hRun with ⟨_, t, hReport, hEnd⟩
    cases hEnd
    exact errors_of_report options field hLinked hReport

end Rule

open Rule

------------------------------------------------------------
-- Dates
------------------------------------------------------------

namespace DateRule

/-
  Whether the verdict of a rule writes the value: any date, where
  dates are all that is asked for, and else on linked records a
  relative date that is no natural one, if there is a format.
-/
def MayWrite
    (context : Context)
    (format : Option String)
    (v : Value)
    (linked : Bool) : DateRule → Prop
  | anyDate =>
    v.isEmpty = false ∧
      ∃ t, Date.resolveValue context v = .ok (some t)
  | _ =>
    linked = true ∧ v.isEmpty = false ∧
      WritesCompared context format v ∧
      ∃ t, Date.parseRelative context v = .ok (some t)

variable
  (context : Context)
  (options : RuleOptions)
  (field : String)
  (format : Option String)

theorem resolveCompared_respects
    {linked : Bool}
    {p : Permission}
    (v : Value)
    (hWrites :
      linked = true → WritesCompared context format v →
        (∃ t, Date.parseRelative context v = .ok (some t)) →
        p.writes) :
    Respects linked p
      (resolveCompared context field format v) := by
  unfold resolveCompared
  refine .ofResult_bind (Date.isDate_noteless context v) ?_
  intro natural hNatural
  split
  · exact .ofResult (Date.parse_noteless context v)
  · rename_i hNot
    refine .ofResult_bind (Date.parseRelative_noteless context v) ?_
    intro resolved hResolved
    split
    · rename_i t pattern hFormat
      refine .isLinked_bind ?_
      split
      · rename_i hLinked
        refine .bind (.setField _ _ (hWrites hLinked ?_ ⟨t, hResolved⟩))
          fun _ => .pure _
        refine ⟨by rw [hFormat]; rfl, ?_⟩
        rw [hNatural, Bool.eq_false_iff.mpr hNot]
      · exact .pure _
    · exact .pure _

theorem resolveCompared_settled
    (v : Value) :
    Settled (resolveCompared context field format v) := by
  unfold resolveCompared
  refine (Settled.ofResult _).bind fun natural => ?_
  split
  · exact .ofResult _
  · refine (Settled.ofResult _).bind fun resolved => ?_
    split
    · rename_i t _ _
      apply Gives.settled (a := some t)
      refine .bind fun linked => ?_
      split
      · exact .bind fun _ => .pure _
      · exact .pure _
    · exact .pure _

/-
  A verdict on the date to be compared, which is written first if it
  is a relative one. All rules that compare may write the same.
-/
theorem compared_judges
    {reports : Bool → Bool}
    {v : Value}
    {f : Option Instant → Edit Bool}
    (hSome : v.isEmpty = false)
    (hRest :
      ∀ input,
        Judges field reports
          (fun linked =>
            .judging ((before v).MayWrite context format v linked))
          (f input)) :
    Judges field reports
      (fun linked =>
        .judging ((before v).MayWrite context format v linked))
      (resolveCompared context field format v >>= f) := by
  have hSettled := resolveCompared_settled context field format v
  refine .bind (fun linked => ?_) hSettled hRest
  apply resolveCompared_respects
  intro hLinked hCompared hRelative
  exact ⟨hLinked, hSome, hCompared, hRelative⟩

theorem checkValid_acts :
    Acts field (fun v => options.reports (!v.isEmpty))
      (fun v linked =>
        .judging (anyDate.MayWrite context format v linked))
      (checkValid context options field format) := by
  unfold checkValid
  refine ⟨_, Reads.getField_bind field _, fun v => ?_⟩
  extract_lets standard rest
  have hRest resolved
      (hResolved :
        ∀ t, resolved = some t → ∀ linked,
          anyDate.MayWrite context format v linked) :
      Judges field (options.reports (!v.isEmpty))
        (fun linked =>
          .judging (anyDate.MayWrite context format v linked))
        (rest resolved) := by
    unfold rest
    extract_lets reported
    have hReported :
        Judges field (options.reports (!v.isEmpty))
          (fun linked =>
            .judging (anyDate.MayWrite context format v linked))
          (reported ()) :=
      report_judges options field _ _ _ fun _ => trivial
    split
    · rename_i t
      refine .bind (fun linked => ?_) (.unit _) fun _ => hReported
      exact .setField _ _ (hResolved t rfl linked)
    · exact hReported
  split
  · exact hRest none nofun
  · rename_i hSome
    refine .ofResult_bind (Date.resolveValue_noteless context v) ?_
    intro resolved hResolve
    refine hRest resolved fun t hEq linked => ?_
    exact ⟨Bool.eq_false_iff.mpr hSome, t, hEq ▸ hResolve⟩

theorem checkBound_acts
    (side : String)
    (holds : Option Instant → Option Instant → Bool)
    (bound : Value) :
    Acts field (fun v => options.reports (!v.isEmpty))
      (fun v linked =>
        .judging ((before bound).MayWrite context format v linked))
      (checkBound context options field format side holds
        bound) := by
  unfold checkBound
  refine ⟨_, Reads.getField_bind field _, fun v => ?_⟩
  extract_lets rest
  have hRest found :
      Judges field (options.reports (!v.isEmpty))
        (fun linked =>
          .judging ((before bound).MayWrite context format v linked))
        (rest found) := by
    refine .ofResult_bind (boundText_noteless _ _ _) fun text _ => ?_
    exact report_judges options field _ _ _ fun _ => trivial
  split
  · exact hRest (none, false)
  · rename_i hSome
    refine .ofResult_bind (Date.resolveBound_noteless _ _) ?_
    intro limit _
    apply compared_judges context field format
      (Bool.eq_false_iff.mpr hSome)
    intro input
    exact hRest (limit, holds input limit)

theorem checkBetween_acts
    (start stop : Value) :
    Acts field (fun v => options.reports (!v.isEmpty))
      (fun v linked =>
        .judging
          ((between start stop).MayWrite context format v linked))
      (checkBetween context options field format start stop) := by
  unfold checkBetween
  refine ⟨_, Reads.getField_bind field _, fun v => ?_⟩
  extract_lets rest
  have hRest found :
      Judges field (options.reports (!v.isEmpty))
        (fun linked =>
          .judging
            ((between start stop).MayWrite context format v linked))
        (rest found) := by
    refine .ofResult_bind (boundText_noteless _ _ _) fun lowText _ => ?_
    refine .ofResult_bind (boundText_noteless _ _ _) fun highText _ => ?_
    exact report_judges options field _ _ _ fun _ => trivial
  split
  · exact hRest (none, none, false)
  · rename_i hSome
    refine .ofResult_bind (Date.resolveBound_noteless _ _) ?_
    intro low _
    refine .ofResult_bind (Date.resolveBound_noteless _ _) ?_
    intro high _
    apply compared_judges context field format
      (Bool.eq_false_iff.mpr hSome)
    intro input
    exact
      hRest (low, high, comesBefore low input && comesBefore input high)

theorem check_acts
    (rule : DateRule) :
    Acts field (fun v => options.reports (!v.isEmpty))
      (fun v linked =>
        .judging (rule.MayWrite context format v linked))
      (rule.check context options field format) := by
  cases rule with
  | anyDate => exact checkValid_acts ..
  | before bound => exact checkBound_acts ..
  | after bound => exact checkBound_acts ..
  | between start stop => exact checkBetween_acts ..

theorem format_formats :
    Formats field (options.formatting options.NotesChanges)
      (DateRule.format context options field format) := by
  unfold DateRule.format
  refine ⟨_, Reads.getField_bind field _, fun v => ?_⟩
  split
  · exact .pure _
  · refine .ofResult_bind (Date.resolveValue_noteless _ _) ?_
    intro resolved
    split
    · exact .pure _
    · exact noteAndStore_quiet options field
        (changeMessage_noteless _ _ _) _ _

end DateRule

------------------------------------------------------------
-- Numbers
------------------------------------------------------------

namespace NumberRule

variable (options : RuleOptions) (field : String)

theorem check_acts
    (rule : NumberRule) :
    Acts field (fun v => options.reports (!v.isEmpty))
      (fun _ _ => .judging False)
      (rule.check options field) := by
  unfold check
  refine .ofResult_bind (message_noteless rule) fun standard _ => ?_
  refine ⟨_, Reads.getField_bind field _, fun v => ?_⟩
  extract_lets rest
  have hRest valid :
      Judges field (options.reports (!v.isEmpty))
        (fun _ => .judging False) (rest valid) :=
    report_judges options field _ _ _ fun _ => trivial
  split
  · exact hRest false
  · refine .ofResult_bind (Amount.parse_noteless v) fun number _ => ?_
    split
    · refine .ofResult_bind (holds_noteless rule _) fun valid _ => ?_
      exact hRest valid
    · exact hRest false

theorem format_formats
    (layout : NumberFormat) :
    Formats field (options.formatting options.NotesChanges)
      (NumberRule.format options field layout) := by
  unfold NumberRule.format
  refine ⟨_, Reads.getField_bind field _, fun v => ?_⟩
  split
  · exact .pure _
  · refine .ofResult_bind (Amount.parse_noteless v) fun number => ?_
    split
    · exact .pure _
    · refine .ofResult_bind (NumberFormat.render_noteless _ _) ?_
      intro text
      exact noteAndStore_quiet options field
        (changeMessage_noteless _ _ _) _ _

end NumberRule

------------------------------------------------------------
-- Texts of values
------------------------------------------------------------

namespace Value

/- A value that is not absent has a text that is not empty. -/
theorem print_ne_nil
    {v : Value}
    {cs : List Char}
    (hSome : v.isEmpty = false)
    (hPrint : v.print = .ok cs) :
    cs ≠ [] := by
  cases v with
  | null => cases hSome
  | bool b =>
      cases hPrint
      cases b <;> decide
  | int n =>
      simp only [print, quoted, Numeric.printInt] at hPrint
      split at hPrint
      · cases hPrint
      · cases hPrint
        have hDigits := (Text.natDigits_isNumeral n.natAbs).1
        unfold Text.intDigits
        split
        · exact List.cons_ne_nil _ _
        · exact hDigits
  | float x =>
      cases hPrint
      rcases Numeric.exists_mark_of_shortText false x with
        ⟨c, hMember, -⟩
      exact List.ne_nil_of_mem hMember
  | text s =>
      cases hPrint
      intro hNil
      have hEmpty : s = "" := String.toList_eq_nil_iff.mp hNil
      simp [isEmpty, hEmpty] at hSome
  | stamp s =>
      cases hPrint
      simp [Stamp.isoText, Instant.isoText]
  | day d =>
      cases hPrint
      simp [Day.isoText]
  | list items =>
      simp only [print, quoted] at hPrint
      rcases exists_of_bind hPrint with ⟨texts, -, hText⟩
      cases hText
      exact List.cons_ne_nil _ _
  | object entries =>
      simp only [print, quoted] at hPrint
      rcases exists_of_bind hPrint with ⟨texts, -, hText⟩
      cases hText
      exact List.cons_ne_nil _ _

end Value

theorem TextRule.isEmpty_of_textOf
    {v : Value}
    {cs : List Char}
    (hText : TextRule.textOf v = .ok cs) :
    cs.isEmpty = v.isEmpty := by
  unfold textOf at hText
  cases hEmpty : v.isEmpty with
  | true =>
      rw [hEmpty, if_pos rfl] at hText
      cases hText
      rfl
  | false =>
      rw [hEmpty, if_neg Bool.false_ne_true] at hText
      exact List.isEmpty_eq_false_iff.mpr
        (Value.print_ne_nil hEmpty hText)

------------------------------------------------------------
-- Texts
------------------------------------------------------------

namespace TextRule

variable (context : Context) (field : String)

/-
  Whether the verdict of a rule is reported. That a value is there
  never is.
-/
def reports
    (options : RuleOptions)
    (rule : TextRule)
    (v : Value)
    (valid : Bool) : Bool :=
  match rule with
  | present => false
  | _ => options.reports (!v.isEmpty) valid

theorem reports_of_ne
    {options : RuleOptions}
    {rule : TextRule}
    {v : Value}
    (hRule : rule ≠ present) :
    rule.reports options v = options.reports (!v.isEmpty) := by
  funext valid
  cases rule with
  | present => exact (hRule rfl).elim
  | _ => rfl

theorem check_acts
    (options : RuleOptions)
    (rule : TextRule) :
    Acts field (rule.reports options)
      (fun _ _ => .judging False)
      (rule.check context options field) := by
  unfold check
  refine ⟨_, Reads.getField_bind field _, fun v => ?_⟩
  split
  · exact .of_quiet (.pure _) fun _ _ _ _ => rfl
  · rename_i _ hRule
    rw [reports_of_ne hRule]
    refine .ofResult_bind (textOf_noteless v) fun cs hText => ?_
    rw [← isEmpty_of_textOf hText]
    extract_lets rest
    have hRest valid :
        Judges field (options.reports (!cs.isEmpty))
          (fun _ => .judging False) (rest valid) := by
      refine .ofResult_bind (message_noteless rule) fun text _ => ?_
      exact report_judges options field _ _ _ fun _ => trivial
    split
    · exact hRest false
    · refine .ofResult_bind (holds_noteless context rule cs) ?_
      exact fun valid _ => hRest valid

/- A change that is noted with a text on demand, and then stored. -/
theorem noteText_quiet
    {α : Type}
    (options : GivenOptions)
    (change : String)
    (text : List Char)
    (a : α) :
    Quiet (options.value.formatting (options.notesText = true))
      (do
        if options.notesText && (← isLinked) then
          annotate .info field change
        store options.value field text
        return a) where
  respects := by
    intro linked
    have hStore :=
      (store_quiet options.value field (options.notesText = true)
        text a).respects linked
    refine .isLinked_bind ?_
    split
    · rename_i hNoted
      rw [Bool.and_eq_true] at hNoted
      rcases hNoted with ⟨hNotes, rfl⟩
      exact .bind (.annotate _ _ nofun fun _ => hNotes) fun _ => hStore
    · exact hStore
  settled := by
    apply Gives.settled (a := a)
    refine .bind fun linked => ?_
    split
    · exact .bind fun _ => .bind fun _ => .pure _
    · exact .bind fun _ => .pure _

theorem format_formats
    (options : GivenOptions)
    (layout : TextFormat) :
    Formats field
      (options.value.formatting (options.notesText = true))
      (TextRule.format options field layout) := by
  unfold TextRule.format
  refine ⟨_, Reads.getField_bind field _, fun v => ?_⟩
  split
  · exact .pure _
  · refine .ofResult_bind (textOf_noteless v) fun cs => ?_
    refine .ofResult_bind (TextFormat.apply_noteless _ _) fun text => ?_
    exact noteText_quiet field options _ text _

theorem formatSsn_formats
    (options : RuleOptions) :
    Formats field (options.formatting options.NotesChanges)
      (formatSsn options field) := by
  unfold formatSsn
  refine ⟨_, Reads.getField_bind field _, fun v => ?_⟩
  refine .ofResult_bind (textOf_noteless v) fun cs => ?_
  split
  · exact .pure _
  · split
    · exact noteAndStore_quiet options field (.ok _) _ _
    · split
      · exact store_quiet options field _ _ _
      · exact .pure _

theorem formatPhone_formats
    (options : RuleOptions)
    (style region : Option String) :
    Formats field (options.formatting options.NotesChanges)
      (formatPhone context options field style region) := by
  unfold formatPhone
  refine ⟨_, Reads.getField_bind field _, fun v => ?_⟩
  refine .ofResult_bind (textOf_noteless v) fun cs => ?_
  split
  · exact .pure _
  · split
    · exact noteAndStore_quiet options field (.ok _) _ _
    · split
      · exact store_quiet options field _ _ _
      · exact .pure _

/- Whether the text of a value is a number that can be imported. -/
def IsImported
    (region : String)
    (v : Value) : Prop :=
  ∃ cs number, textOf v = .ok cs ∧
    Phone.Number.read? region cs = some number ∧
    refusal? (some number) = none

theorem refusal?_eq_none_iff
    (number : Phone.Number) :
    refusal? (some number) = none ↔
      number.isPossible = true ∧ number.isValid = true := by
  cases hPossible : number.isPossible <;>
    cases hValid : number.isValid <;>
    simp [refusal?, hPossible, hValid]

/- A bad verdict that is reported whatever the options are. -/
theorem refused_judges
    (reason : Option String)
    (writes : Prop) :
    Judges field (fun valid => !valid) (fun _ => .judging writes)
      (do
        if ← isLinked then
          annotate .error field (reason.getD "")
        return false) where
  respects := by
    intro linked
    refine .isLinked_bind ?_
    cases linked with
    | true =>
        refine .bind (.annotate _ _ (fun _ => trivial) nofun) ?_
        exact fun _ => .pure _
    | false => exact .pure _
  settled := by
    apply Gives.settled (a := false)
    refine .bind fun linked => ?_
    split
    · exact .bind fun _ => .pure _
    · exact .pure _
  errors_eq := by
    intro r valid s hLinked hRun
    rcases Record.exists_of_isLinked hLinked with
      ⟨values, errors, infos, rfl⟩
    cases hRun
    exact ⟨reason.getD "", rfl⟩

theorem normalizePhone_acts
    (region : String) :
    Acts field (fun _ valid => !valid)
      (fun v _ => .judging (IsImported region v))
      (normalizePhone field region) := by
  unfold normalizePhone
  refine ⟨_, Reads.getField_bind field _, fun v => ?_⟩
  refine .ofResult_bind (textOf_noteless v) fun cs hText => ?_
  split
  · refine .of_quiet (.pure _) ?_
    intro r valid s hRun
    cases hRun
    rfl
  · extract_lets number
    split
    · rename_i found hNumber hRefusal
      have hGives :
          Gives
            (do
              setField field
                (.text (String.ofList (found.render .compact)))
              return true)
            true :=
        .bind fun _ => .pure _
      refine .of_quiet ⟨fun linked => ?_, hGives.settled⟩ ?_
      · refine .bind (.setField _ _ ?_) fun _ => .pure _
        exact ⟨cs, found, hText, hNumber, hNumber ▸ hRefusal⟩
      · intro r valid s hRun
        rw [hGives r valid s hRun]
        rfl
    · exact refused_judges ..

end TextRule

end RecordRules
