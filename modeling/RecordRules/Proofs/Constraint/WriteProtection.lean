import RecordRules.Proofs.Constraint.Detached

/-
  What a constraint leaves alone when it is told not to write to the
  record.

  Main declarations:
    * `Constraint.comparesDates`, and `Date.IsExpression`
    * `Constraint.ImportsNumber`
    * `Constraint.WritesAnyway`, the verdicts that write whatever
      the options say
    * `Constraint.kept_without_setRecord`
-/

namespace RecordRules

open Edit Schema

/-
  Whether a value is there and is a relative expression that is no
  date by itself.
-/
def Date.IsExpression
    (context : Context)
    (v : Value) : Prop :=
  v.isEmpty = false ∧ isDate context v = .ok false ∧
    ∃ t, parseRelative context v = .ok (some t)

namespace DateRule

variable
  {context : Context}
  {format : Option String}
  {type : String}
  {arguments v : Value}
  {linked : Bool}

/- A rule of a type that compares dates writes expressions only. -/
theorem isExpression_of_mayWrite
    (hType : type ∈ typeNames)
    (hWrites :
      (ofArguments (.text type) arguments).MayWrite context format v
        linked) :
    linked = true ∧ (proper? format).isSome = true ∧
      Date.IsExpression context v := by
  simp only [typeNames, List.mem_cons, List.not_mem_nil, or_false]
    at hType
  rcases hType with rfl | rfl | rfl <;>
  · rcases hWrites with ⟨hLinked, hSome, ⟨hFormat, hDate⟩, hRelative⟩
    exact ⟨hLinked, hFormat, hSome, hDate, hRelative⟩

/- Rules of all other types ask for a date only. -/
theorem ofArguments_of_not_mem
    (arguments : Value)
    (hType : type ∉ typeNames) :
    ofArguments (.text type) arguments = anyDate := by
  unfold ofArguments
  split
  · rename_i hEq
    cases hEq
    exact (hType (by decide)).elim
  · rename_i hEq
    cases hEq
    exact (hType (by decide)).elim
  · rename_i hEq
    cases hEq
    exact (hType (by decide)).elim
  · rfl

end DateRule

namespace Constraint

variable
  {context : Context}
  {c : Constraint}
  {v : Value}
  {linked : Bool}

------------------------------------------------------------
-- Verdicts that write whatever the options say
------------------------------------------------------------

/-
  Whether a constraint compares dates: its type is one of those that
  do, and it gives a verdict.
-/
def comparesDates (c : Constraint) : Prop :=
  c.validator = .date ∧
    c.config.ruleType ∈ DateRule.typeNames ∧
    (c.config.mode = .validate ∨ c.config.mode = .evaluateAndFormat)

/- Whether a constraint imports a value, which is a valid number. -/
def ImportsNumber
    (context : Context)
    (c : Constraint)
    (v : Value) : Prop :=
  c.config.mode = .normalizePhone ∧
    ∃ region cs number,
      TextRule.regionOf c.config.arguments = .ok region ∧
      TextRule.textOf v = .ok cs ∧
      Phone.Number.read? (Rule.messageOr region context.region) cs =
        some number ∧
      number.isValid = true

/-
  The three ways in which a verdict writes whatever the options say:
  a valid phone number is imported, a date is asked for and there is
  one, or, on a linked record, a relative expression is compared and
  there is a format for it.
-/
def WritesAnyway
    (context : Context)
    (c : Constraint)
    (v : Value)
    (linked : Bool) : Prop :=
  c.ImportsNumber context v ∨
    (c.asksForDate ∧ Date.IsReadable context v) ∨
    (c.comparesDates ∧ linked = true ∧
      (DateRule.proper? c.config.format).isSome = true ∧
      Date.IsExpression context v)

/- What the rule of a constraint writes, it writes in one of two ways. -/
theorem writesAnyway_of_ruleWrites
    (hMode :
      c.config.mode = .validate ∨ c.config.mode = .evaluateAndFormat)
    (hWrites : c.RuleWrites context v linked) :
    c.WritesAnyway context v linked := by
  rcases c with ⟨validator, config⟩
  cases validator with
  | text | number => exact hWrites.elim
  | date =>
      by_cases hType : config.ruleType ∈ DateRule.typeNames
      · rcases DateRule.isExpression_of_mayWrite hType hWrites with
          ⟨hLinked, hFormat, hExpression⟩
        exact .inr (.inr
          ⟨⟨rfl, hType, hMode⟩, hLinked, hFormat, hExpression⟩)
      · simp only [RuleWrites, ruleType,
          DateRule.ofArguments_of_not_mem _ hType] at hWrites
        exact .inr (.inl ⟨⟨rfl, hType, hMode⟩, hWrites⟩)

/- There is no fourth way in which a verdict writes. -/
theorem writesAnyway_of_verdictWrites
    (hText : c.config.mode = .normalizePhone → c.validator = .text)
    (hWrites : c.VerdictWrites context v linked) :
    c.WritesAnyway context v linked := by
  cases hMode : c.config.mode with
  | format =>
      simp only [VerdictWrites, hMode] at hWrites
  | validate =>
      refine writesAnyway_of_ruleWrites (.inl hMode) ?_
      simpa only [VerdictWrites, hMode] using hWrites
  | evaluateAndFormat =>
      refine writesAnyway_of_ruleWrites (.inr hMode) ?_
      simpa only [VerdictWrites, hMode] using hWrites
  | normalizePhone =>
      simp only [VerdictWrites, hMode, hText hMode] at hWrites
      rcases hWrites with
        ⟨region, hRegion, cs, number, hCs, hNumber, hRefusal⟩
      exact .inl
        ⟨hMode, region, cs, number, hRegion, hCs, hNumber,
          ((TextRule.refusal?_eq_none_iff number).mp hRefusal).2⟩

------------------------------------------------------------
-- Constraints that are told not to write
------------------------------------------------------------

/- A format step that may not write notes only that it is for texts. -/
theorem formatsPlainText_of_notesFormat
    (hSet : c.options.value.setRecord = false)
    (hNotes : c.NotesFormat) :
    c.formatsPlainText = true ∧ c.options.notesText = true := by
  unfold NotesFormat at hNotes
  split at hNotes
  · rename_i hPlain
    exact ⟨hPlain, hNotes⟩
  · rcases hNotes with ⟨-, hRecord⟩
    rw [hSet] at hRecord
    cases hRecord

/- Texts are formatted in two of the modes. -/
theorem mode_of_formats
    (hPlain : c.formatsPlainText = true)
    (hFormats : c.formats = true) :
    c.config.mode = .format ∨ c.config.mode = .evaluateAndFormat := by
  have hText : c.validator = .text := by
    simp only [formatsPlainText, decide_eq_true_eq] at hPlain
    exact hPlain.1
  cases hMode : c.config.mode with
  | format => exact .inl rfl
  | evaluateAndFormat => exact .inr rfl
  | validate | normalizePhone =>
      simp [formats, hText, hMode] at hFormats

/-
  A constraint that is told not to write to the record leaves every
  value as it is, except where its verdict writes anyway, and then
  it writes no other field. The only infos that it adds are those of
  the formatting of plain texts.
-/
theorem kept_without_setRecord
    {kind : Kind}
    {given : Value}
    (context : Context)
    (field : String)
    (hRead : read kind given = .accepted c)
    (hSet : c.options.value.setRecord = false)
    {r s : Record}
    {valid : Bool}
    (hRun : (c.apply context field).outcome r = (.ok valid, s)) :
    r.ChangedAt field s ∧
    (s.values = r.values ∨
      ∃ v, r.get field = .ok v ∧
        c.WritesAnyway context v r.isLinked) ∧
    (s.infos = r.infos ∨
      (c.formatsPlainText = true ∧ c.options.notesText = true ∧
        (c.config.mode = .format ∨
          c.config.mode = .evaluateAndFormat))) := by
  have hChanged := (apply_confined context field c).changedAt r
  rw [hRun] at hChanged
  refine ⟨hChanged, ?_⟩
  rcases apply_acts context field c with ⟨f, hReads, hJudges⟩
  cases hGet : r.get field with
  | error failure =>
      rcases hReads.of_error r failure hGet with ⟨-, cause, hEq, -⟩
      rw [hRun] at hEq
      cases hEq
  | ok v =>
      have hKept := ((hJudges v).respects r.isLinked r rfl).1
      rw [← hReads.of_get r v hGet, hRun] at hKept
      constructor
      · by_cases hWrites : c.VerdictWrites context v r.isLinked
        · exact .inr ⟨v, rfl, writesAnyway_of_verdictWrites
            (validator_of_read hRead) hWrites⟩
        · left
          apply hKept.values_eq
          rintro (hVerdict | ⟨-, -, hRecord⟩)
          · exact hWrites hVerdict
          · rw [hSet] at hRecord
            cases hRecord
      · by_cases hNotes : c.formats = true ∧ c.NotesFormat
        · rcases formatsPlainText_of_notesFormat hSet hNotes.2 with
            ⟨hPlain, hText⟩
          exact .inr ⟨hPlain, hText, mode_of_formats hPlain hNotes.1⟩
        · exact .inl (hKept.infos_eq hNotes)

/-
  A text that is put in capitals for its info only is not replaced.
-/
theorem capitals_are_not_written :
    ∃ (context : Context) (c : Constraint) (s : Record),
      read .modelType
          (.object
            [ ("validator", .text "StringValidator")
            , ("config", .object
                [ ("type", .text "format")
                , ("format_options", .object [("case", .text "upper")])
                , ("options", .object [("set_record", .bool false)])
                ]) ]) =
        .accepted c ∧
      (c.apply context "name").outcome
          (.ofValues [("name", .text "ab")]) =
        (.ok true, s) ∧
      s.values = [("name", .text "ab")] ∧ s.infos ≠ [] := by
  let context : Context :=
    ⟨.midnight ⟨2024, 1, 1, by decide⟩, false, "US"⟩
  let c : Constraint :=
    .mk .text
      { mode := .format
        formatOptions := some [("case", .text "upper")]
        options :=
          some ⟨{ setRecord := false }, ["set_record"]⟩ }
  let r : Record := .ofValues [("name", .text "ab")]
  let given : Value :=
    .object
      [ ("validator", .text "StringValidator")
      , ("config", .object
          [ ("type", .text "format")
          , ("format_options", .object [("case", .text "upper")])
          , ("options", .object [("set_record", .bool false)]) ]) ]
  have hRead : read .modelType given = .accepted c := rfl
  have hRun :
      (c.apply context "name").outcome r =
        (.ok true,
          .linked [("name", .text "ab")] []
            [("name", ["String has been formatted"])]) :=
    rfl
  rcases kept_without_setRecord context "name" hRead rfl hRun with
    ⟨-, hValues | ⟨v, -, hWrites⟩, -⟩
  · exact ⟨context, c, _, hRead, hRun, hValues, by decide⟩
  · rcases hWrites with ⟨hMode, -⟩ | ⟨⟨hDate, -⟩, -⟩ | ⟨⟨hDate, -⟩, -⟩
    · cases hMode
    · cases hDate
    · cases hDate

end Constraint

end RecordRules
