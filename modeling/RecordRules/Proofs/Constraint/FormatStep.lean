import RecordRules.Proofs.Constraint.Detached
import RecordRules.Proofs.Edit.Returning
import RecordRules.Proofs.Format.Usable

/-
  When the format step of a constraint returns.

  Main declarations:
    * `NumberRule.format_returnsIff` and `TextRule.format_returnsIff`
    * `Constraint.CanFormatNumber` and `Constraint.CanFormatText`
    * `Constraint.format_returns_iff`
-/

namespace RecordRules

open Edit Rule Schema

variable {r : Record} {field s : String}

------------------------------------------------------------
-- Format steps on a text
------------------------------------------------------------

/-
  A text is written as a number unless it is one that the format
  cannot write.
-/
theorem NumberRule.format_returnsIff
    (options : RuleOptions)
    (layout : NumberFormat)
    (hGet : r.get field = .ok (.text s)) :
    ReturnsIff (NumberRule.format options field layout) r
      ((Amount.read? s.toList).isSome = true → layout.IsUsable) := by
  unfold NumberRule.format
  refine .getField_bind hGet ?_
  split
  · rename_i hEmpty
    refine (Returns.pure none).returnsIff ?_
    simp only [Value.isEmpty, beq_iff_eq] at hEmpty
    subst hEmpty
    exact fun hRead => absurd hRead (by decide)
  · have hParse :
        Amount.parse (.text s) = .ok (Amount.read? s.toList) :=
      rfl
    rw [hParse, ofResult_ok_bind]
    cases hRead : Amount.read? s.toList with
    | none =>
        refine (Returns.pure none).returnsIff ?_
        exact fun hSome => absurd hSome (by decide)
    | some x =>
        have hPrint : (Value.text s).print = .ok s.toList := rfl
        rcases exists_changeMessage options
            "Value has been formatted from " hPrint with
          ⟨message, hMessage⟩
        have hRender := NumberFormat.exists_render_iff layout x
        rw [hMessage]
        refine (ReturnsIff.ofResult_bind (q := True) hRender ?_).congr
          (by simp)
        intro text _
        refine Returns.returnsIff ?_ trivial
        refine (noteChange_returns options field message).bind ?_
        intro _
        refine (store_returns options field text).bind ?_
        exact fun _ => .pure _

namespace TextRule

theorem textOf_text (s : String) : textOf (.text s) = .ok s.toList := by
  unfold textOf
  split
  · rename_i hEmpty
    simp only [Value.isEmpty, beq_iff_eq] at hEmpty
    subst hEmpty
    rfl
  · rfl

/- A step that stores a text and gives it always returns. -/
theorem stored_returns
    {α : Type}
    (options : RuleOptions)
    (field : String)
    (text : List Char)
    (a : α) :
    Returns
      (do
        store options field text
        return a) :=
  (store_returns options field text).bind fun _ => .pure a

/- The same where the change is noted first. -/
theorem notedAndStored_returns
    {α : Type}
    (options : RuleOptions)
    (field message : String)
    (text : List Char)
    (a : α) :
    Returns
      (do
        noteChange options field (.ok message)
        store options field text
        return a) :=
  (noteChange_returns options field message).bind fun _ =>
    stored_returns options field text a

/-
  A text is written in a format if the format is usable, and an
  empty one also if it is left alone.
-/
theorem format_returnsIff
    (options : GivenOptions)
    (layout : TextFormat)
    (hGet : r.get field = .ok (.text s)) :
    ReturnsIff (TextRule.format options field layout) r
      (s ≠ "" ∨ options.value.formatOnEmpty = true →
        layout.IsUsable) := by
  unfold TextRule.format
  refine .getField_bind hGet ?_
  have hEmpty : (Value.text s).isEmpty = (s == "") := rfl
  rw [hEmpty, textOf_text]
  split
  · rename_i hAlone
    refine (Returns.pure _).returnsIff ?_
    simp only [Bool.and_eq_true, beq_iff_eq, Bool.not_eq_true']
      at hAlone
    rintro (hSome | hDemand)
    · exact absurd hAlone.1 hSome
    · rw [hAlone.2] at hDemand
      cases hDemand
  · rename_i hWritten
    have hDue : s ≠ "" ∨ options.value.formatOnEmpty = true := by
      simpa [or_iff_not_imp_left] using hWritten
    have hApply := TextFormat.exists_apply_iff layout s.toList
    refine (ReturnsIff.ofResult_bind (q := True) hApply ?_).congr
      (by simp [hDue])
    intro text _
    refine Returns.returnsIff ?_ trivial
    have hStored :=
      stored_returns options.value field text
        (Value.text (String.ofList text))
    refine .whenLinked (fun t hLinked => ?_) hStored
    rcases annotate_returns field hLinked .info
        (messageOr options.value.infoMessage
          "String has been formatted") with
      ⟨_, u, hNote⟩
    rw [outcome_bind_of_ok hNote]
    exact hStored u

/- A text can always be written as a social security number. -/
theorem formatSsn_returnsIff
    (options : RuleOptions)
    (hGet : r.get field = .ok (.text s)) :
    ReturnsIff (formatSsn options field) r True := by
  unfold formatSsn
  refine .getField_bind hGet ?_
  rw [textOf_text, ofResult_ok_bind]
  refine Returns.returnsIff ?_ trivial
  split
  · exact .pure _
  · split
    · exact notedAndStored_returns _ _ _ _ _
    · split
      · exact stored_returns _ _ _ _
      · exact .pure _

/- A text can always be written as a phone number. -/
theorem formatPhone_returnsIff
    (context : Context)
    (options : RuleOptions)
    (style region : Option String)
    (hGet : r.get field = .ok (.text s)) :
    ReturnsIff (formatPhone context options field style region) r
      True := by
  unfold formatPhone
  refine .getField_bind hGet ?_
  rw [textOf_text, ofResult_ok_bind]
  refine Returns.returnsIff ?_ trivial
  split
  · exact .pure _
  · split
    · exact notedAndStored_returns _ _ _ _ _
    · split
      · exact stored_returns _ _ _ _
      · exact .pure _

end TextRule

------------------------------------------------------------
-- Formats of a configuration
------------------------------------------------------------

namespace Constraint

variable {kind : Kind} {given : Value} {c : Constraint}

/- A configuration has a format that its family of rules can read. -/
theorem checkFormat_of_read
    (hRead : read kind given = .accepted c) :
    checkFormat c.validator (c.config.formatOptions.getD []) =
      .accepted () := by
  have hParts := checkParts_of_read hRead
  unfold checkParts at hParts
  split at hParts
  · cases hParts
  · cases hFormat :
        checkFormat c.validator
          (c.config.formatOptions.getD []) with
    | refused problems =>
        rw [hFormat] at hParts
        cases hParts
    | accepted _ => rfl

/- Options that were checked are options that can be read. -/
theorem exists_of_checked
    {α : Type}
    {readOptions : Value → Checked α}
    {options : Entries Value}
    (hNone : ∃ a, readOptions (.object []) = .accepted a)
    (hChecked :
      (if options.isEmpty then
        .accepted ()
      else
        (readOptions (.object options)).map fun _ => ()) =
        .accepted ()) :
    ∃ a, readOptions (.object options) = .accepted a := by
  split at hChecked
  · rename_i hEmpty
    rw [List.isEmpty_iff.mp hEmpty]
    exact hNone
  · cases hRead : readOptions (.object options) with
    | accepted a => exact ⟨a, rfl⟩
    | refused problems =>
        rw [hRead] at hChecked
        cases hChecked

theorem exists_textFormat_of_read
    (hRead : read kind given = .accepted c)
    (hText : c.validator = .text) :
    ∃ layout, TextFormat.read c.formatObject = .accepted layout := by
  have hFormat := checkFormat_of_read hRead
  rw [hText] at hFormat
  exact exists_of_checked ⟨_, rfl⟩ hFormat

theorem exists_numberFormat_of_read
    (hRead : read kind given = .accepted c)
    (hNumber : c.validator = .number) :
    ∃ layout, NumberFormat.read c.formatObject = .accepted layout := by
  have hFormat := checkFormat_of_read hRead
  rw [hNumber] at hFormat
  exact exists_of_checked ⟨_, rfl⟩ hFormat

------------------------------------------------------------
-- Format steps of constraints
------------------------------------------------------------

/-
  Whether a constraint can write a text as a number: the text is
  none, or the decimals of the format are usable.
-/
def CanFormatNumber
    (c : Constraint)
    (s : String) : Prop :=
  (Amount.read? s.toList).isSome = true →
    ∀ layout, NumberFormat.read c.formatObject = .accepted layout →
      layout.value.IsUsable

/-
  Whether a constraint can write a text: its region has a name, and
  the options of the format are usable if they are looked at. They
  are not for phone and social security numbers, and not for an
  empty text that is to stay so.
-/
def CanFormatText
    (c : Constraint)
    (s : String) : Prop :=
  (∃ region,
    TextRule.regionOf c.config.arguments = .ok region) ∧
  (c.textRoute = .plain →
    (s ≠ "" ∨ c.options.value.formatOnEmpty = true) →
      ∀ layout, TextFormat.read c.formatObject = .accepted layout →
        layout.value.IsUsable)

theorem formatText_returnsIff
    (context : Context)
    (layout : Given TextFormat)
    (region : Option String)
    (hGet : r.get field = .ok (.text s)) :
    ReturnsIff (formatText context field layout.value region c) r
      (c.textRoute = .plain →
        (s ≠ "" ∨ c.options.value.formatOnEmpty = true) →
          layout.value.IsUsable) := by
  have hSteps {α : Type} {p : Prop} {m : Edit α}
      (hStep : ReturnsIff m r p) :
      ReturnsIff
        (do
          let _ ← m
          return ())
        r p :=
    hStep.bind fun _ => .pure ()
  unfold formatText
  split
  · rename_i style hRoute
    exact (hSteps (TextRule.formatPhone_returnsIff _ _ _ _ hGet)).congr
      (by simp [hRoute])
  · rename_i hRoute
    exact (hSteps (TextRule.formatSsn_returnsIff _ hGet)).congr
      (by simp [hRoute])
  · rename_i hRoute
    exact (hSteps (TextRule.format_returnsIff _ _ hGet)).congr
      (by simp only [hRoute, true_implies])

/-
  The format step of a constraint that was read from a configuration
  returns on a text exactly where the constraint can format it. Where
  it does not return, the record stays as it is.
-/
theorem format_returns_iff
    (context : Context)
    (hRead : read kind given = .accepted c)
    (hMode : c.config.mode = .format)
    (hGet : r.get field = .ok (.text s)) :
    (c.validator = .number →
      ReturnsIff (c.apply context field) r (c.CanFormatNumber s)) ∧
    (c.validator = .text →
      ReturnsIff (c.apply context field) r (c.CanFormatText s)) := by
  constructor
  · intro hNumber
    rcases exists_numberFormat_of_read hRead hNumber with
      ⟨layout, hLayout⟩
    have hSame :
        ((Amount.read? s.toList).isSome = true →
          layout.value.IsUsable) ↔ c.CanFormatNumber s := by
      simp [CanFormatNumber, hLayout]
    have hStep :=
      NumberRule.format_returnsIff c.options.value layout.value hGet
    simp only [apply, applyNumber, hNumber, hMode, hLayout,
      Checked.toExcept, ofResult_ok_bind]
    exact (hStep.bind fun _ => .pure _).congr hSame
  · intro hText
    rcases exists_textFormat_of_read hRead hText with
      ⟨layout, hLayout⟩
    have hSame :
        (∃ region,
          TextRule.regionOf c.config.arguments = .ok region) ∧
        (c.textRoute = .plain →
          (s ≠ "" ∨ c.options.value.formatOnEmpty = true) →
            layout.value.IsUsable) ↔ c.CanFormatText s := by
      simp [CanFormatText, hLayout]
    simp only [apply, applyText, hText, hMode, hLayout,
      Checked.toExcept, ofResult_ok_bind]
    refine ReturnsIff.congr (.ofResult_bind .rfl ?_) hSame
    intro region _
    exact (formatText_returnsIff context layout region hGet).bind
      fun _ => .pure _

/-
  A configuration may ask for a negative count of decimals, and then
  no number can be written.
-/
theorem negative_decimals_are_accepted :
    ∃ (context : Context) (c : Constraint) (failure : Failure),
      read .modelType
          (.object
            [ ("validator", .text "NumberValidator")
            , ("config", .object
                [ ("type", .text "format")
                , ("format_options",
                    .object [("decimals", .int (-1))]) ]) ]) =
        .accepted c ∧
      (c.apply context "size").outcome
          (.ofValues [("size", .text "12.5")]) =
        (.error failure, .ofValues [("size", .text "12.5")]) := by
  let context : Context :=
    ⟨.midnight ⟨2024, 1, 1, by decide⟩, false, "US"⟩
  let c : Constraint :=
    .mk .number
      { mode := .format
        formatOptions := some [("decimals", .int (-1))] }
  let given : Value :=
    .object
      [ ("validator", .text "NumberValidator")
      , ("config", .object
          [ ("type", .text "format")
          , ("format_options",
              .object [("decimals", .int (-1))]) ]) ]
  have hRead : read .modelType given = .accepted c := rfl
  have hCannot : ¬ c.CanFormatNumber "12.5" := by
    intro hCan
    have hUsable := hCan (by decide +kernel) _ rfl (-1) rfl
    exact absurd hUsable.1 (by decide)
  have hGet :
      (Record.ofValues [("size", .text "12.5")]).get "size" =
        .ok (.text "12.5") :=
    rfl
  rcases
      ((format_returns_iff context hRead rfl hGet).1 rfl).fails
        hCannot with
    ⟨failure, hRun⟩
  exact ⟨context, c, failure, hRead, hRun⟩

end Constraint

end RecordRules
