import RecordRules.Proofs.Constraint.FormatStep
import RecordRules.Proofs.Phone.ReadBack
import RecordRules.Proofs.Record.Fields

/-
  The import of phone numbers, beside the rule for phone numbers.

  Main declarations:
    * `TextRule.normalizePhone_of_valid` and
      `TextRule.normalizePhone_of_none`
    * `TextRule.check_of_holds` and `TextRule.exists_of_check`, the
      verdict on a text that is there
    * `TextRule.check_phone`
    * `Constraint.HoldsImported`
    * `Constraint.import_agrees`
-/

namespace RecordRules

open Edit Rule Phone

namespace TextRule

variable {r s : Record} {field : String} {v : Value} {cs : List Char}

------------------------------------------------------------
-- Valid numbers
------------------------------------------------------------

/- A number is imported where it is valid. -/
theorem refusal?_of_isValid
    {n : Number}
    (hValid : n.isValid = true) :
    refusal? (some n) = none :=
  (refusal?_eq_none_iff n).mpr
    ⟨Number.isPossible_of_isValid hValid, hValid⟩

/- A text with a valid number is replaced by the compact number. -/
theorem normalizePhone_of_valid
    {name : String}
    {n : Number}
    (hGet : r.get field = .ok v)
    (hText : textOf v = .ok cs)
    (hSome : cs ≠ [])
    (hRead : Number.read? name cs = some n)
    (hValid : n.isValid = true)
    (hSet :
      r.set field (.text (String.ofList (n.render .compact))) =
        .ok s) :
    (normalizePhone field name).outcome r = (.ok true, s) := by
  have hFilled : ¬ cs.isEmpty = true := by
    simpa using hSome
  unfold normalizePhone
  rw [outcome_getField_bind hGet, hText, ofResult_ok_bind,
    if_neg hFilled, hRead]
  dsimp only
  rw [refusal?_of_isValid hValid]
  dsimp only
  rw [outcome_bind, outcome_setField, hSet]
  rfl

/- A text without a valid number is left, and that may be reported. -/
theorem normalizePhone_of_none
    {name : String}
    (hGet : r.get field = .ok v)
    (hText : textOf v = .ok cs)
    (hSome : cs ≠ [])
    (hNone : (Number.read? name cs).filter (·.isValid) = none) :
    ∃ s, (normalizePhone field name).outcome r = (.ok false, s) ∧
      s.values = r.values := by
  have hFilled : ¬ cs.isEmpty = true := by
    simpa using hSome
  have hReport (message : String) :
      ∃ s,
        Edit.outcome
            (do
              if ← isLinked then
                annotate .error field message
              return false)
            r =
          (.ok false, s) ∧
        s.values = r.values := by
    cases r with
    | linked values errors infos => exact ⟨_, rfl, rfl⟩
    | detached cells => exact ⟨_, rfl, rfl⟩
  unfold normalizePhone
  rw [outcome_getField_bind hGet, hText, ofResult_ok_bind,
    if_neg hFilled]
  dsimp only
  split
  · rename_i number hNumber hRefusal
    rw [hNumber] at hRefusal hNone
    have hValid := ((refusal?_eq_none_iff number).mp hRefusal).2
    rw [Option.filter_some, if_pos hValid] at hNone
    cases hNone
  · exact hReport _

------------------------------------------------------------
-- The rule
------------------------------------------------------------

section Check

variable
  {context : Context}
  {options : RuleOptions}
  {rule : TextRule}
  {valid : Bool}
  {standard : String}

/-
  A rule says of a text that is there whether it holds, and leaves the
  record as it is if it does.
-/
theorem check_of_holds
    (context : Context)
    (options : RuleOptions)
    (hRule : rule ≠ present)
    (hGet : r.get field = .ok v)
    (hText : textOf v = .ok cs)
    (hSome : cs ≠ [])
    (hHolds : rule.holds context cs = .ok valid)
    (hMessage : rule.message = .ok standard) :
    ∃ s,
      (rule.check context options field).outcome r = (.ok valid, s) ∧
      (valid = true → s = r) := by
  have hFilled : ¬ cs.isEmpty = true := by
    simpa using hSome
  unfold check
  rw [outcome_getField_bind hGet]
  split
  · exact (hRule rfl).elim
  · rw [hText, ofResult_ok_bind, if_neg hFilled, hHolds,
      ofResult_ok_bind, hMessage]
    dsimp only
    rw [ofResult_ok_bind]
    cases valid with
    | true =>
        refine ⟨r, ?_, fun _ => rfl⟩
        simp only [report, Bool.not_true, Bool.and_false,
          Bool.false_and, Bool.false_eq_true, if_false,
          isLinked_bind_const]
        rfl
    | false =>
        rcases report_returns options field (!cs.isEmpty) false standard
            r with
          ⟨_, s, hReport⟩
        refine ⟨s, ?_, nofun⟩
        rw [outcome_bind_of_ok hReport]
        rfl

/- A good verdict rests on a text that is there and holds. -/
theorem exists_of_check
    (hRule : rule ≠ present)
    (hRun :
      (rule.check context options field).outcome r = (.ok true, s)) :
    s = r ∧
      ∃ v cs, r.get field = .ok v ∧ textOf v = .ok cs ∧ cs ≠ [] ∧
        rule.holds context cs = .ok true := by
  have hSteps := hRun
  unfold check at hSteps
  rcases exists_of_outcome_getField_bind hSteps with ⟨v, hGet, hSteps⟩
  split at hSteps
  · exact (hRule rfl).elim
  · rcases exists_of_outcome_ofResult_bind hSteps with
      ⟨cs, hText, hSteps⟩
    by_cases hSome : cs = []
    · -- the verdict on an absent text is bad
      subst hSome
      rw [List.isEmpty_nil, if_pos rfl, pure_bind] at hSteps
      rcases exists_of_outcome_ofResult_bind hSteps with
        ⟨standard, -, hReport⟩
      rcases exists_of_outcome_bind hReport with ⟨_, u, -, hEnd⟩
      cases hEnd
    · have hFilled : ¬ cs.isEmpty = true := by
        simpa using hSome
      rw [if_neg hFilled] at hSteps
      rcases exists_of_outcome_ofResult_bind hSteps with
        ⟨valid, hHolds, hSteps⟩
      rcases exists_of_outcome_ofResult_bind hSteps with
        ⟨standard, hMessage, -⟩
      rcases check_of_holds context options hRule hGet hText hSome
          hHolds hMessage with
        ⟨t, hVerdict, hKept⟩
      rw [hRun] at hVerdict
      cases hVerdict
      exact ⟨hKept rfl, v, cs, hGet, hText, hSome, hHolds⟩

end Check

theorem phone_ne_present
    (region : Option String) :
    phone region ≠ present := by
  intro hEq
  cases hEq

/-
  The rule for phone numbers asks for a valid number, and where there
  is one it leaves the record as it is.
-/
theorem check_phone
    (context : Context)
    (options : RuleOptions)
    (region : Option String)
    (hGet : r.get field = .ok v)
    (hText : textOf v = .ok cs)
    (hSome : cs ≠ []) :
    ∃ s,
      ((phone region).check context options field).outcome r =
        (.ok (validPhone? context region cs).isSome, s) ∧
      ((validPhone? context region cs).isSome = true → s = r) :=
  check_of_holds context options (phone_ne_present region) hGet hText
    hSome rfl rfl

end TextRule

------------------------------------------------------------
-- Constraints
------------------------------------------------------------

namespace Constraint

open Schema TextRule

variable
  {kind : Kind}
  {given : Value}
  {c : Constraint}
  {r : Record}
  {field : String}

/- A constraint that imports a number does so in the region it names. -/
theorem apply_eq_normalizePhone
    (context : Context)
    {region : Option String}
    (hRead : read kind given = .accepted c)
    (hMode : c.config.mode = .normalizePhone)
    (hRegion : regionOf c.config.arguments = .ok region) :
    c.apply context field =
      normalizePhone field (messageOr region context.region) := by
  have hValidator := validator_of_read hRead hMode
  rcases exists_textFormat_of_read hRead hValidator with
    ⟨layout, hLayout⟩
  simp only [apply, applyText, hValidator, hMode, hLayout, hRegion,
    Checked.toExcept, ofResult_ok_bind]

/-
  A field holds a valid number in compact form, which the import and
  the rule for phone numbers both accept, whichever region is named,
  and which they leave as it is.
-/
structure HoldsImported
    (field : String)
    (r : Record) : Prop where
  compact :
    ∃ n : Number, n.isValid = true ∧
      r.get field = .ok (.text (String.ofList (n.render .compact)))
  imported :
    ∀ name, (normalizePhone field name).outcome r = (.ok true, r)
  accepted :
    ∀ context options region,
      ((phone region).check context options field).outcome r =
        (.ok true, r)

/- What a valid number is replaced by is imported once and for all. -/
theorem holdsImported_of_set
    {n : Number}
    (hDigits : AreDigits n.digits)
    (hValid : n.isValid = true)
    (hSet :
      r.set field (.text (String.ofList (n.render .compact))) =
        .ok s) :
    HoldsImported field s := by
  have hGet := Record.get_of_set hSet
  have hText :
      textOf (.text (String.ofList (n.render .compact))) =
        .ok (n.render .compact) := by
    rw [textOf_text, String.toList_ofList]
  have hSome : n.render .compact ≠ [] := nofun
  have hAgain := Number.read?_render hDigits hValid
  refine ⟨⟨n, hValid, hGet⟩, fun name => ?_, ?_⟩
  · exact normalizePhone_of_valid hGet hText hSome (hAgain name) hValid
      (Record.set_of_set hSet)
  · intro context options region
    have hFound :
        (validPhone? context region (n.render .compact)).isSome =
          true := by
      have hPlain : { n with extension := none }.isValid = true :=
        hValid
      rw [validPhone?, phoneNumber?, hAgain, Option.filter_some,
        if_pos hPlain]
      rfl
    rcases check_phone context options region hGet hText hSome with
      ⟨t, hRun, hKept⟩
    rw [hFound] at hRun
    rw [hKept hFound] at hRun
    exact hRun

/-
  Where a field holds a text that is not empty, the import of phone
  numbers gives the verdict of the rule for phone numbers in the same
  region. If that is bad, all values stay as they are. If it is good,
  the field then holds what both accept in every region and what a
  further import leaves as it is.
-/
theorem import_agrees
    {region : Option String}
    {v : Value}
    {cs : List Char}
    (context : Context)
    (options : RuleOptions)
    (hRead : read kind given = .accepted c)
    (hMode : c.config.mode = .normalizePhone)
    (hRegion : regionOf c.config.arguments = .ok region)
    (hGet : r.get field = .ok v)
    (hText : textOf v = .ok cs)
    (hSome : cs ≠ []) :
    ∃ valid s t,
      (c.apply context field).outcome r = (.ok valid, s) ∧
      ((phone region).check context options field).outcome r =
        (.ok valid, t) ∧
      (valid = false → s.values = r.values) ∧
      (valid = true → HoldsImported field s) := by
  rcases check_phone context options region hGet hText hSome with
    ⟨t, hCheck, -⟩
  rw [apply_eq_normalizePhone context hRead hMode hRegion]
  cases hValid : validPhone? context region cs with
  | none =>
      rcases normalizePhone_of_none hGet hText hSome hValid with
        ⟨s, hRun, hKept⟩
      rw [hValid] at hCheck
      exact ⟨false, s, t, hRun, hCheck, fun _ => hKept, nofun⟩
  | some n =>
      rcases Option.filter_eq_some_iff.mp hValid with ⟨hNumber, hGood⟩
      have hThere : v ≠ .null := by
        rintro rfl
        cases hText
        exact hSome rfl
      rcases Record.exists_set_of_get hGet hThere
          (.text (String.ofList (n.render .compact))) with
        ⟨s, hSet⟩
      have hRun :=
        normalizePhone_of_valid hGet hText hSome hNumber hGood hSet
      have hImported :=
        holdsImported_of_set (Number.areDigits_of_read? hNumber) hGood
          hSet
      rw [hValid] at hCheck
      exact ⟨true, s, t, hRun, hCheck, nofun, fun _ => hImported⟩

/- A number as it is written in its country is imported. -/
theorem national_number_is_imported :
    ∃ (context : Context) (c : Constraint) (s : Record),
      read .modelType
          (.object
            [ ("validator", .text "StringValidator")
            , ("config", .object
                [ ("type", .text "normalizePhone")
                , ("validation_args",
                    .object [("region", .text "gb")]) ]) ]) =
        .accepted c ∧
      (c.apply context "phone").outcome
          (.ofValues [("phone", .text "020 7946 0018")]) =
        (.ok true, s) ∧
      HoldsImported "phone" s := by
  let context : Context :=
    ⟨.midnight ⟨2024, 1, 1, by decide⟩, false, "US"⟩
  let c : Constraint :=
    .mk .text
      { mode := .normalizePhone
        arguments := .object [("region", .text "gb")] }
  let given : Value :=
    .object
      [ ("validator", .text "StringValidator")
      , ("config", .object
          [ ("type", .text "normalizePhone")
          , ("validation_args",
              .object [("region", .text "gb")]) ]) ]
  let r : Record := .ofValues [("phone", .text "020 7946 0018")]
  have hRead : read .modelType given = .accepted c := rfl
  have hRegion : regionOf c.config.arguments = .ok (some "GB") := by
    rfl
  have hGet : r.get "phone" = .ok (.text "020 7946 0018") := rfl
  have hFound :
      (validPhone? context (some "GB") "020 7946 0018".toList).isSome =
        true := by
    decide +kernel
  rcases
      import_agrees context {} hRead rfl hRegion hGet (textOf_text _)
        (by decide) with
    ⟨valid, s, t, hRun, hCheck, -, hImported⟩
  rcases check_phone context {} (some "GB") hGet (textOf_text _)
      (by decide) with
    ⟨u, hVerdict, -⟩
  rw [hFound, hCheck] at hVerdict
  cases hVerdict
  exact ⟨context, c, s, hRead, hRun, hImported rfl⟩

end Constraint

end RecordRules
