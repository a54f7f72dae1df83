import RecordRules.Proofs.Constraint.PhoneImport

/-
  Phone fields that are evaluated and formatted over again.

  Main declarations:
    * `TextRule.evaluatePhone_of_valid`, a valid number is written
    * `TextRule.exists_of_evaluatePhone`, what a good verdict rests on
    * `TextRule.evaluatePhone_keeps_iff`, the texts that are kept
    * `TextRule.evaluatePhone_again_iff`
-/

namespace RecordRules

open Edit Rule Phone

------------------------------------------------------------
-- Notes and formatted texts
------------------------------------------------------------

namespace Rule

variable {options : RuleOptions} {r : Record}

/- A note about a change adds to the infos of a linked record only. -/
theorem outcome_noteChange_linked
    (options : RuleOptions)
    (field message : String)
    (values : Entries Value)
    (errors infos : Entries (List String)) :
    ∃ noted,
      (noteChange options field (.ok message)).outcome
          (.linked values errors infos) =
        (.ok (), .linked values errors noted) := by
  unfold noteChange
  rw [outcome_bind_of_ok (outcome_isLinked _)]
  split
  · exact ⟨_, rfl⟩
  · exact ⟨_, rfl⟩

/- A text is written to a linked record where options allow it. -/
theorem outcome_store_linked
    (options : RuleOptions)
    (field : String)
    (text : List Char)
    (values : Entries Value)
    (errors infos : Entries (List String)) :
    (store options field text).outcome (.linked values errors infos) =
      (.ok (),
        .linked
          (if options.setRecord then
            values.put field (.text (String.ofList text))
          else
            values)
          errors infos) := by
  unfold store
  rw [outcome_bind_of_ok (outcome_isLinked _)]
  cases options.setRecord <;> rfl

/- A note is taken, if any, and the record stays linked. -/
theorem exists_outcome_noteChange
    (hLinked : r.isLinked = true)
    (field message : String) :
    ∃ s, (noteChange options field (.ok message)).outcome r =
      (.ok (), s) ∧ s.isLinked = true := by
  rcases Record.exists_of_isLinked hLinked with
    ⟨values, errors, infos, rfl⟩
  rcases outcome_noteChange_linked options field message values errors
      infos with
    ⟨noted, hNoted⟩
  exact ⟨_, hNoted, rfl⟩

/- A text that is written is what the field holds. -/
theorem exists_outcome_store
    (hLinked : r.isLinked = true)
    (hSet : options.setRecord = true)
    (field : String)
    (text : List Char) :
    ∃ s, (store options field text).outcome r = (.ok (), s) ∧
      s.isLinked = true ∧
      s.get field = .ok (.text (String.ofList text)) := by
  rcases Record.exists_of_isLinked hLinked with
    ⟨values, errors, infos, rfl⟩
  rw [outcome_store_linked, if_pos hSet]
  exact ⟨_, rfl, rfl, Record.get_put values errors infos field _⟩

end Rule

namespace TextRule

variable
  {context : Context}
  {options : RuleOptions}
  {field : String}
  {style region : Option String}
  {r s : Record}
  {v : Value}
  {cs : List Char}
  {n : Number}

------------------------------------------------------------
-- One evaluation
------------------------------------------------------------

/- A valid number is written in the style on a linked record. -/
theorem formatPhone_of_valid
    (style : Option String)
    (hLinked : r.isLinked = true)
    (hSet : options.setRecord = true)
    (hGet : r.get field = .ok v)
    (hText : textOf v = .ok cs)
    (hSome : cs ≠ [])
    (hValid : validPhone? context region cs = some n) :
    ∃ s,
      (formatPhone context options field style region).outcome r =
        (.ok (n.render (styleOf style)), s) ∧
      s.isLinked = true ∧
      s.get field =
        .ok (.text (String.ofList (n.render (styleOf style)))) := by
  have hFilled : cs.isEmpty = false := by
    simpa using hSome
  unfold formatPhone
  rw [outcome_getField_bind hGet, hText, ofResult_ok_bind]
  simp only [hFilled, Bool.false_and, Bool.false_eq_true, if_false,
    hValid]
  rcases exists_outcome_noteChange hLinked field
      (messageOr options.infoMessage
        ("Value changed from " ++ String.ofList cs)) with
    ⟨noted, hNoted, hKind⟩
  rcases exists_outcome_store hKind hSet field
      (n.render (styleOf style)) with
    ⟨s, hStored, hStays, hWritten⟩
  rw [outcome_bind_of_ok hNoted, outcome_bind_of_ok hStored]
  exact ⟨s, rfl, hStays, hWritten⟩

/- A field with a valid number passes, and the number is written. -/
theorem evaluatePhone_of_valid
    (style : Option String)
    (hLinked : r.isLinked = true)
    (hSet : options.setRecord = true)
    (hGet : r.get field = .ok v)
    (hText : textOf v = .ok cs)
    (hSome : cs ≠ [])
    (hValid : validPhone? context region cs = some n) :
    ∃ s,
      (evaluatePhone context options field style region).outcome r =
        (.ok true, s) ∧
      s.isLinked = true ∧
      s.get field =
        .ok (.text (String.ofList (n.render (styleOf style)))) := by
  rcases check_phone context options region hGet hText hSome with
    ⟨t, hCheck, hKept⟩
  rw [hValid, Option.isSome_some] at hCheck hKept
  rw [hKept rfl] at hCheck
  rcases formatPhone_of_valid style hLinked hSet hGet hText
      hSome hValid with
    ⟨s, hFormat, hKind, hWritten⟩
  refine ⟨s, ?_, hKind, hWritten⟩
  unfold evaluatePhone
  exact outcome_verdict_iff.mpr ⟨_, _, hCheck, hFormat⟩

/- A good verdict rests on a valid number in the text of the field. -/
theorem exists_of_evaluatePhone
    (hRun :
      (evaluatePhone context options field style region).outcome r =
        (.ok true, s)) :
    ∃ v cs n, r.get field = .ok v ∧ textOf v = .ok cs ∧ cs ≠ [] ∧
      validPhone? context region cs = some n := by
  unfold evaluatePhone at hRun
  rcases outcome_verdict_iff.mp hRun with ⟨t, -, hCheck, -⟩
  rcases exists_of_check (phone_ne_present region) hCheck with
    ⟨-, v, cs, hGet, hText, hSome, hHolds⟩
  have hValid : (validPhone? context region cs).isSome = true :=
    Except.ok.inj hHolds
  rcases Option.isSome_iff_exists.mp hValid with ⟨n, hNumber⟩
  exact ⟨v, cs, n, hGet, hText, hSome, hNumber⟩

------------------------------------------------------------
-- Two evaluations
------------------------------------------------------------

/-
  A field that holds a text passes and keeps it exactly if the text is
  what the valid number in it is written as.
-/
theorem evaluatePhone_keeps_iff
    (style region : Option String)
    (hLinked : r.isLinked = true)
    (hSet : options.setRecord = true)
    (hGet : r.get field = .ok (.text (String.ofList cs))) :
    (∃ s,
        (evaluatePhone context options field style region).outcome r =
          (.ok true, s) ∧
        s.get field = r.get field) ↔
      ∃ n, Number.read? (messageOr region context.region) cs = some n ∧
        n.isValid = true ∧ n.render (styleOf style) = cs := by
  have hText : textOf (.text (String.ofList cs)) = .ok cs := by
    rw [textOf_text, String.toList_ofList]
  constructor
  · rintro ⟨s, hRun, hKept⟩
    rcases exists_of_evaluatePhone hRun with
      ⟨v, ds, n, hHeld, hRead, hSome, hValid⟩
    rw [hGet] at hHeld
    cases hHeld
    rw [hText] at hRead
    cases hRead
    rcases evaluatePhone_of_valid style hLinked hSet hGet hText hSome
        hValid with
      ⟨t, hAgain, -, hWritten⟩
    rw [hRun] at hAgain
    cases (Prod.mk.inj hAgain).2
    rw [hWritten, hGet] at hKept
    have hSame := Value.text.inj (Except.ok.inj hKept)
    rw [← String.toList_inj, String.toList_ofList, String.toList_ofList]
      at hSame
    rcases Option.filter_eq_some_iff.mp hValid with ⟨hNumber, hGood⟩
    exact ⟨n, hNumber, hGood, hSame⟩
  · rintro ⟨n, hNumber, hGood, hSame⟩
    have hValid : validPhone? context region cs = some n := by
      rw [validPhone?, phoneNumber?, hNumber, Option.filter_some,
        if_pos hGood]
    rcases evaluatePhone_of_valid style hLinked hSet hGet hText
        (Number.ne_nil_of_read? hNumber) hValid with
      ⟨s, hRun, -, hWritten⟩
    refine ⟨s, hRun, ?_⟩
    rw [hWritten, hGet, hSame]

/-
  Where a phone field passes and is rewritten, it passes again and
  keeps its text exactly if the number is read back from that text:
  in compact form always, else if its extension can be read and the
  text has the calling code or is read in the number's own country.
-/
theorem evaluatePhone_again_iff
    (hLinked : r.isLinked = true)
    (hSet : options.setRecord = true)
    (hRun :
      (evaluatePhone context options field style region).outcome r =
        (.ok true, s)) :
    ∃ v cs n,
      r.get field = .ok v ∧ textOf v = .ok cs ∧
        validPhone? context region cs = some n ∧
        s.get field =
          .ok (.text (String.ofList (n.render (styleOf style)))) ∧
        ((∃ t,
            (evaluatePhone context options field style region).outcome
                s = (.ok true, t) ∧
              t.get field = s.get field) ↔
          n.ReadsBack (messageOr region context.region)
            (styleOf style)) := by
  rcases exists_of_evaluatePhone hRun with
    ⟨v, cs, n, hGet, hText, hSome, hValid⟩
  rcases evaluatePhone_of_valid style hLinked hSet hGet hText hSome
      hValid with
    ⟨written, hFirst, hKind, hWritten⟩
  rw [hRun] at hFirst
  cases (Prod.mk.inj hFirst).2
  rcases Option.filter_eq_some_iff.mp hValid with ⟨hNumber, hGood⟩
  have hProper := Number.isProper_of_read? hNumber hGood
  refine ⟨v, cs, n, hGet, hText, hValid, hWritten, ?_⟩
  rw [evaluatePhone_keeps_iff style region hKind hSet hWritten]
  exact hProper.readsBack_iff (styleOf style)

/-
  A British number with an extension, written for Britain, passes
  again where it is read in Britain.
-/
theorem british_number_passes_again_in_britain :
    ∃ (context : Context) (s t : Record),
      (Record.ofValues
          [("phone", .text "+442079460018 ext 5")]).isLinked = true ∧
        ({} : RuleOptions).setRecord = true ∧
        (evaluatePhone context {} "phone" (some "national")
            (some "GB")).outcome
            (.ofValues [("phone", .text "+442079460018 ext 5")]) =
          (.ok true, s) ∧
        s.get "phone" = .ok (.text "020 7946 0018 x5") ∧
        (evaluatePhone context {} "phone" (some "national")
            (some "GB")).outcome s =
          (.ok true, t) ∧
        t.get "phone" = s.get "phone" := by
  let context : Context :=
    ⟨.midnight ⟨2024, 1, 1, by decide⟩, false, "US"⟩
  let r : Record := .ofValues [("phone", .text "+442079460018 ext 5")]
  let s : Record := .ofValues [("phone", .text "020 7946 0018 x5")]
  have hRun :
      (evaluatePhone context {} "phone" (some "national")
          (some "GB")).outcome r =
        (.ok true, s) := by
    decide +kernel
  have hNumber :
      validPhone? context (some "GB") "+442079460018 ext 5".toList =
        some
          ⟨.unitedKingdom, [2, 0, 7, 9, 4, 6, 0, 0, 1, 8], some "5"⟩ := by
    decide +kernel
  rcases evaluatePhone_again_iff rfl rfl hRun with
    ⟨v, cs, n, hGet, hText, hValid, -, hAgain⟩
  have hHeld : r.get "phone" = .ok (.text "+442079460018 ext 5") := rfl
  rw [hHeld] at hGet
  cases hGet
  rw [textOf_text] at hText
  cases hText
  rw [hNumber] at hValid
  cases hValid
  have hReadable :
      Number.HasReadableExtension
        ⟨.unitedKingdom, [2, 0, 7, 9, 4, 6, 0, 0, 1, 8], some "5"⟩ := by
    rintro - e hMember
    cases hMember
    decide
  have hBack := hAgain.mpr (.inr ⟨hReadable, .inr (by decide)⟩)
  rcases hBack with ⟨t, hSecond, hKept⟩
  exact ⟨context, s, t, rfl, rfl, hRun, rfl, hSecond, hKept⟩

/-
  A British number written for Britain does not pass again where it is
  read in the United States, nor does one with a long extension that
  is written with its calling code.
-/
theorem british_numbers_fail_again :
    ∃ context : Context, context.region = "US" ∧
      (∃ s t,
        (evaluatePhone context {} "phone" (some "NATIONAL")
            none).outcome
            (.ofValues [("phone", .text "+44 20 7946 0018")]) =
          (.ok true, s) ∧
        s.get "phone" = .ok (.text "020 7946 0018") ∧
        (evaluatePhone context {} "phone" (some "NATIONAL")
            none).outcome s =
          (.ok false, t)) ∧
      ∃ s t,
        (evaluatePhone context {} "phone" (some "INTERNATIONAL")
            none).outcome
            (.ofValues
              [("phone", .text "+44 20 7946 0018 ext 1234567890")]) =
          (.ok true, s) ∧
        s.get "phone" = .ok (.text "+44 20 7946 0018 x1234567890") ∧
        (evaluatePhone context {} "phone" (some "INTERNATIONAL")
            none).outcome s =
          (.ok false, t) := by
  let context : Context :=
    ⟨.midnight ⟨2024, 1, 1, by decide⟩, false, "US"⟩
  let failed (text : String) : Record :=
    .linked [("phone", .text text)]
      [("phone", ["Please enter a valid phone number"])] []
  refine ⟨context, rfl,
    ⟨.ofValues [("phone", .text "020 7946 0018")],
      failed "020 7946 0018", ?_, rfl, ?_⟩,
    ⟨.ofValues [("phone", .text "+44 20 7946 0018 x1234567890")],
      failed "+44 20 7946 0018 x1234567890", ?_, rfl, ?_⟩⟩
  all_goals decide +kernel

end TextRule

end RecordRules
