import RecordRules.Proofs.Rule.PhoneRewriting
import RecordRules.Proofs.SocialSecurity.Issued
import RecordRules.Proofs.Value.HasText

/-
  Social security numbers that are formatted over again.

  Main declarations:
    * `Edit.Repeats`, steps that change nothing the second time
    * `TextRule.ssnText`, what a text is formatted as
    * `TextRule.outcome_formatSsn` and `TextRule.outcome_evaluateSsn`,
      what the two steps do
    * `TextRule.ssn_steps_repeat`
-/

namespace RecordRules

open Edit Rule SocialSecurity

/-
  A step that is taken a second time gives the same result, and leaves
  the values of the record as they are.
-/
structure Edit.Repeats
    {α : Type}
    (m : Edit α)
    (r : Record) : Prop where
  result : (m.outcome (m.outcome r).2).1 = (m.outcome r).1
  values :
    (m.outcome (m.outcome r).2).2.values = (m.outcome r).2.values

namespace TextRule

------------------------------------------------------------
-- Formatted texts
------------------------------------------------------------

/- Whether the format step leaves an absent value alone. -/
def passesOver
    (options : RuleOptions)
    (cs : List Char) : Bool :=
  cs.isEmpty && !options.formatOnEmpty

/- What stands for a text that is no number. -/
def invalidSsn : List Char :=
  "Invalid SSN".toList

/- What a text is formatted as. -/
def ssnText
    (options : RuleOptions)
    (cs : List Char) : List Char :=
  if passesOver options cs then
    cs
  else if isValid cs then
    grouped (digits cs)
  else if options.setRecord then
    invalidSsn
  else
    cs

/- The values of a record once a text in a field is formatted. -/
def ssnValues
    (options : RuleOptions)
    (field : String)
    (cs : List Char)
    (values : Entries Value) : Entries Value :=
  if options.setRecord && !passesOver options cs then
    values.put field (.text (String.ofList (ssnText options cs)))
  else
    values

section Texts

variable
  {options : RuleOptions}
  {field : String}
  {cs : List Char}
  {values : Entries Value}

theorem ne_nil_of_isValid
    (hValid : isValid cs = true) :
    cs ≠ [] := by
  rintro rfl
  cases hValid

theorem ssnText_of_isValid
    (hValid : isValid cs = true) :
    ssnText options cs = grouped (digits cs) := by
  have hSome : cs.isEmpty = false := by
    simpa using ne_nil_of_isValid hValid
  rw [ssnText, passesOver, hSome, Bool.false_and, hValid]
  rfl

/- A value has a text if it can be printed. -/
theorem exists_textOf_iff
    (v : Value) :
    (∃ cs, textOf v = .ok cs) ↔ v.hasText = true := by
  unfold textOf
  split
  · rename_i hEmpty
    refine iff_of_true ⟨_, rfl⟩ ?_
    cases v with
    | int n | list items | object entries => cases hEmpty
    | _ => rfl
  · exact Value.exists_print_iff v

/- What is no number is left, or replaced by what stands for it. -/
theorem ssnText_of_not_isValid
    (options : RuleOptions)
    (hInvalid : isValid cs = false) :
    ssnText options cs = cs ∨ ssnText options cs = invalidSsn := by
  unfold ssnText
  simp only [hInvalid, Bool.false_eq_true, if_false]
  split
  · exact .inl rfl
  · split
    · exact .inr rfl
    · exact .inl rfl

theorem isValid_invalidSsn :
    isValid invalidSsn = false := by
  decide

/- A formatted text is a number if the text was one. -/
theorem isValid_ssnText
    (options : RuleOptions)
    (cs : List Char) :
    isValid (ssnText options cs) = isValid cs := by
  cases hValid : isValid cs with
  | true => rw [ssnText_of_isValid hValid, isValid_grouped, hValid]
  | false =>
      rcases ssnText_of_not_isValid options hValid with hKept | hReplaced
      · rw [hKept, hValid]
      · rw [hReplaced, isValid_invalidSsn]

/- Formatting keeps the digits unless it gives what stands for none. -/
theorem digits_ssnText
    (hKept : isValid cs = true ∨ ssnText options cs ≠ invalidSsn) :
    digits (ssnText options cs) = digits cs := by
  cases hValid : isValid cs with
  | true =>
      rw [ssnText_of_isValid hValid,
        digits_grouped isDecimal_of_mem_digits]
  | false =>
      rw [hValid] at hKept
      rcases ssnText_of_not_isValid options hValid with
        hSame | hReplaced
      · rw [hSame]
      · rcases hKept with hGood | hOther
        · cases hGood
        · exact (hOther hReplaced).elim

/- A formatted text is formatted as itself. -/
theorem ssnText_ssnText
    (options : RuleOptions)
    (cs : List Char) :
    ssnText options (ssnText options cs) = ssnText options cs := by
  cases hValid : isValid cs with
  | true =>
      have hAgain : isValid (ssnText options cs) = true := by
        rw [isValid_ssnText, hValid]
      rw [ssnText_of_isValid hAgain, ssnText_of_isValid hValid,
        digits_grouped isDecimal_of_mem_digits]
  | false =>
      rcases ssnText_of_not_isValid options hValid with hKept | hReplaced
      · rw [hKept, hKept]
      · rw [hReplaced]
        rcases ssnText_of_not_isValid options isValid_invalidSsn with
          hKept | hSame
        · exact hKept
        · exact hSame

/-
  After a text was formatted, the field has a text again that is
  formatted the same and is as valid, and nothing changes when it is.
-/
theorem exists_formatted
    (options : RuleOptions)
    (hText : textOf ((values.get? field).getD .null) = .ok cs) :
    ∃ ds,
      textOf (((ssnValues options field cs values).get? field).getD
          .null) = .ok ds ∧
        ssnText options ds = ssnText options cs ∧
        isValid ds = isValid cs ∧
        ssnValues options field ds
            (ssnValues options field cs values) =
          ssnValues options field cs values := by
  cases hWritten : options.setRecord && !passesOver options cs with
  | true =>
      have hValues :
          ssnValues options field cs values =
            values.put field
              (.text (String.ofList (ssnText options cs))) := by
        rw [ssnValues, if_pos hWritten]
      have hSame := ssnText_ssnText options cs
      refine
        ⟨ssnText options cs, ?_, hSame, isValid_ssnText options cs, ?_⟩
      · rw [hValues, Entries.get?_put_self, Option.getD_some, textOf_text,
          String.toList_ofList]
      · rw [hValues, ssnValues, hSame]
        split
        · exact Entries.put_put_self values field _
        · rfl
  | false =>
      have hValues : ssnValues options field cs values = values := by
        rw [ssnValues, hWritten, if_neg Bool.false_ne_true]
      exact ⟨cs, by rwa [hValues], rfl, rfl, by rw [hValues, hValues]⟩

end Texts

------------------------------------------------------------
-- Single steps
------------------------------------------------------------

section Steps

variable
  (context : Context)
  (options : RuleOptions)
  (errors infos : Entries (List String))
  {field : String}
  {cs : List Char}
  {values : Entries Value}

/- A field with a text is formatted, and a note may be taken of it. -/
theorem outcome_formatSsn
    (hText : textOf ((values.get? field).getD .null) = .ok cs) :
    ∃ noted,
      (formatSsn options field).outcome (.linked values errors infos) =
        (.ok (ssnText options cs),
          .linked (ssnValues options field cs values) errors noted) := by
  have hGet :
      (Record.linked values errors infos).get field =
        .ok ((values.get? field).getD .null) :=
    rfl
  unfold formatSsn
  rw [outcome_getField_bind hGet, hText, ofResult_ok_bind]
  unfold ssnText ssnValues ssnText passesOver
  cases hOver : cs.isEmpty && !options.formatOnEmpty with
  | true =>
      refine ⟨infos, ?_⟩
      simp only [if_true, Bool.not_true, Bool.and_false,
        Bool.false_eq_true, if_false]
      rfl
  | false =>
      simp only [Bool.not_false, Bool.and_true, Bool.false_eq_true,
        if_false]
      cases isValid cs with
      | true =>
          rcases outcome_noteChange_linked options field
              (options.infoMessage.getD
                ("Value changed from " ++ String.ofList cs))
              values errors infos with
            ⟨noted, hNoted⟩
          refine ⟨noted, ?_⟩
          simp only [if_true]
          rw [outcome_bind_of_ok hNoted,
            outcome_bind_of_ok (outcome_store_linked ..)]
          rfl
      | false =>
          refine ⟨infos, ?_⟩
          simp only [Bool.false_eq_true, if_false]
          cases hSet : options.setRecord with
          | true =>
              simp only [if_true]
              rw [outcome_bind_of_ok (outcome_store_linked ..), hSet]
              rfl
          | false =>
              simp only [Bool.false_eq_true, if_false]
              rfl

theorem ssn_ne_present :
    ssn ≠ present := by
  intro hEq
  cases hEq

/- A valid number passes and is formatted. -/
theorem outcome_evaluateSsn
    (hText : textOf ((values.get? field).getD .null) = .ok cs)
    (hValid : isValid cs = true) :
    ∃ noted,
      (evaluateSsn context options field).outcome
          (.linked values errors infos) =
        (.ok true,
          .linked (ssnValues options field cs values) errors noted) := by
  have hHolds : ssn.holds context cs = .ok true := by
    rw [holds, hValid]
  have hGet :
      (Record.linked values errors infos).get field =
        .ok ((values.get? field).getD .null) :=
    rfl
  rcases check_of_holds context options ssn_ne_present hGet hText
      (ne_nil_of_isValid hValid) hHolds rfl with
    ⟨s, hCheck, hKept⟩
  rw [hKept rfl] at hCheck
  rcases outcome_formatSsn options errors infos hText with
    ⟨noted, hFormat⟩
  refine ⟨noted, ?_⟩
  unfold evaluateSsn
  exact outcome_verdict_iff.mpr ⟨_, _, hCheck, hFormat⟩

/- A good verdict rests on a valid number in the text of the field. -/
theorem exists_of_evaluateSsn
    {context : Context}
    {options : RuleOptions}
    {r s : Record}
    (hRun :
      (evaluateSsn context options field).outcome r = (.ok true, s)) :
    ∃ v cs, r.get field = .ok v ∧ textOf v = .ok cs ∧
      isValid cs = true := by
  unfold evaluateSsn at hRun
  rcases outcome_verdict_iff.mp hRun with ⟨t, -, hCheck, -⟩
  rcases exists_of_check ssn_ne_present hCheck with
    ⟨-, v, cs, hGet, hText, -, hHolds⟩
  exact ⟨v, cs, hGet, hText, Except.ok.inj hHolds⟩

end Steps

------------------------------------------------------------
-- Repetition
------------------------------------------------------------

section Repetition

variable
  {context : Context}
  {options : RuleOptions}
  {field : String}
  {r : Record}

/- A value without a text is not formatted, and nothing changes. -/
theorem outcome_formatSsn_of_failure
    (options : RuleOptions)
    {v : Value}
    {failure : Failure}
    (hGet : r.get field = .ok v)
    (hText : textOf v = .error failure) :
    (formatSsn options field).outcome r = (.error failure, r) := by
  unfold formatSsn
  rw [outcome_getField_bind hGet, hText]
  rfl

theorem formatSsn_repeats
    (hLinked : r.isLinked = true) :
    Repeats (formatSsn options field) r := by
  rcases Record.exists_of_isLinked hLinked with ⟨values, errors, infos, rfl⟩
  cases hText : textOf ((values.get? field).getD .null) with
  | error failure =>
      have hRun :
          (formatSsn options field).outcome
              (.linked values errors infos) =
            (.error failure, .linked values errors infos) :=
        outcome_formatSsn_of_failure options rfl hText
      exact ⟨by rw [hRun, hRun], by rw [hRun, hRun]⟩
  | ok cs =>
      rcases outcome_formatSsn options errors infos hText with
        ⟨noted, hFirst⟩
      rcases exists_formatted options hText with
        ⟨ds, hAfter, hSame, -, hKept⟩
      rcases outcome_formatSsn options errors noted hAfter with
        ⟨again, hSecond⟩
      rw [hSame, hKept] at hSecond
      exact
        ⟨by rw [hFirst, hSecond], by rw [hFirst, hSecond]; rfl⟩

theorem evaluateSsn_repeats
    (hLinked : r.isLinked = true)
    (hGood :
      ((evaluateSsn context options field).outcome r).1 = .ok true) :
    Repeats (evaluateSsn context options field) r := by
  rcases Record.exists_of_isLinked hLinked with ⟨values, errors, infos, rfl⟩
  rcases exists_of_evaluateSsn (Prod.ext hGood rfl) with
    ⟨v, cs, hGet, hText, hValid⟩
  cases hGet
  rcases outcome_evaluateSsn context options errors infos hText hValid
    with ⟨noted, hFirst⟩
  rcases exists_formatted options hText with
    ⟨ds, hAfter, -, hSame, hKept⟩
  rcases outcome_evaluateSsn context options errors noted hAfter
      (hSame.trans hValid) with
    ⟨again, hSecond⟩
  rw [hKept] at hSecond
  exact ⟨by rw [hFirst, hSecond], by rw [hFirst, hSecond]; rfl⟩

/- What the format step gives for a value with a text. -/
theorem exists_ssnText
    (options : RuleOptions)
    {v : Value}
    (hLinked : r.isLinked = true)
    (hGet : r.get field = .ok v)
    (hHasText : v.hasText = true) :
    ∃ cs, textOf v = .ok cs ∧
      ((formatSsn options field).outcome r).1 =
        .ok (ssnText options cs) := by
  rcases Record.exists_of_isLinked hLinked with ⟨values, errors, infos, rfl⟩
  cases hGet
  rcases (exists_textOf_iff _).mpr hHasText with ⟨cs, hText⟩
  rcases outcome_formatSsn options errors infos hText with ⟨_, hRun⟩
  exact ⟨cs, hText, by rw [hRun]⟩

/-
  To format a number again gives the same and keeps the values of the
  record, whatever the field holds and whatever the options are. What
  the first time gives for a value with a text has the digits of that
  text unless it stands for none, which it never does for a valid
  number. An evaluation that passes passes again, and keeps the values
  as well.
-/
theorem ssn_steps_repeat
    (context : Context)
    (options : RuleOptions)
    (field : String)
    (hLinked : r.isLinked = true) :
    Repeats (formatSsn options field) r ∧
      (∀ v, r.get field = .ok v → v.hasText = true →
        ∃ cs text, textOf v = .ok cs ∧
          ((formatSsn options field).outcome r).1 = .ok text ∧
          (isValid cs = true → text = grouped (digits cs)) ∧
          (isValid cs = true ∨ text ≠ invalidSsn →
            digits text = digits cs)) ∧
      (((evaluateSsn context options field).outcome r).1 = .ok true →
        Repeats (evaluateSsn context options field) r) := by
  refine
    ⟨formatSsn_repeats hLinked, fun v hGet hHasText => ?_,
      evaluateSsn_repeats hLinked⟩
  rcases exists_ssnText options hLinked hGet hHasText with
    ⟨cs, hText, hRun⟩
  exact
    ⟨cs, ssnText options cs, hText, hRun, ssnText_of_isValid,
      digits_ssnText⟩

/- A number without hyphens is written with them, once. -/
theorem plain_number_is_written_once :
    ∃ (context : Context) (r s t u : Record),
      r.isLinked = true ∧
        r.get "ssn" = .ok (.text "123456789") ∧
        (formatSsn {} "ssn").outcome r =
          (.ok "123-45-6789".toList, s) ∧
        (formatSsn {} "ssn").outcome s =
          (.ok "123-45-6789".toList, t) ∧
        digits "123-45-6789".toList = digits "123456789".toList ∧
        t.values = s.values ∧
        (evaluateSsn context {} "ssn").outcome r = (.ok true, s) ∧
        (evaluateSsn context {} "ssn").outcome s = (.ok true, u) ∧
        u.values = s.values := by
  let context : Context :=
    ⟨.midnight ⟨2024, 1, 1, by decide⟩, false, "US"⟩
  let r : Record := .ofValues [("ssn", .text "123456789")]
  let s : Record := .ofValues [("ssn", .text "123-45-6789")]
  have hFormat :
      (formatSsn {} "ssn").outcome r =
        (.ok "123-45-6789".toList, s) := by
    decide +kernel
  have hEvaluate :
      (evaluateSsn context {} "ssn").outcome r = (.ok true, s) := by
    decide +kernel
  rcases ssn_steps_repeat (r := r) context {} "ssn" rfl with
    ⟨hAgain, hDigits, hPasses⟩
  have hPassesAgain := hPasses (by rw [hEvaluate])
  rcases hDigits (.text "123456789") rfl rfl with
    ⟨cs, text, hText, hGiven, -, hKept⟩
  rw [hFormat] at hGiven
  cases hGiven
  rw [textOf_text] at hText
  cases hText
  have hFirst := hAgain.result
  have hSecond := hPassesAgain.result
  have hValues := hAgain.values
  have hPassedValues := hPassesAgain.values
  rw [hFormat] at hFirst hValues
  rw [hEvaluate] at hSecond hPassedValues
  exact
    ⟨context, r, s, _, _, rfl, rfl, hFormat, Prod.ext hFirst rfl,
      hKept (.inl (by decide)), hValues, hEvaluate,
      Prod.ext hSecond rfl, hPassedValues⟩

end Repetition

end TextRule

end RecordRules
