import RecordRules.Proofs.Amount.Layout
import RecordRules.Proofs.Edit.Returning
import RecordRules.Proofs.Format.Usable
import RecordRules.Proofs.Numeric.NearestInteger
import RecordRules.Proofs.Rule.Readings
import RecordRules.Rule.Number

/-
  Integers as numbers, and the texts of integers.

  Main declarations:
    * `Amount.parse_int` and `Amount.parse_intDigits`
    * `NumberRule.result_check`, a verdict rests on the number of a
      value only
    * `NumberRule.integer_and_text_read_alike`
-/

namespace RecordRules

open Edit Rule Text Numeric

theorem Numeric.tenPow_lt_tenPow
    {m n : Nat}
    (hLess : m < n) :
    tenPow m < tenPow n :=
  Nat.pow_lt_pow_right (by decide) hLess

------------------------------------------------------------
-- Texts of integers
------------------------------------------------------------

namespace Value

/- The text of an integer with few enough digits. -/
theorem print_int
    {n : Int}
    (hDigits : n.natAbs < tenPow maxDigits) :
    (int n).print = .ok (intDigits n) := by
  change printInt n = _
  rw [printInt, if_neg (Nat.not_le.mpr hDigits)]

theorem isEmpty_intDigits
    (n : Int) :
    (text (String.ofList (intDigits n))).isEmpty = false := by
  rw [isEmpty, beq_eq_false_iff_ne, Ne, String.ofList_eq_empty_iff,
    intDigits]
  split
  · exact List.cons_ne_nil _ _
  · exact (natDigits_isNumeral n.natAbs).1

end Value

------------------------------------------------------------
-- Numbers of integers
------------------------------------------------------------

namespace Amount

/- An integer has its nearest number, if that is finite. -/
theorem parse_int
    (n : Int) :
    parse (.int n) =
      if n.natAbs < Binary64.finiteLimit then
        .ok (some (.ofInt n))
      else
        .error .numberTooLarge := by
  rw [parse]
  simp only [Binary64.isFinite_ofInt_iff]

theorem finite?_ofInt
    (n : Int) :
    finite? (.ofInt n) =
      if n.natAbs < Binary64.finiteLimit then
        some (.ofInt n)
      else
        none := by
  simp only [finite?, Binary64.isFinite_ofInt_iff]

/- The text of an integer has the number of the integer. -/
theorem parse_intDigits
    (n : Int) :
    parse (.text (String.ofList (intDigits n))) =
      .ok (finite? (.ofInt n)) := by
  have hMonetary : NumberFormat.IsMonetary {} := .plain rfl rfl
  have hRead :=
    (NumberText.ofInt n).read?_affixed hMonetary false
  have hPlain (cs : List Char) :
      NumberFormat.affixed {} cs = cs :=
    List.append_nil cs
  have hText : intText false n = intDigits n := rfl
  rw [hPlain, NumberText.ofInt_text, NumberText.ofInt_decimal,
    Decimal.toBinary64_ofInt, hText] at hRead
  rw [← hRead]
  change Except.ok (read? (String.ofList (intDigits n)).toList) = _
  rw [String.toList_ofList]

end Amount

------------------------------------------------------------
-- Verdicts
------------------------------------------------------------

namespace NumberRule

/- The verdict of a rule on the number of a value. -/
def verdict
    (rule : NumberRule)
    (number : Except Failure (Option Binary64)) : Except Failure Bool := do
  let _ ← rule.message
  match ← number with
  | some x => rule.holds x
  | none => return false

variable
  {options : RuleOptions}
  {field : String}
  {rule : NumberRule}
  {r : Record}
  {v : Value}

/- What a rule says of a value depends on its number only. -/
theorem result_check
    (hGet : r.get field = .ok v)
    (hSome : v.isEmpty = false) :
    ((rule.check options field).outcome r).1 =
      rule.verdict (Amount.parse v) := by
  have hReport (valid : Bool) (standard : String) :
      Passes (report options field true valid standard) r :=
    (report_returns options field true valid standard).passes r
  unfold check verdict
  rcases rule.message with failure | standard
  · rfl
  rw [ofResult_ok_bind, outcome_getField_bind hGet]
  simp only [hSome, Bool.false_eq_true, if_false, Bool.not_false]
  rcases Amount.parse v with failure | _ | x
  · rfl
  · exact result_of_passes (hReport ..) fun _ => rfl
  · rw [ofResult_ok_bind]
    change ((ofResult (rule.holds x) >>= _).outcome r).1 = rule.holds x
    rcases rule.holds x with failure | valid
    · rfl
    · exact result_of_passes (hReport ..) fun _ => rfl

/- The same for a rule that is given by its type. -/
theorem result_run
    (hGet : r.get field = .ok v)
    (hSome : v.isEmpty = false)
    (type arguments options : Value) :
    ((run field type arguments options).outcome r).1 =
      (ofArguments type arguments >>= fun rule =>
        RuleOptions.resolve options >>= fun _ =>
          rule.verdict (Amount.parse v)) := by
  unfold run
  rcases ofArguments type arguments with failure | rule
  · rfl
  rcases RuleOptions.resolve options with failure | given
  · rfl
  exact result_check hGet hSome

/- Without a number no rule holds. -/
theorem verdict_none :
    rule.verdict (.ok none) ≠ .ok true := by
  unfold verdict
  rcases rule.message with failure | standard
  · exact nofun
  · exact nofun

/- Where there may be no number, a failure takes the verdict's place. -/
theorem verdict_error
    (failure : Failure) :
    rule.verdict (.error failure) =
      (rule.verdict (.ok none) >>= fun _ => .error failure) := by
  unfold verdict
  rcases rule.message with other | standard
  · rfl
  · rfl

/-
  The text of an integer is read as the number nearest to it, or as
  none where that is not finite. The integer is read alike if its
  nearest number is finite, and rules then say the same of both.
  Otherwise no rule holds for the text, and the integer is a failure
  wherever the text has a verdict.
-/
theorem integer_and_text_read_alike
    {n : Int}
    (hDigits : n.natAbs < tenPow maxDigits) :
    ∃ text,
      (Value.int n).print = .ok text ∧
      (n.natAbs < Binary64.finiteLimit →
        (Binary64.ofInt n).IsNearest n ∧
        Amount.parse (.text (String.ofList text)) =
          .ok (some (.ofInt n)) ∧
        Amount.parse (.int n) = .ok (some (.ofInt n))) ∧
      (Binary64.finiteLimit ≤ n.natAbs →
        (Binary64.ofInt n).isFinite = false ∧
        Amount.parse (.text (String.ofList text)) = .ok none ∧
        Amount.parse (.int n) = .error .numberTooLarge) ∧
      ∀ field r s,
        r.get field = .ok (.int n) →
        s.get field = .ok (.text (String.ofList text)) →
        ∀ type arguments options,
          (n.natAbs < Binary64.finiteLimit →
            ((run field type arguments options).outcome r).1 =
              ((run field type arguments options).outcome s).1) ∧
          (Binary64.finiteLimit ≤ n.natAbs →
            ((run field type arguments options).outcome s).1 ≠
              .ok true ∧
            ((run field type arguments options).outcome r).1 =
              (((run field type arguments options).outcome s).1 >>=
                fun _ => .error .numberTooLarge)) := by
  have hInt := Amount.parse_int n
  have hText := Amount.parse_intDigits n
  have hFinite := Binary64.isFinite_ofInt_iff n
  rw [Amount.finite?_ofInt] at hText
  refine ⟨intDigits n, Value.print_int hDigits, ?_, ?_, ?_⟩
  · intro hSmall
    rw [if_pos hSmall] at hInt hText
    exact
      ⟨Binary64.isNearest_ofInt (hFinite.mpr hSmall), hText, hInt⟩
  · intro hLarge
    have hNot := Nat.not_lt.mpr hLarge
    rw [if_neg hNot] at hInt hText
    rw [← Bool.not_eq_true, hFinite]
    exact ⟨hNot, hText, hInt⟩
  · intro field r s hNumber hWritten type arguments options
    rw [result_run hNumber rfl,
      result_run hWritten (Value.isEmpty_intDigits n), hInt, hText]
    constructor
    · intro hSmall
      rw [if_pos hSmall, if_pos hSmall]
    · intro hLarge
      have hNot := Nat.not_lt.mpr hLarge
      rw [if_neg hNot, if_neg hNot]
      rcases ofArguments type arguments with failure | rule
      · exact ⟨nofun, rfl⟩
      rcases RuleOptions.resolve options with failure | given
      · exact ⟨nofun, rfl⟩
      exact ⟨verdict_none, verdict_error _⟩

/-
  The text of `10 ^ 309` is no number, and the integer is a failure;
  of records with the one and the other, a rule for positive numbers
  rejects the first and fails for the second.
-/
theorem integer_beyond_numbers :
    ∃ n : Int, ∃ text,
      n.natAbs = tenPow 309 ∧
        (Value.int n).print = .ok text ∧
        Amount.parse (.text (String.ofList text)) = .ok none ∧
        Amount.parse (.int n) = .error .numberTooLarge ∧
        ((run "size" (.text "isPositive") .null .null).outcome
            (.ofValues
              [("size", .text (String.ofList text))])).1 =
          .ok false ∧
        ((run "size" (.text "isPositive") .null .null).outcome
            (.ofValues [("size", .int n)])).1 =
          .error .numberTooLarge := by
  have hEvery (size : Nat) : ∃ n : Int, n.natAbs = size :=
    ⟨size, Int.natAbs_natCast size⟩
  rcases hEvery (tenPow 309) with ⟨n, hSize⟩
  have hDigits : n.natAbs < tenPow maxDigits := by
    rw [hSize]
    exact tenPow_lt_tenPow (by decide)
  have hLarge : Binary64.finiteLimit ≤ n.natAbs := by
    rw [hSize]
    decide +kernel
  rcases integer_and_text_read_alike hDigits with
    ⟨text, hPrint, -, hBeyond, hRules⟩
  rcases hBeyond hLarge with ⟨-, hText, hInt⟩
  cases (Value.print_int hDigits).symm.trans hPrint
  let number : Record := .ofValues [("size", .int n)]
  let written : Record :=
    .ofValues [("size", .text (String.ofList (intDigits n)))]
  have hRejected :
      ((run "size" (.text "isPositive") .null .null).outcome
          written).1 =
        .ok false := by
    rw [result_run rfl (Value.isEmpty_intDigits n)]
    change verdict positive (Amount.parse (.text _)) = _
    rw [hText]
    rfl
  have hFails :=
    ((hRules "size" number written rfl rfl (.text "isPositive") .null
      .null).2 hLarge).2
  rw [hRejected] at hFails
  exact
    ⟨n, intDigits n, hSize, hPrint, hText, hInt, hRejected, hFails⟩

end NumberRule

end RecordRules
