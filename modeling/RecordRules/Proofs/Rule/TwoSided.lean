import RecordRules.Proofs.Amount.IntegerReading
import RecordRules.Proofs.Constraint.PhoneImport
import RecordRules.Proofs.Rule.Readings
import RecordRules.Proofs.Rule.TextVerdicts

/-
  Rules with two limits and rules with one.

  Main declarations:
    * `Edit.IsGood`, a verdict that is there and good
    * `Limit.isWithin_iff`
    * `DateRule.HoldsAt`, and what a good verdict on dates rests on
    * `NumberRule.isGood_run_iff` and `TextRule.isGood_run_iff`
    * `two_limits_iff_both`
-/

namespace RecordRules

open Edit Rule

------------------------------------------------------------
-- Good verdicts
------------------------------------------------------------

/- Whether a rule gives a verdict on a record, and a good one. -/
def Edit.IsGood
    (verdict : Edit Bool)
    (r : Record) : Prop :=
  (verdict.outcome r).1 = .ok true

instance
    (verdict : Edit Bool)
    (r : Record) :
    Decidable (IsGood verdict r) :=
  inferInstanceAs (Decidable ((verdict.outcome r).1 = .ok true))

theorem Edit.exists_outcome_of_isGood
    {verdict : Edit Bool}
    {r : Record}
    (hGood : IsGood verdict r) :
    ∃ s, verdict.outcome r = (.ok true, s) := by
  rcases hRun : verdict.outcome r with ⟨result, s⟩
  rw [IsGood, hRun] at hGood
  cases hGood
  exact ⟨s, rfl⟩

theorem Failure.bind_eq_ok_iff
    {α β : Type}
    {first : Except Failure α}
    {f : α → Except Failure β}
    {b : β} :
    first >>= f = .ok b ↔ ∃ a, first = .ok a ∧ f a = .ok b := by
  constructor
  · exact exists_of_bind
  · rintro ⟨a, rfl, hRest⟩
    exact hRest

/- A result with a property that is there at once. -/
theorem Failure.exists_pure_and_iff
    {α : Type}
    {p : α → Prop}
    (a : α) :
    (∃ b, (pure a : Except Failure α) = .ok b ∧ p b) ↔ p a := by
  simp only [pure, Except.pure, Except.ok.injEq, exists_eq_left']

theorem Failure.exists_pure_iff
    {α : Type}
    (a : α) :
    (∃ b, (pure a : Except Failure α) = .ok b) ↔ True :=
  iff_true_intro ⟨a, rfl⟩

/- What holds of the one thing found on either way holds of it both. -/
theorem exists_and_iff_of_unique
    {α : Type}
    {found first second : α → Prop}
    (hUnique : ∀ a b, found a → found b → a = b) :
    (∃ a, found a ∧ first a ∧ second a) ↔
      (∃ a, found a ∧ first a) ∧ ∃ a, found a ∧ second a := by
  constructor
  · rintro ⟨a, hFound, hFirst, hSecond⟩
    exact ⟨⟨a, hFound, hFirst⟩, a, hFound, hSecond⟩
  · rintro ⟨⟨a, hFound, hFirst⟩, b, hOther, hSecond⟩
    cases hUnique a b hFound hOther
    exact ⟨a, hFound, hFirst, hSecond⟩

------------------------------------------------------------
-- Limits
------------------------------------------------------------

/- What is within two limits meets both of them. -/
theorem Limit.isWithin_iff
    {m : Measure}
    {least most : Value} :
    isWithin m least most = .ok true ↔
      isAtLeast m least = .ok true ∧ isAtMost m most = .ok true := by
  unfold isWithin
  split
  · rename_i hNull
    refine iff_of_false nofun ?_
    rintro ⟨hLeast, hMost⟩
    rcases hNull with rfl | rfl
    · cases hLeast
    · cases hMost
  · rw [Failure.bind_eq_ok_iff]
    constructor
    · rintro ⟨meets, hLeast, hRest⟩
      cases meets with
      | true => exact ⟨hLeast, hRest⟩
      | false => cases hRest
    · rintro ⟨hLeast, hMost⟩
      exact ⟨true, hLeast, hMost⟩

/-
  A limit that is there, that can be told in a message, and that is
  met.
-/
def Limit.Met
    (told : Value → Except Failure (List Char))
    (limit : Except Failure Value)
    (meets : Value → Except Failure Bool) : Prop :=
  ∃ w, limit = .ok w ∧ (∃ text, told w = .ok text) ∧ meets w = .ok true

/- Two limits that are met are each met. -/
theorem Limit.met_within_iff
    {told : Value → Except Failure (List Char)}
    {m : Measure}
    {lower upper : Except Failure Value} :
    (∃ least, lower = .ok least ∧ ∃ most, upper = .ok most ∧
        (∃ low, told least = .ok low ∧ ∃ high, told most = .ok high) ∧
        isWithin m least most = .ok true) ↔
      Met told lower (isAtLeast m) ∧ Met told upper (isAtMost m) := by
  simp only [isWithin_iff]
  constructor
  · rintro
      ⟨least, hLower, most, hUpper, ⟨low, hLow, hHigh⟩, hLeast, hMost⟩
    exact
      ⟨⟨least, hLower, ⟨low, hLow⟩, hLeast⟩, most, hUpper, hHigh, hMost⟩
  · rintro
      ⟨⟨least, hLower, ⟨low, hLow⟩, hLeast⟩, most, hUpper, hHigh, hMost⟩
    exact
      ⟨least, hLower, most, hUpper, ⟨low, hLow, hHigh⟩, hLeast, hMost⟩

------------------------------------------------------------
-- Dates
------------------------------------------------------------

namespace DateRule

variable
  {context : Context}
  {options : RuleOptions}
  {field : String}
  {format : Option String}
  {r : Record}
  {v : Value}

/- A field holds a value that is read as a given instant. -/
def HoldsAt
    (context : Context)
    (field : String)
    (r : Record)
    (t : Instant) : Prop :=
  ∃ v, r.get field = .ok v ∧ v.isEmpty = false ∧
    Date.resolveValue context v = .ok (some t)

theorem HoldsAt.unique
    (s t : Instant)
    (hFirst : HoldsAt context field r s)
    (hSecond : HoldsAt context field r t) :
    s = t := by
  rcases hFirst with ⟨v, hGet, -, hResolve⟩
  rcases hSecond with ⟨w, hOther, -, hAgain⟩
  cases hGet.symm.trans hOther
  cases hResolve.symm.trans hAgain
  rfl

/- An instant that is told in a message has a text. -/
theorem exists_boundText_some
    (format : Option String)
    (t : Instant)
    (bound : Value) :
    ∃ text, boundText format (some t) bound = .ok text := by
  unfold boundText
  dsimp only
  split
  · exact ⟨_, rfl⟩
  · exact ⟨_, rfl⟩

/- The instant of a compared value does not depend on the record. -/
theorem result_compared_bind
    {f : Option Instant → Edit Bool}
    {g : Option Instant → Except Failure Bool}
    (hRest : ∀ input s, ((f input).outcome s).1 = g input)
    (v : Value)
    (r : Record) :
    ((resolveCompared context field format v >>= f).outcome r).1 =
      Date.resolveValue context v >>= g := by
  rw [result_bind hRest, result_resolveCompared,
    Date.resolveBound_eq_resolveValue]

/- What a rule with one bound says of a field with a value. -/
theorem result_checkBound
    (hGet : r.get field = .ok v)
    (hSome : v.isEmpty = false)
    (side : String)
    (holds : Option Instant → Option Instant → Bool)
    (bound : Value) :
    ((checkBound context options field format side holds
        bound).outcome r).1 =
      (Date.resolveValue context bound >>= fun limit =>
        Date.resolveValue context v >>= fun input =>
          boundText format limit bound >>= fun _ =>
            .ok (holds input limit)) := by
  unfold checkBound
  rw [outcome_getField_bind hGet]
  simp only [hSome, Bool.false_eq_true, if_false,
    Date.resolveBound_eq_resolveValue, pure_bind]
  refine result_bind fun limit s => ?_
  refine result_compared_bind (fun input s => ?_) v s
  refine result_bind fun text s => ?_
  have hReport (valid : Bool) (standard : String) :
      Passes (report options field true valid standard) s :=
    (report_returns options field true valid standard).passes s
  exact result_of_passes (hReport ..) fun _ => rfl

/- What a rule with two bounds says of a field with a value. -/
theorem result_checkBetween
    (hGet : r.get field = .ok v)
    (hSome : v.isEmpty = false)
    (start stop : Value) :
    ((checkBetween context options field format start
        stop).outcome r).1 =
      (Date.resolveValue context start >>= fun low =>
        Date.resolveValue context stop >>= fun high =>
          Date.resolveValue context v >>= fun input =>
            boundText format low start >>= fun _ =>
              boundText format high stop >>= fun _ =>
                .ok (comesBefore low input &&
                  comesBefore input high)) := by
  unfold checkBetween
  rw [outcome_getField_bind hGet]
  simp only [hSome, Bool.false_eq_true, if_false,
    Date.resolveBound_eq_resolveValue, pure_bind]
  refine result_bind fun low s => ?_
  refine result_bind fun high s => ?_
  refine result_compared_bind (fun input s => ?_) v s
  refine result_bind fun lowText s => ?_
  refine result_bind fun highText s => ?_
  have hReport (valid : Bool) (standard : String) :
      Passes (report options field true valid standard) s :=
    (report_returns options field true valid standard).passes s
  exact result_of_passes (hReport ..) fun _ => rfl

/- A good verdict of a rule with one bound rests on two instants. -/
theorem isGood_checkBound_iff
    {side : String}
    {holds : Option Instant → Option Instant → Bool}
    (hInput : ∀ limit, holds none limit = false)
    (hLimit : ∀ input, holds input none = false)
    (bound : Value) :
    IsGood (checkBound context options field format side holds bound)
        r ↔
      ∃ t, HoldsAt context field r t ∧
        ∃ limit, Date.resolveValue context bound = .ok (some limit) ∧
          holds (some t) (some limit) = true := by
  constructor
  · intro hGood
    rcases exists_outcome_of_isGood hGood with ⟨s, hRun⟩
    rcases comparesInstant_of_checkBound hInput hRun with
      ⟨v, -, -, hGet, hSome, -⟩
    rw [IsGood, result_checkBound hGet hSome] at hGood
    rcases Failure.exists_of_bind hGood with ⟨limit, hBound, hRest⟩
    rcases Failure.exists_of_bind hRest with ⟨input, hResolve, hRest⟩
    rcases Failure.exists_of_bind hRest with ⟨-, -, hEnd⟩
    have hHolds := Except.ok.inj hEnd
    cases input with
    | none => cases (hInput limit).symm.trans hHolds
    | some t =>
        cases limit with
        | none => cases (hLimit (some t)).symm.trans hHolds
        | some u =>
            exact ⟨t, ⟨v, hGet, hSome, hResolve⟩, u, hBound, hHolds⟩
  · rintro ⟨t, ⟨v, hGet, hSome, hResolve⟩, limit, hBound, hHolds⟩
    rcases exists_boundText_some format limit bound with ⟨text, hText⟩
    rw [IsGood, result_checkBound hGet hSome, hResolve, hBound]
    simp only [bind, Except.bind, hText, hHolds]

theorem isGood_after_iff
    (bound : Value) :
    IsGood ((after bound).check context options field format) r ↔
      ∃ t, HoldsAt context field r t ∧
        ∃ limit, Date.resolveValue context bound = .ok (some limit) ∧
          limit.before t = true := by
  refine isGood_checkBound_iff (fun limit => ?_) (fun input => rfl) bound
  cases limit <;> rfl

theorem isGood_before_iff
    (bound : Value) :
    IsGood ((before bound).check context options field format) r ↔
      ∃ t, HoldsAt context field r t ∧
        ∃ limit, Date.resolveValue context bound = .ok (some limit) ∧
          t.before limit = true := by
  refine isGood_checkBound_iff (fun limit => rfl) (fun input => ?_) bound
  cases input <;> rfl

/- A good verdict of a rule with two bounds rests on three instants. -/
theorem isGood_between_iff
    (start stop : Value) :
    IsGood ((between start stop).check context options field format)
        r ↔
      ∃ t, HoldsAt context field r t ∧
        (∃ low, Date.resolveValue context start = .ok (some low) ∧
          low.before t = true) ∧
        ∃ high, Date.resolveValue context stop = .ok (some high) ∧
          t.before high = true := by
  constructor
  · intro hGood
    rcases exists_outcome_of_isGood hGood with ⟨s, hRun⟩
    rcases comparesInstant_of_checkBetween hRun with
      ⟨v, -, -, hGet, hSome, -⟩
    rw [IsGood, check, result_checkBetween hGet hSome] at hGood
    rcases Failure.exists_of_bind hGood with ⟨low, hStart, hRest⟩
    rcases Failure.exists_of_bind hRest with ⟨high, hStop, hRest⟩
    rcases Failure.exists_of_bind hRest with ⟨input, hResolve, hRest⟩
    rcases Failure.exists_of_bind hRest with ⟨-, -, hRest⟩
    rcases Failure.exists_of_bind hRest with ⟨-, -, hEnd⟩
    rcases Bool.and_eq_true_iff.mp (Except.ok.inj hEnd) with
      ⟨hLow, hHigh⟩
    cases low with
    | none => cases hLow
    | some low =>
        cases input with
        | none => cases hHigh
        | some t =>
            cases high with
            | none => cases hHigh
            | some high =>
                exact
                  ⟨t, ⟨v, hGet, hSome, hResolve⟩, ⟨low, hStart, hLow⟩,
                    high, hStop, hHigh⟩
  · rintro
      ⟨t, ⟨v, hGet, hSome, hResolve⟩, ⟨low, hStart, hLow⟩, high, hStop,
        hHigh⟩
    rcases exists_boundText_some format low start with
      ⟨lowText, hLowText⟩
    rcases exists_boundText_some format high stop with
      ⟨highText, hHighText⟩
    rw [IsGood, check, result_checkBetween hGet hSome, hResolve, hStart,
      hStop]
    simp only [bind, Except.bind, hLowText, hHighText, comesBefore, hLow,
      hHigh, Bool.and_self]

/- Between two bounds is after the one and before the other. -/
theorem isGood_between_iff_both
    (start stop : Value) :
    IsGood ((between start stop).check context options field format)
        r ↔
      IsGood ((after start).check context options field format) r ∧
        IsGood ((before stop).check context options field format) r := by
  rw [isGood_between_iff, isGood_after_iff, isGood_before_iff]
  exact exists_and_iff_of_unique HoldsAt.unique

/- Nothing is on both sides of one bound. -/
theorem not_isGood_before_and_after
    (bound : Value) :
    ¬ (IsGood ((before bound).check context options field format) r ∧
      IsGood ((after bound).check context options field format) r) := by
  rw [isGood_before_iff, isGood_after_iff]
  rintro ⟨⟨t, hHolds, u, hBound, hBefore⟩, s, hOther, w, hAgain, hAfter⟩
  cases HoldsAt.unique t s hHolds hOther
  cases hBound.symm.trans hAgain
  simp only [Instant.before, decide_eq_true_eq] at hBefore hAfter
  omega

end DateRule

------------------------------------------------------------
-- Numbers
------------------------------------------------------------

namespace NumberRule

variable
  {field : String}
  {r : Record}
  {options : Value}

/- A field holds a number, and options can be read. -/
def Holds
    (field : String)
    (r : Record)
    (options : Value)
    (x : Binary64) : Prop :=
  (∃ v, r.get field = .ok v ∧ v.isEmpty = false ∧
      Amount.parse v = .ok (some x)) ∧
    ∃ given, RuleOptions.resolve options = .ok given

theorem Holds.unique
    (x y : Binary64)
    (hFirst : Holds field r options x)
    (hSecond : Holds field r options y) :
    x = y := by
  rcases hFirst with ⟨⟨v, hGet, -, hParse⟩, -⟩
  rcases hSecond with ⟨⟨w, hOther, -, hAgain⟩, -⟩
  cases hGet.symm.trans hOther
  cases hParse.symm.trans hAgain
  rfl

/- A good verdict rests on a number, and on a rule that holds of it. -/
theorem isGood_run_iff
    {type arguments : Value} :
    IsGood (run field type arguments options) r ↔
      ∃ x, Holds field r options x ∧
        ∃ rule, ofArguments type arguments = .ok rule ∧
          (∃ text, rule.message = .ok text) ∧
            rule.holds x = .ok true := by
  constructor
  · intro hGood
    rcases exists_outcome_of_isGood hGood with ⟨s, hRun⟩
    unfold run at hRun
    rcases exists_of_outcome_ofResult_bind hRun with ⟨rule, hRule, hRun⟩
    rcases exists_of_outcome_ofResult_bind hRun with
      ⟨given, hGiven, hRun⟩
    unfold check at hRun
    rcases exists_of_outcome_ofResult_bind hRun with ⟨_, -, hRun⟩
    rcases exists_of_outcome_getField_bind hRun with ⟨v, hGet, hRun⟩
    cases hSome : v.isEmpty with
    | true =>
        simp only [hSome, if_true, pure_bind] at hRun
        cases (DateRule.get_of_report hRun).1
    | false =>
        rw [IsGood, result_run hGet hSome, hRule, hGiven] at hGood
        change rule.verdict (Amount.parse v) = _ at hGood
        rcases Failure.exists_of_bind hGood with ⟨text, hMessage, hRest⟩
        rcases Failure.exists_of_bind hRest with ⟨x, hParse, hHolds⟩
        cases x with
        | none => cases hHolds
        | some x =>
            exact
              ⟨x, ⟨⟨v, hGet, hSome, hParse⟩, given, hGiven⟩, rule, hRule,
                ⟨text, hMessage⟩, hHolds⟩
  · rintro
      ⟨x, ⟨⟨v, hGet, hSome, hParse⟩, given, hGiven⟩, rule, hRule,
        ⟨text, hMessage⟩, hHolds⟩
    rw [IsGood, result_run hGet hSome, hRule, hGiven]
    change rule.verdict (Amount.parse v) = _
    rw [verdict, hMessage, hParse]
    exact hHolds

theorem isGood_atLeast_iff
    (a : Value) :
    IsGood (run field (.text "min") (.list [a]) options) r ↔
      ∃ x, Holds field r options x ∧
        Limit.Met Amount.display (limitOf a)
          (Limit.isAtLeast (.number x)) := by
  rw [isGood_run_iff]
  simp only [ofArguments, singleArgument, message, holds,
    Failure.exists_bind_and_iff, Failure.exists_pure_and_iff,
    Failure.exists_bind_iff, Failure.exists_pure_iff, and_true,
    Limit.Met]

theorem isGood_atMost_iff
    (a : Value) :
    IsGood (run field (.text "max") (.list [a]) options) r ↔
      ∃ x, Holds field r options x ∧
        Limit.Met Amount.display (limitOf a)
          (Limit.isAtMost (.number x)) := by
  rw [isGood_run_iff]
  simp only [ofArguments, singleArgument, message, holds,
    Failure.exists_bind_and_iff, Failure.exists_pure_and_iff,
    Failure.exists_bind_iff, Failure.exists_pure_iff, and_true,
    Limit.Met]

/- Between two limits is no less than the one, nor more than the other. -/
theorem isGood_between_iff_both
    (a b : Value) :
    IsGood (run field (.text "between") (.list [a, b]) options) r ↔
      IsGood (run field (.text "min") (.list [a]) options) r ∧
        IsGood (run field (.text "max") (.list [b]) options) r := by
  rw [isGood_atLeast_iff, isGood_atMost_iff, isGood_run_iff,
    ← exists_and_iff_of_unique Holds.unique]
  simp only [ofArguments, twoArguments, message, holds,
    Failure.exists_bind_and_iff, Failure.exists_pure_and_iff,
    Failure.exists_bind_iff, Failure.exists_pure_iff, and_true,
    Limit.met_within_iff]

end NumberRule

------------------------------------------------------------
-- Texts
------------------------------------------------------------

namespace TextRule

variable
  {context : Context}
  {field : String}
  {r : Record}
  {options : Value}

/- A field holds a text that is not empty, and options can be read. -/
def Holds
    (field : String)
    (r : Record)
    (options : Value)
    (cs : List Char) : Prop :=
  (∃ v, r.get field = .ok v ∧ textOf v = .ok cs ∧ cs ≠ []) ∧
    ∃ given, RuleOptions.resolve options = .ok given

theorem Holds.unique
    (cs ds : List Char)
    (hFirst : Holds field r options cs)
    (hSecond : Holds field r options ds) :
    cs = ds := by
  rcases hFirst with ⟨⟨v, hGet, hText, -⟩, -⟩
  rcases hSecond with ⟨⟨w, hOther, hAgain, -⟩, -⟩
  cases hGet.symm.trans hOther
  cases hText.symm.trans hAgain
  rfl

/-
  A good verdict rests on a text that is there, and on a rule that
  holds of it, if the rule asks for more than a value.
-/
theorem isGood_check_iff
    {given : RuleOptions}
    {rule : TextRule}
    (hMore : rule ≠ present) :
    IsGood (rule.check context given field) r ↔
      ∃ v cs, (r.get field = .ok v ∧ textOf v = .ok cs ∧ cs ≠ []) ∧
        (∃ text, rule.message = .ok text) ∧
          rule.holds context cs = .ok true := by
  constructor
  · intro hGood
    rcases exists_outcome_of_isGood hGood with ⟨s, hRun⟩
    rcases exists_of_check hMore hRun with
      ⟨-, v, cs, hGet, hText, hSome, hHolds⟩
    rw [IsGood, result_check hGet hText hMore] at hGood
    rcases Failure.exists_of_bind hGood with ⟨valid, -, hRest⟩
    rcases Failure.exists_of_bind hRest with ⟨text, hMessage, -⟩
    exact ⟨v, cs, ⟨hGet, hText, hSome⟩, ⟨text, hMessage⟩, hHolds⟩
  · rintro
      ⟨v, cs, ⟨hGet, hText, hSome⟩, ⟨text, hMessage⟩, hHolds⟩
    rcases check_of_holds context given hMore hGet hText hSome hHolds
        hMessage with
      ⟨s, hRun, -⟩
    rw [IsGood, hRun]

/- The same for a rule that is given by its type. -/
theorem isGood_run_iff
    {type : String}
    (hType : type ∈ typeNames)
    {arguments : Value} :
    IsGood (run context field (.text type) arguments options) r ↔
      ∃ cs, Holds field r options cs ∧
        ∃ rule, ofArguments (.text type) arguments = .ok rule ∧
          (∃ text, rule.message = .ok text) ∧
            rule.holds context cs = .ok true := by
  have hMore (rule : TextRule)
      (hRule : ofArguments (.text type) arguments = .ok rule) :
      rule ≠ present :=
    fun hEq => (eq_present_iff hRule).mp hEq hType
  constructor
  · intro hGood
    rcases exists_outcome_of_isGood hGood with ⟨s, hRun⟩
    rcases exists_of_outcome_ofResult_bind hRun with ⟨rule, hRule, hRun⟩
    split at hRun
    · exact absurd rfl (hMore _ hRule)
    · rcases exists_of_outcome_ofResult_bind hRun with
        ⟨given, hGiven, hRun⟩
      have hCheck : IsGood (rule.check context given.value field) r :=
        congrArg Prod.fst hRun
      rcases (isGood_check_iff (hMore rule hRule)).mp hCheck with
        ⟨v, cs, hHeld, hMessage, hHolds⟩
      exact
        ⟨cs, ⟨⟨v, hHeld⟩, given, hGiven⟩, rule, hRule, hMessage, hHolds⟩
  · rintro
      ⟨cs, ⟨⟨v, hHeld⟩, given, hGiven⟩, rule, hRule, hMessage, hHolds⟩
    have hCheck : IsGood (rule.check context given.value field) r :=
      (isGood_check_iff (hMore rule hRule)).mpr
        ⟨v, cs, hHeld, hMessage, hHolds⟩
    unfold run
    rw [hRule, hGiven, ofResult_ok_bind]
    split
    · exact absurd rfl (hMore _ hRule)
    · rw [ofResult_ok_bind]
      exact hCheck

theorem isGood_atLeast_iff
    (a : Value) :
    IsGood (run context field (.text "min") (.list [a]) options) r ↔
      ∃ cs, Holds field r options cs ∧
        Limit.Met Value.print (lengthOf a)
          (Limit.isAtLeast (.length cs.length)) := by
  rw [isGood_run_iff (by decide)]
  simp only [ofArguments, asLength, message, holds,
    Failure.exists_bind_and_iff, Failure.exists_pure_and_iff,
    Failure.exists_bind_iff, Failure.exists_pure_iff, and_true,
    Limit.Met]

theorem isGood_atMost_iff
    (a : Value) :
    IsGood (run context field (.text "max") (.list [a]) options) r ↔
      ∃ cs, Holds field r options cs ∧
        Limit.Met Value.print (lengthOf a)
          (Limit.isAtMost (.length cs.length)) := by
  rw [isGood_run_iff (by decide)]
  simp only [ofArguments, asLength, message, holds,
    Failure.exists_bind_and_iff, Failure.exists_pure_and_iff,
    Failure.exists_bind_iff, Failure.exists_pure_iff, and_true,
    Limit.Met]

/- What is no list is a length in itself. -/
theorem asLength_of_not_list
    {a : Value}
    (hScalar : ∀ items, a ≠ .list items) :
    asLength a = lengthOf a := by
  cases a with
  | list items => exact absurd rfl (hScalar items)
  | _ => rfl

/- Between two limits is no less than the one, nor more than the other. -/
theorem isGood_hasLength_iff_both
    {a b : Value}
    (hLower : ∀ items, a ≠ .list items)
    (hUpper : ∀ items, b ≠ .list items) :
    IsGood (run context field (.text "hasLength") (.list [a, b]) options)
        r ↔
      IsGood (run context field (.text "min") (.list [a]) options) r ∧
        IsGood (run context field (.text "max") (.list [b]) options)
          r := by
  rw [isGood_atLeast_iff, isGood_atMost_iff, isGood_run_iff (by decide),
    ← exists_and_iff_of_unique Holds.unique]
  simp only [ofArguments, twoArguments, asLength_of_not_list hLower,
    asLength_of_not_list hUpper, message, holds,
    Failure.exists_bind_and_iff, Failure.exists_pure_and_iff,
    Failure.exists_bind_iff, Failure.exists_pure_iff, and_true,
    Limit.met_within_iff]

end TextRule

------------------------------------------------------------
-- All three families
------------------------------------------------------------

/-
  A rule with two limits gives a good verdict just where the two rules
  with one of them do, whatever the field holds and whatever the limits
  are: dates lie strictly between, numbers and lengths may be equal to
  a limit. No date is before and after the same one.
-/
theorem two_limits_iff_both
    {a b : Value}
    (hLower : ∀ items, a ≠ .list items)
    (hUpper : ∀ items, b ≠ .list items)
    (context : Context)
    (field : String)
    (r : Record) :
    (∀ options format,
      (IsGood ((DateRule.ofArguments (.text "between")
              (.list [a, b])).check context options field format) r ↔
        IsGood ((DateRule.ofArguments (.text "after")
              (.list [a])).check context options field format) r ∧
          IsGood ((DateRule.ofArguments (.text "before")
              (.list [b])).check context options field format) r) ∧
      ¬ (IsGood ((DateRule.ofArguments (.text "before")
              (.list [b])).check context options field format) r ∧
          IsGood ((DateRule.ofArguments (.text "after")
              (.list [b])).check context options field format) r)) ∧
      (∀ options,
        IsGood (NumberRule.run field (.text "between") (.list [a, b])
            options) r ↔
          IsGood (NumberRule.run field (.text "min") (.list [a])
              options) r ∧
            IsGood (NumberRule.run field (.text "max") (.list [b])
              options) r) ∧
      ∀ options,
        IsGood (TextRule.run context field (.text "hasLength")
            (.list [a, b]) options) r ↔
          IsGood (TextRule.run context field (.text "min") (.list [a])
              options) r ∧
            IsGood (TextRule.run context field (.text "max") (.list [b])
              options) r := by
  refine ⟨fun options format => ⟨?_, ?_⟩, fun options => ?_,
    fun options => ?_⟩
  · exact DateRule.isGood_between_iff_both a b
  · exact DateRule.not_isGood_before_and_after b
  · exact NumberRule.isGood_between_iff_both a b
  · exact TextRule.isGood_hasLength_iff_both hLower hUpper

/-
  Four characters are no less than three, and no more than what the
  text of five says, so they are between the two.
-/
theorem four_between_three_and_five :
    ∃ (context : Context) (r : Record),
      r.get "code" = .ok (.text "abcd") ∧
        IsGood (TextRule.run context "code" (.text "hasLength")
          (.list [.int 3, .text "5"]) .null) r := by
  let context : Context :=
    ⟨.midnight ⟨2024, 1, 1, by decide⟩, false, "US"⟩
  let r : Record := .ofValues [("code", .text "abcd")]
  have hLeast :
      IsGood (TextRule.run context "code" (.text "min") (.list [.int 3])
        .null) r := by
    decide +kernel
  have hMost :
      IsGood (TextRule.run context "code" (.text "max")
        (.list [.text "5"]) .null) r := by
    decide +kernel
  rcases two_limits_iff_both (a := .int 3) (b := .text "5") nofun nofun
      context "code" r with
    ⟨-, -, hLengths⟩
  exact ⟨context, r, rfl, (hLengths .null).mpr ⟨hLeast, hMost⟩⟩

end RecordRules
