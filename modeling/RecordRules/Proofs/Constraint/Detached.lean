import RecordRules.Proofs.Constraint.Contract
import RecordRules.Proofs.Record.Frame

/-
  Constraints on detached records, beside the same constraints on
  linked ones.

  Main declarations:
    * `Constraint.asksForDate`, and `Date.IsReadable`
    * `Constraint.noteless_of_detached`
    * `Constraint.verdict_eq`, one verdict for both kinds of records
    * `Constraint.eq_of_detached`, what leaves a detached record as
      it is
    * `Constraint.detached_agrees`
-/

namespace RecordRules

open Edit Failure Schema

------------------------------------------------------------
-- Dates
------------------------------------------------------------

/- Whether a value is there and a date that can be read. -/
def Date.IsReadable
    (context : Context)
    (v : Value) : Prop :=
  v.isEmpty = false ∧ ∃ t, resolveValue context v = .ok (some t)

namespace DateRule

/- The types of rules that compare dates. -/
def typeNames : List String :=
  ["before", "after", "between"]

variable {context : Context} {format : Option String} {v : Value}

/- Rules that compare dates write linked records only. -/
theorem not_mayWrite_of_type
    {type : String}
    (arguments : Value)
    (hType : type ∈ typeNames) :
    ¬ (ofArguments (.text type) arguments).MayWrite context format v
        false := by
  simp only [typeNames, List.mem_cons, List.not_mem_nil, or_false]
    at hType
  rcases hType with rfl | rfl | rfl <;>
  · rintro ⟨hLinked, -⟩
    cases hLinked

/- What a verdict on a date may write is a date that can be read. -/
theorem isReadable_of_mayWrite
    {rule : DateRule}
    (hWrites : rule.MayWrite context format v false) :
    Date.IsReadable context v := by
  cases rule with
  | anyDate => exact hWrites
  | before bound | after bound =>
      rcases hWrites with ⟨hLinked, -⟩
      cases hLinked
  | between start stop =>
      rcases hWrites with ⟨hLinked, -⟩
      cases hLinked

end DateRule

------------------------------------------------------------
-- Phone numbers
------------------------------------------------------------

/- A detached record stays as it is unless a number is imported. -/
theorem TextRule.kept_or_imported
    (field region : String)
    (cells : Entries Value) :
    ((normalizePhone field region).outcome (.detached cells)).2 =
        .detached cells ∨
      ((normalizePhone field region).outcome (.detached cells)).1 =
        .ok true := by
  unfold normalizePhone
  rw [outcome_bind, outcome_getField]
  cases (Record.detached cells).get field with
  | error failure => exact .inl rfl
  | ok v =>
      dsimp only
      rw [outcome_bind, outcome_ofResult]
      cases textOf v with
      | error failure => exact .inl rfl
      | ok cs =>
          dsimp only
          split
          · exact .inl rfl
          · split
            · rename_i number _ _
              rw [outcome_bind, outcome_setField]
              cases (Record.detached cells).set field
                  (.text (String.ofList (number.render .compact))) with
              | ok s => exact .inr rfl
              | error failure => exact .inl rfl
            · exact .inl rfl

------------------------------------------------------------
-- Constraints
------------------------------------------------------------

namespace Constraint

/-
  Whether a constraint asks whether a value is a date: its type is
  none of those that compare dates, and it gives a verdict.
-/
def asksForDate (c : Constraint) : Prop :=
  c.validator = .date ∧
    c.config.ruleType ∉ DateRule.typeNames ∧
    (c.config.mode = .validate ∨ c.config.mode = .evaluateAndFormat)

/- The parts of a constraint that is read from a configuration fit. -/
theorem checkParts_of_read
    {otherwise : Kind}
    {given : Value}
    {c : Constraint}
    (hRead : read otherwise given = .accepted c) :
    checkParts c = .accepted c := by
  have hParts : ∃ whole, checkParts whole = .accepted c := by
    unfold read at hRead
    cases hEntries : readObject otherwise given with
    | refused problems =>
        rw [hEntries] at hRead
        cases hRead
    | accepted entries =>
        rw [hEntries] at hRead
        simp only [Checked.andThen] at hRead
        split at hRead
        · exact ⟨_, hRead⟩
        · cases hRead
  rcases hParts with ⟨whole, hParts⟩
  have hSame : whole = c := by
    unfold checkParts at hParts
    split at hParts
    · cases hParts
    · cases hFormat :
          checkFormat whole.validator
            (whole.config.formatOptions.getD []) with
      | refused problems =>
          rw [hFormat] at hParts
          cases hParts
      | accepted _ =>
          rw [hFormat] at hParts
          cases hParts
          rfl
  exact hSame ▸ hParts

/- In a configuration only texts are imported as phone numbers. -/
theorem validator_of_read
    {otherwise : Kind}
    {given : Value}
    {c : Constraint}
    (hRead : read otherwise given = .accepted c)
    (hMode : c.config.mode = .normalizePhone) :
    c.validator = .text := by
  have hParts := checkParts_of_read hRead
  unfold checkParts at hParts
  split at hParts
  · cases hParts
  · rename_i hFits
    by_contra hText
    exact hFits ⟨hMode, hText⟩

variable
  {context : Context}
  {field : String}
  {c : Constraint}

/- On a detached record no constraint fails because of a note. -/
theorem noteless_of_detached
    (context : Context)
    (field : String)
    (c : Constraint)
    (cells : Entries Value) :
    Noteless ((c.apply context field).outcome (.detached cells)).1 := by
  rcases apply_acts context field c with ⟨f, hReads, hJudges⟩
  cases hGet : (Record.detached cells).get field with
  | ok v =>
      rw [hReads.of_get _ v hGet]
      exact ((hJudges v).respects false _ rfl).2 rfl
  | error failure =>
      rcases hReads.of_error _ failure hGet with ⟨-, cause, hEq, hCause⟩
      rw [hEq]
      exact hCause

/- On records with the same value in the field a verdict is the same. -/
theorem verdict_eq
    {r s r' s' : Record}
    {v : Value}
    {valid other : Bool}
    (hGet : r.get field = .ok v)
    (hSame : s.get field = .ok v)
    (hRun : (c.apply context field).outcome r = (.ok valid, r'))
    (hOther : (c.apply context field).outcome s = (.ok other, s')) :
    valid = other := by
  rcases apply_acts context field c with ⟨f, hReads, hJudges⟩
  rw [hReads.of_get r v hGet] at hRun
  rw [hReads.of_get s v hSame] at hOther
  exact (hJudges v).settled r s valid other r' s' hRun hOther

/- A detached record is changed only by verdicts that write. -/
theorem eq_of_detached
    {cells : Entries Value}
    (hWrites :
      ∀ v, (Record.detached cells).get field = .ok v →
        ¬ c.VerdictWrites context v false) :
    ((c.apply context field).outcome (.detached cells)).2 =
      .detached cells := by
  rcases apply_acts context field c with ⟨f, hReads, hJudges⟩
  cases hGet : (Record.detached cells).get field with
  | error failure => exact (hReads.of_error _ failure hGet).1
  | ok v =>
      rw [hReads.of_get _ v hGet]
      have hKept := ((hJudges v).respects false (.detached cells) rfl).1
      refine hKept.eq_of_detached ?_
      rintro (hVerdict | ⟨-, hLinked, -⟩)
      · exact hWrites v hGet hVerdict
      · cases hLinked

/- What a verdict writes to a detached record is asked for. -/
theorem asksForDate_of_verdictWrites
    {v : Value}
    (hMode : c.config.mode ≠ .normalizePhone)
    (hWrites : c.VerdictWrites context v false) :
    c.asksForDate ∧ Date.IsReadable context v := by
  rcases c with ⟨validator, mode, type, format, layout, arguments, options⟩
  cases validator with
  | text | number =>
      cases mode with
      | normalizePhone => exact (hMode rfl).elim
      | evaluateAndFormat | validate | format => exact hWrites.elim
  | date =>
      have hRule
          (hRule :
            (DateRule.ofArguments (.text type) arguments).MayWrite
              context format v false) :
          type ∉ DateRule.typeNames ∧ Date.IsReadable context v :=
        ⟨fun hType => DateRule.not_mayWrite_of_type arguments hType hRule,
          DateRule.isReadable_of_mayWrite hRule⟩
      cases mode with
      | normalizePhone => exact (hMode rfl).elim
      | format => exact hWrites.elim
      | validate =>
          exact ⟨⟨rfl, (hRule hWrites).1, .inl rfl⟩, (hRule hWrites).2⟩
      | evaluateAndFormat =>
          exact ⟨⟨rfl, (hRule hWrites).1, .inr rfl⟩, (hRule hWrites).2⟩

/- The import of a phone number changes a detached record if it works. -/
theorem eq_or_imported
    (cells : Entries Value)
    (hMode : c.config.mode = .normalizePhone)
    (hText : c.validator = .text) :
    ((c.apply context field).outcome (.detached cells)).2 =
        .detached cells ∨
      ((c.apply context field).outcome (.detached cells)).1 =
        .ok true := by
  unfold apply applyText
  rw [hText, hMode]
  dsimp only
  rw [outcome_bind, outcome_ofResult]
  cases (TextFormat.read c.formatObject).toExcept with
  | error failure => exact .inl rfl
  | ok layout =>
      dsimp only
      rw [outcome_bind, outcome_ofResult]
      cases TextRule.regionOf c.config.arguments with
      | error failure => exact .inl rfl
      | ok region => exact TextRule.kept_or_imported ..

/-
  Constraints on detached records agree with those on linked ones.
  They never fail because a record takes no notes, they give the
  same verdict on the same value, and they change nothing, unless
  they ask for a date and there is one, or a phone number is
  imported. Even then no other field changes.
-/
theorem detached_agrees
    {kind : Kind}
    {given : Value}
    (context : Context)
    (field : String)
    (hRead : read kind given = .accepted c)
    (cells : Entries Value) :
    Noteless ((c.apply context field).outcome (.detached cells)).1 ∧
    (∀ v linked valid other r s,
      linked.isLinked = true →
      linked.get field = .ok v →
      (Record.detached cells).get field = .ok v →
      (c.apply context field).outcome linked = (.ok valid, r) →
      (c.apply context field).outcome (.detached cells) =
        (.ok other, s) →
        valid = other) ∧
    (Record.detached cells).ChangedAt field
      ((c.apply context field).outcome (.detached cells)).2 ∧
    (((c.apply context field).outcome (.detached cells)).2 =
        .detached cells ∨
      (c.asksForDate ∧
        ∃ v, (Record.detached cells).get field = .ok v ∧
          Date.IsReadable context v) ∨
      (c.config.mode = .normalizePhone ∧
        ((c.apply context field).outcome (.detached cells)).1 =
          .ok true)) := by
  refine ⟨noteless_of_detached context field c cells, ?_,
    (apply_confined context field c).changedAt _, ?_⟩
  · intro v linked valid other r s _ hGet hSame hRun hOther
    exact verdict_eq hGet hSame hRun hOther
  · by_cases hImport : c.config.mode = .normalizePhone
    · have hText := validator_of_read hRead hImport
      exact (eq_or_imported cells hImport hText).imp_right
        fun hImported => .inr ⟨hImport, hImported⟩
    · by_cases hWrites :
          ∃ v, (Record.detached cells).get field = .ok v ∧
            c.VerdictWrites context v false
      · rcases hWrites with ⟨v, hGet, hVerdict⟩
        rcases asksForDate_of_verdictWrites hImport hVerdict with
          ⟨hAsks, hReadable⟩
        exact .inr (.inl ⟨hAsks, v, hGet, hReadable⟩)
      · exact .inl (eq_of_detached fun v hGet hVerdict =>
          hWrites ⟨v, hGet, hVerdict⟩)

/-
  What a text that is no address gets on a detached record, it gets
  on every linked one.
-/
theorem same_verdict_for_no_address :
    ∃ (context : Context) (c : Constraint),
      read .modelType
          (.object
            [ ("validator", .text "StringValidator")
            , ("config", .object
                [ ("type", .text "validate")
                , ("validation_type", .text "isEmail") ]) ]) =
        .accepted c ∧
      ∀ linked valid r,
        linked.isLinked = true →
        linked.get "mail" = .ok (.text "x") →
        (c.apply context "mail").outcome linked = (.ok valid, r) →
          valid = false := by
  let context : Context :=
    ⟨.midnight ⟨2024, 1, 1, by decide⟩, false, "US"⟩
  let c : Constraint :=
    .mk .text { mode := .validate, ruleType := "isEmail" }
  let cells : Entries Value :=
    [("mail", .object [("value", .text "x")])]
  let given : Value :=
    .object
      [ ("validator", .text "StringValidator")
      , ("config", .object
          [ ("type", .text "validate")
          , ("validation_type", .text "isEmail") ]) ]
  have hRead : read .modelType given = .accepted c := rfl
  refine
    ⟨context, c, hRead, fun linked valid r hLinked hGet hRun => ?_⟩
  have hDetached :
      (c.apply context "mail").outcome (.detached cells) =
        (.ok false, .detached cells) :=
    rfl
  exact
    (detached_agrees context "mail" hRead cells).2.1
      _ _ _ _ _ _ hLinked hGet rfl hRun hDetached

end Constraint

end RecordRules
