import RecordRules.Proofs.Failure.Noteless
import RecordRules.Proofs.Record.Fields

/-
  What a step may do to a record, and what its verdict rests on.

  Main declarations:
    * `Edit.Permission`, and `Record.KeptBut`
    * `Edit.Respects`, steps that keep to a permission and never
      fail because a detached record refused a note
    * `Edit.Settled`, steps that give the same on all records, and
      `Edit.Quiet`, those that report no error besides
    * `Edit.Judges`, verdicts with the errors they report
    * `Edit.Acts`, verdicts on the value of a field, and
      `Edit.Formats`, what is made of it
-/

namespace RecordRules

open Failure

------------------------------------------------------------
-- Permissions
------------------------------------------------------------

/-
  Whether a step may write a value, report errors and note infos.
-/
structure Edit.Permission where
  writes : Prop
  errors : Prop
  infos : Prop

namespace Edit.Permission

/- The same permission without that to report errors. -/
def silent (p : Permission) : Permission :=
  { p with errors := False }

/- What one permission allows, the other one allows as well. -/
structure Within (p q : Permission) : Prop where
  writes : p.writes → q.writes
  errors : p.errors → q.errors
  infos : p.infos → q.infos

theorem silent_within (p : Permission) : Within p.silent p :=
  ⟨id, False.elim, id⟩

end Edit.Permission

/- A record after changes that are permitted. -/
structure Record.KeptBut
    (p : Edit.Permission)
    (r s : Record) : Prop where
  isLinked_eq : s.isLinked = r.isLinked
  values_eq : ¬ p.writes → s.values = r.values
  errors_eq : ¬ p.errors → s.errors = r.errors
  infos_eq : ¬ p.infos → s.infos = r.infos

namespace Record

variable {p q : Edit.Permission} {r s t : Record}

theorem KeptBut.refl (r : Record) : KeptBut p r r :=
  ⟨rfl, fun _ => rfl, fun _ => rfl, fun _ => rfl⟩

theorem KeptBut.trans
    (hFirst : KeptBut p r s)
    (hSecond : KeptBut p s t) :
    KeptBut p r t := by
  refine ⟨?_, fun hNot => ?_, fun hNot => ?_, fun hNot => ?_⟩
  · rw [hSecond.isLinked_eq, hFirst.isLinked_eq]
  · rw [hSecond.values_eq hNot, hFirst.values_eq hNot]
  · rw [hSecond.errors_eq hNot, hFirst.errors_eq hNot]
  · rw [hSecond.infos_eq hNot, hFirst.infos_eq hNot]

theorem KeptBut.mono
    (hKept : KeptBut p r s)
    (hWithin : p.Within q) :
    KeptBut q r s where
  isLinked_eq := hKept.isLinked_eq
  values_eq := fun hNot => hKept.values_eq (hNot ∘ hWithin.writes)
  errors_eq := fun hNot => hKept.errors_eq (hNot ∘ hWithin.errors)
  infos_eq := fun hNot => hKept.infos_eq (hNot ∘ hWithin.infos)

/- A detached record that may not be written stays as it is. -/
theorem KeptBut.eq_of_detached
    {cells : Entries Value}
    (hKept : KeptBut p (detached cells) s)
    (hWrites : ¬ p.writes) :
    s = detached cells := by
  have hValues := hKept.values_eq hWrites
  have hKind := hKept.isLinked_eq
  cases s with
  | linked _ _ _ => cases hKind
  | detached others => exact congrArg detached hValues

end Record

namespace Edit

variable {α β : Type}

------------------------------------------------------------
-- Reading and writing
------------------------------------------------------------

theorem get_noteless
    (r : Record)
    (field : String) :
    Noteless (r.get field) := by
  cases r with
  | linked values errors infos => exact .ok _
  | detached cells =>
      simp only [Record.get]
      unfold Record.cellValue
      split
      · exact .ok _
      · exact .ok _
      · intro note other hEq
        cases hEq

theorem set_noteless
    (r : Record)
    (field : String)
    (v : Value) :
    Noteless (r.set field v) := by
  cases r with
  | linked values errors infos => exact .ok _
  | detached cells =>
      refine Noteless.bind ?_ fun cell => .ok _
      unfold Record.cellWith
      split
      · exact .ok _
      · exact .ok _
      · intro note other hEq
        cases hEq

------------------------------------------------------------
-- Steps that keep to a permission
------------------------------------------------------------

/-
  On records of a kind a step does only what is permitted, and on
  detached ones it does not fail because of a note.
-/
def Respects
    (linked : Bool)
    (p : Permission)
    (m : Edit α) : Prop :=
  ∀ r, r.isLinked = linked →
    Record.KeptBut p r (m.outcome r).2 ∧
      (linked = false → Noteless (m.outcome r).1)

section Respects

variable {linked : Bool} {p q : Permission}

theorem Respects.mono
    {m : Edit α}
    (hRespects : Respects linked p m)
    (hWithin : p.Within q) :
    Respects linked q m := by
  intro r hKind
  have hStep := hRespects r hKind
  exact ⟨hStep.1.mono hWithin, hStep.2⟩

theorem Respects.ofResult
    {result : Except Failure α}
    (hResult : Noteless result) :
    Respects linked p (ofResult result) :=
  fun r _ => ⟨.refl r, fun _ => hResult⟩

theorem Respects.pure (a : α) : Respects linked p (Pure.pure a) :=
  .ofResult (.ok a)

theorem Respects.bind
    {m : Edit α}
    {f : α → Edit β}
    (hFirst : Respects linked p m)
    (hSecond : ∀ a, Respects linked p (f a)) :
    Respects linked p (m >>= f) := by
  intro r hKind
  have hStep := hFirst r hKind
  rw [outcome_bind]
  rcases hMiddle : m.outcome r with ⟨failure | a, s⟩
  · rw [hMiddle] at hStep
    exact ⟨hStep.1, fun hDetached => (hStep.2 hDetached).error⟩
  · rw [hMiddle] at hStep
    have hRest := hSecond a s (hStep.1.isLinked_eq.trans hKind)
    exact ⟨hStep.1.trans hRest.1, hRest.2⟩

/- What follows a result is done with the result. -/
theorem Respects.ofResult_bind
    {result : Except Failure α}
    {f : α → Edit β}
    (hResult : Noteless result)
    (hSecond : ∀ a, result = .ok a → Respects linked p (f a)) :
    Respects linked p (Edit.ofResult result >>= f) := by
  cases result with
  | ok a => exact hSecond a rfl
  | error failure =>
      intro r _
      exact ⟨.refl r, fun _ => hResult.error⟩

/- What follows the question for the kind is done for the kind. -/
theorem Respects.isLinked_bind
    {f : Bool → Edit α}
    (hKind : Respects linked p (f linked)) :
    Respects linked p (isLinked >>= f) := by
  intro r hEq
  cases hEq
  exact hKind r rfl

theorem Respects.setField
    (field : String)
    (v : Value)
    (hWrites : p.writes) :
    Respects linked p (setField field v) := by
  intro r _
  have hNoteless := set_noteless r field v
  rw [outcome_setField]
  cases hSet : r.set field v with
  | error failure =>
      rw [hSet] at hNoteless
      exact ⟨.refl r, fun _ => hNoteless.error⟩
  | ok s =>
      rcases Record.messages_of_set hSet with ⟨hKind, hErrors, hInfos⟩
      refine ⟨⟨hKind, ?_, fun _ => hErrors, fun _ => hInfos⟩, ?_⟩
      · exact absurd hWrites
      · exact fun _ => .ok ()

/- A note is for linked records only. -/
theorem Respects.annotate
    {note : Note}
    (field message : String)
    (hErrors : note = .error → p.errors)
    (hInfos : note = .info → p.infos) :
    Respects true p (annotate note field message) := by
  intro r hKind
  rw [outcome_annotate]
  cases r with
  | detached cells => cases hKind
  | linked values errors infos =>
      refine ⟨?_, nofun⟩
      cases note with
      | error =>
          exact ⟨rfl, fun _ => rfl, absurd (hErrors rfl), fun _ => rfl⟩
      | info =>
          exact ⟨rfl, fun _ => rfl, fun _ => rfl, absurd (hInfos rfl)⟩

end Respects

------------------------------------------------------------
-- Steps that give the same on all records
------------------------------------------------------------

/- A step gives a certain result whenever it gives one. -/
def Gives
    (m : Edit α)
    (a : α) : Prop :=
  ∀ r b s, m.outcome r = (.ok b, s) → b = a

/- No two records make a step give different results. -/
def Settled (m : Edit α) : Prop :=
  ∀ r s a b r' s',
    m.outcome r = (.ok a, r') → m.outcome s = (.ok b, s') → a = b

theorem Gives.pure (a : α) : Gives (Pure.pure a) a := by
  intro r b s hRun
  cases hRun
  rfl

/- A step after which only one result is possible. -/
theorem Gives.bind
    {m : Edit α}
    {f : α → Edit β}
    {b : β}
    (hSecond : ∀ a, Gives (f a) b) :
    Gives (m >>= f) b := by
  intro r c t hRun
  rcases exists_of_outcome_bind hRun with ⟨a, s, -, hRest⟩
  exact hSecond a s c t hRest

theorem Gives.settled
    {m : Edit α}
    {a : α}
    (hGives : Gives m a) :
    Settled m := by
  intro r s b c r' s' hLeft hRight
  rw [hGives r b r' hLeft, hGives s c s' hRight]

theorem Settled.pure (a : α) : Settled (Pure.pure a) :=
  (Gives.pure a).settled

theorem Settled.ofResult (result : Except Failure α) :
    Settled (ofResult result) := by
  intro r s a b r' s' hLeft hRight
  cases hLeft
  cases hRight
  rfl

theorem Settled.unit (m : Edit Unit) : Settled m :=
  fun _ _ _ _ _ _ _ _ => rfl

theorem Settled.bind
    {m : Edit α}
    {f : α → Edit β}
    (hFirst : Settled m)
    (hSecond : ∀ a, Settled (f a)) :
    Settled (m >>= f) := by
  intro r s b c r' s' hLeft hRight
  rcases exists_of_outcome_bind hLeft with ⟨a, r₁, hStart, hLeft⟩
  rcases exists_of_outcome_bind hRight with ⟨a', s₁, hOther, hRight⟩
  cases hFirst r s a a' r₁ s₁ hStart hOther
  exact hSecond a r₁ s₁ b c r' s' hLeft hRight

/-
  A step gives the same on all records, keeps to a permission and
  reports no error.
-/
structure Quiet
    (p : Bool → Permission)
    (m : Edit α) : Prop where
  respects : ∀ linked, Respects linked (p linked).silent m
  settled : Settled m

section Quiet

variable {p : Bool → Permission}

theorem Quiet.pure (a : α) : Quiet p (Pure.pure a) :=
  ⟨fun _ => .pure a, .pure a⟩

theorem Quiet.ofResult_bind
    {result : Except Failure α}
    {f : α → Edit β}
    (hResult : Noteless result)
    (hRest : ∀ a, Quiet p (f a)) :
    Quiet p (Edit.ofResult result >>= f) where
  respects := fun linked =>
    .ofResult_bind hResult fun a _ => (hRest a).respects linked
  settled := (Settled.ofResult result).bind fun a => (hRest a).settled

theorem Quiet.bind
    {first : Edit Unit}
    {f : Unit → Edit α}
    (hFirst : ∀ linked, Respects linked (p linked).silent first)
    (hRest : Quiet p (f ())) :
    Quiet p (first >>= f) where
  respects := fun linked =>
    (hFirst linked).bind fun _ => hRest.respects linked
  settled := (Settled.unit first).bind fun _ => hRest.settled

theorem Quiet.map
    {m : Edit α}
    (hQuiet : Quiet p m)
    (f : α → β) :
    Quiet p
      (do
        let a ← m
        return f a) where
  respects := fun linked =>
    (hQuiet.respects linked).bind fun a => .pure (f a)
  settled := hQuiet.settled.bind fun a => .pure (f a)

end Quiet

------------------------------------------------------------
-- Verdicts and the errors they report
------------------------------------------------------------

/-
  A step gives a verdict that rests on no record, keeps to a
  permission, and adds one error to a field of a linked record for
  the verdicts that are to be reported, and none for the others.
-/
structure Judges
    (field : String)
    (reports : Bool → Bool)
    (p : Bool → Permission)
    (m : Edit Bool) : Prop where
  respects : ∀ linked, Respects linked (p linked) m
  settled : Settled m
  errors_eq :
    ∀ r valid s, r.isLinked = true → m.outcome r = (.ok valid, s) →
      ∃ message,
        s.errors =
          if reports valid then
            Record.withMessage r.errors field message
          else
            r.errors

section Judges

variable
  {field : String}
  {reports : Bool → Bool}
  {p : Bool → Permission}

/- A step before a verdict that reports nothing itself. -/
theorem Judges.bind
    {first : Edit α}
    {f : α → Edit Bool}
    (hFirst : ∀ linked, Respects linked (p linked).silent first)
    (hSettled : Settled first)
    (hSecond : ∀ a, Judges field reports p (f a)) :
    Judges field reports p (first >>= f) where
  respects := by
    intro linked
    refine ((hFirst linked).mono (p linked).silent_within).bind ?_
    exact fun a => (hSecond a).respects linked
  settled := hSettled.bind fun a => (hSecond a).settled
  errors_eq := by
    intro r valid t hLinked hRun
    rcases exists_of_outcome_bind hRun with ⟨a, s, hStep, hRest⟩
    have hKept := (hFirst true r hLinked).1
    rw [hStep] at hKept
    rw [← hKept.errors_eq id]
    exact (hSecond a).errors_eq s valid t
      (hKept.isLinked_eq.trans hLinked) hRest

theorem Judges.ofResult_bind
    {result : Except Failure α}
    {f : α → Edit Bool}
    (hResult : Noteless result)
    (hSecond :
      ∀ a, result = .ok a → Judges field reports p (f a)) :
    Judges field reports p (Edit.ofResult result >>= f) := by
  cases result with
  | ok a => exact hSecond a rfl
  | error failure =>
      refine ⟨fun linked => .ofResult_bind hResult nofun, ?_, ?_⟩
      · intro r s a b r' s' hRun
        cases hRun
      · intro r valid s _ hRun
        cases hRun

/- A verdict that is not one of those to be reported. -/
theorem Judges.of_quiet
    {m : Edit Bool}
    (hQuiet : Quiet p m)
    (hReports :
      ∀ r valid s, m.outcome r = (.ok valid, s) →
        reports valid = false) :
    Judges field reports p m where
  respects := fun linked =>
    (hQuiet.respects linked).mono (p linked).silent_within
  settled := hQuiet.settled
  errors_eq := by
    intro r valid s hLinked hRun
    have hKept := (hQuiet.respects true r hLinked).1
    rw [hRun] at hKept
    rw [hReports r valid s hRun]
    exact ⟨"", hKept.errors_eq id⟩

/- What follows a verdict, hands it on and reports nothing. -/
theorem Judges.followed
    {m : Edit Bool}
    {rest : Bool → Edit Bool}
    (hJudges : Judges field reports p m)
    (hRest :
      ∀ linked valid,
        Respects linked (p linked).silent (rest valid))
    (hGives : ∀ valid, Gives (rest valid) valid) :
    Judges field reports p (m >>= rest) where
  respects := by
    intro linked
    refine (hJudges.respects linked).bind fun valid => ?_
    exact (hRest linked valid).mono (p linked).silent_within
  settled :=
    hJudges.settled.bind fun valid => (hGives valid).settled
  errors_eq := by
    intro r valid t hLinked hRun
    rcases exists_of_outcome_bind hRun with ⟨given, s, hStep, hEnd⟩
    cases hGives given s valid t hEnd
    have hKind := ((hJudges.respects true) r hLinked).1.isLinked_eq
    rw [hStep] at hKind
    have hKept := (hRest true valid s (hKind.trans hLinked)).1
    rw [hEnd] at hKept
    rw [hKept.errors_eq id]
    exact hJudges.errors_eq r valid s hLinked hStep

theorem Judges.mono
    {q : Bool → Permission}
    {m : Edit Bool}
    (hJudges : Judges field reports p m)
    (hWithin : ∀ linked, (p linked).Within (q linked)) :
    Judges field reports q m where
  respects := fun linked =>
    (hJudges.respects linked).mono (hWithin linked)
  settled := hJudges.settled
  errors_eq := hJudges.errors_eq

end Judges

------------------------------------------------------------
-- Steps on the value of a field
------------------------------------------------------------

/-
  A step reads a field and goes on with its value. If the field
  cannot be read, the step fails and leaves the record as it is.
-/
structure Reads
    (field : String)
    (m : Edit α)
    (f : Value → Edit α) : Prop where
  of_get :
    ∀ r v, r.get field = .ok v → m.outcome r = (f v).outcome r
  of_error :
    ∀ r failure, r.get field = .error failure →
      (m.outcome r).2 = r ∧ ∃ cause, (m.outcome r).1 = .error cause ∧
        Noteless (.error cause : Except Failure α)

theorem Reads.getField_bind
    (field : String)
    (f : Value → Edit α) :
    Reads field (getField field >>= f) f where
  of_get := by
    intro r v hGet
    exact outcome_getField_bind hGet f
  of_error := by
    intro r failure hGet
    have hNoteless := get_noteless r field
    rw [outcome_bind, outcome_getField, hGet]
    rw [hGet] at hNoteless
    exact ⟨rfl, failure, rfl, hNoteless.error⟩

theorem Reads.bind
    {field : String}
    {m : Edit α}
    {f : Value → Edit α}
    (hReads : Reads field m f)
    (rest : α → Edit β) :
    Reads field (m >>= rest) (fun v => f v >>= rest) where
  of_get := by
    intro r v hGet
    rw [outcome_bind, outcome_bind, hReads.of_get r v hGet]
  of_error := by
    intro r failure hGet
    rcases hReads.of_error r failure hGet with
      ⟨hSame, cause, hCause, hNoteless⟩
    rw [outcome_bind]
    rcases hRun : m.outcome r with ⟨result, s⟩
    rw [hRun] at hSame hCause
    cases hCause
    exact ⟨hSame, cause, rfl, hNoteless.error⟩

/- What holds of a step for every value holds of it altogether. -/
theorem Reads.respects
    {linked : Bool}
    {p : Permission}
    {field : String}
    {m : Edit α}
    {f : Value → Edit α}
    (hReads : Reads field m f)
    (hRespects : ∀ v, Respects linked p (f v)) :
    Respects linked p m := by
  intro r hKind
  cases hGet : r.get field with
  | ok v =>
      rw [hReads.of_get r v hGet]
      exact hRespects v r hKind
  | error failure =>
      rcases hReads.of_error r failure hGet with
        ⟨hSame, cause, hCause, hNoteless⟩
      rw [hSame, hCause]
      exact ⟨.refl r, fun _ => hNoteless⟩

/-
  A step gives a verdict on the value of a field. What it reports
  and what it may do rest on this value.
-/
def Acts
    (field : String)
    (reports : Value → Bool → Bool)
    (p : Value → Bool → Permission)
    (m : Edit Bool) : Prop :=
  ∃ f, Reads field m f ∧ ∀ v, Judges field (reports v) (p v) (f v)

/- A step gives what it makes of the value of a field. -/
def Formats
    (field : String)
    (p : Bool → Permission)
    (m : Edit α) : Prop :=
  ∃ f, Reads field m f ∧ ∀ v, Quiet p (f v)

section Acts

variable
  {field : String}
  {reports : Value → Bool → Bool}
  {p : Value → Bool → Permission}

theorem Acts.ofResult_bind
    {result : Except Failure α}
    {m : α → Edit Bool}
    (hResult : Noteless result)
    (hRest : ∀ a, result = .ok a → Acts field reports p (m a)) :
    Acts field reports p (Edit.ofResult result >>= m) := by
  cases result with
  | ok a => exact hRest a rfl
  | error failure =>
      refine ⟨fun _ => Edit.ofResult (.error failure) >>= m, ⟨?_, ?_⟩,
        fun v => .ofResult_bind hResult nofun⟩
      · intro r v _
        rfl
      · intro r cause _
        exact ⟨rfl, failure, rfl, hResult.error⟩

theorem Acts.mono
    {q : Value → Bool → Permission}
    {m : Edit Bool}
    (hActs : Acts field reports p m)
    (hWithin : ∀ v linked, (p v linked).Within (q v linked)) :
    Acts field reports q m := by
  rcases hActs with ⟨f, hReads, hJudges⟩
  exact ⟨f, hReads, fun v => (hJudges v).mono (hWithin v)⟩

/- What follows a verdict, hands it on and reports nothing. -/
theorem Acts.followed
    {m : Edit Bool}
    {rest : Bool → Edit Bool}
    (hActs : Acts field reports p m)
    (hRest :
      ∀ v linked valid,
        Respects linked (p v linked).silent (rest valid))
    (hGives : ∀ valid, Gives (rest valid) valid) :
    Acts field reports p (m >>= rest) := by
  rcases hActs with ⟨f, hReads, hJudges⟩
  refine ⟨_, hReads.bind rest, fun v => ?_⟩
  exact (hJudges v).followed (hRest v) hGives

/- What a verdict on any value may do, the whole step may do. -/
theorem Acts.respects
    {linked : Bool}
    {q : Permission}
    {m : Edit Bool}
    (hActs : Acts field reports p m)
    (hWithin : ∀ v, (p v linked).Within q) :
    Respects linked q m := by
  rcases hActs with ⟨f, hReads, hJudges⟩
  refine hReads.respects fun v => ?_
  exact ((hJudges v).respects linked).mono (hWithin v)

/- What a format gives can be a verdict, and is never reported. -/
theorem Formats.acts
    {q : Bool → Permission}
    {m : Edit α}
    (hFormats : Formats field q m)
    (verdict : α → Bool) :
    Acts field (fun _ _ => false) (fun _ => q)
      (do
        let a ← m
        return verdict a) := by
  rcases hFormats with ⟨f, hReads, hQuiet⟩
  refine ⟨_, hReads.bind _, fun v => ?_⟩
  exact .of_quiet ((hQuiet v).map verdict) fun _ _ _ _ => rfl

end Acts

end Edit

end RecordRules
