import RecordRules.Proofs.Edit.Outcome

/-
  Steps that read and change a single field.

  Main declarations:
    * `Edit.ConfinedTo`, the steps made up of reading, writing and
      annotating one field
    * `Edit.AgreesUnder`, steps that no relation between records
      tells apart, and `Edit.ConfinedTo.agreesUnder`
    * `Edit.MovesBy`, steps whose changes all have a kind, and
      `Edit.ConfinedTo.movesBy`
    * `Edit.ConfinedTo.keeps_isLinked`
-/

namespace RecordRules

namespace Edit

variable {α β : Type}

------------------------------------------------------------
-- Steps on one field
------------------------------------------------------------

/-
  The steps that reach a record only by reading, writing and
  annotating one field, and by asking for its kind.
-/
inductive ConfinedTo
    (field : String) :
    {α : Type} → Edit α → Prop
  | ofResult
      {α : Type}
      (result : Except Failure α) :
      ConfinedTo field (ofResult result)
  | getField :
      ConfinedTo field (getField field)
  | setField
      (v : Value) :
      ConfinedTo field (setField field v)
  | annotate
      (note : Note)
      (message : String) :
      ConfinedTo field (annotate note field message)
  | isLinked :
      ConfinedTo field isLinked
  | bind
      {α β : Type}
      {m : Edit α}
      {f : α → Edit β}
      (hFirst : ConfinedTo field m)
      (hSecond : ∀ a, ConfinedTo field (f a)) :
      ConfinedTo field (m >>= f)

theorem ConfinedTo.pure
    {field : String}
    (a : α) :
    ConfinedTo field (Pure.pure a) :=
  .ofResult (.ok a)

------------------------------------------------------------
-- Two runs side by side
------------------------------------------------------------

/-
  A step gives the same result on related records, and leaves
  related records.
-/
def AgreesUnder
    (R : Record → Record → Prop)
    (m : Edit α) : Prop :=
  ∀ r s, R r s →
    (m.outcome r).1 = (m.outcome s).1 ∧
      R (m.outcome r).2 (m.outcome s).2

theorem AgreesUnder.bind
    {R : Record → Record → Prop}
    {m : Edit α}
    {f : α → Edit β}
    (hFirst : AgreesUnder R m)
    (hSecond : ∀ a, AgreesUnder R (f a)) :
    AgreesUnder R (m >>= f) := by
  intro r s hRelated
  have hStep := hFirst r s hRelated
  rw [outcome_bind, outcome_bind]
  rcases hLeft : m.outcome r with ⟨left, r'⟩
  rcases hRight : m.outcome s with ⟨right, s'⟩
  rw [hLeft, hRight] at hStep
  rcases hStep with ⟨hResult, hAfter⟩
  cases hResult
  cases left with
  | ok a => exact hSecond a r' s' hAfter
  | error failure => exact ⟨rfl, hAfter⟩

/-
  Two records that look alike to every single step on a field look
  alike to all that is made up of such steps.
-/
theorem ConfinedTo.agreesUnder
    {R : Record → Record → Prop}
    {field : String}
    {m : Edit α}
    (hConfined : ConfinedTo field m)
    (hGet : AgreesUnder R (Edit.getField field))
    (hLinked : AgreesUnder R Edit.isLinked)
    (hSet : ∀ v, AgreesUnder R (Edit.setField field v))
    (hAnnotate :
      ∀ note message,
        AgreesUnder R (Edit.annotate note field message)) :
    AgreesUnder R m := by
  induction hConfined with
  | ofResult result =>
      intro r s hRelated
      exact ⟨rfl, hRelated⟩
  | getField => exact hGet
  | setField v => exact hSet v
  | annotate note message => exact hAnnotate note message
  | isLinked => exact hLinked
  | bind _ _ hFirst hSecond => exact hFirst.bind hSecond

------------------------------------------------------------
-- One run from start to end
------------------------------------------------------------

/- The record after a step is reached by a change of a kind. -/
def MovesBy
    (T : Record → Record → Prop)
    (m : Edit α) : Prop :=
  ∀ r, T r (m.outcome r).2

/-
  What a kind of change allows each single step on a field, it
  allows all that is made up of such steps.
-/
theorem ConfinedTo.movesBy
    {T : Record → Record → Prop}
    {field : String}
    {m : Edit α}
    (hConfined : ConfinedTo field m)
    (hRefl : ∀ r, T r r)
    (hTrans : ∀ r s t, T r s → T s t → T r t)
    (hSet : ∀ v, MovesBy T (Edit.setField field v))
    (hAnnotate :
      ∀ note message,
        MovesBy T (Edit.annotate note field message)) :
    MovesBy T m := by
  induction hConfined with
  | ofResult result => exact hRefl
  | getField => exact hRefl
  | setField v => exact hSet v
  | annotate note message => exact hAnnotate note message
  | isLinked => exact hRefl
  | @bind α β m f _ _ hFirst hSecond =>
      intro r
      have hStep := hFirst r
      rw [outcome_bind]
      rcases hMiddle : m.outcome r with ⟨result, s⟩
      rw [hMiddle] at hStep
      cases result with
      | ok a => exact hTrans r s _ hStep (hSecond a s)
      | error failure => exact hStep

------------------------------------------------------------
-- The kind of a record
------------------------------------------------------------

/- The record after a step takes annotations as the one before. -/
def SameKind (r s : Record) : Prop :=
  s.isLinked = r.isLinked

theorem setField_sameKind
    (field : String)
    (v : Value) :
    MovesBy SameKind (setField field v) := by
  intro r
  rw [outcome_setField]
  cases r with
  | linked values errors infos => rfl
  | detached cells =>
      simp only [Record.set]
      cases Record.cellWith v (cells.get? field) <;> rfl

theorem annotate_sameKind
    (note : Note)
    (field message : String) :
    MovesBy SameKind (annotate note field message) := by
  intro r
  rw [outcome_annotate]
  cases r <;> cases note <;> rfl

theorem ConfinedTo.keeps_isLinked
    {field : String}
    {m : Edit α}
    (hConfined : ConfinedTo field m)
    (r : Record) :
    (m.outcome r).2.isLinked = r.isLinked := by
  have hMoves : MovesBy SameKind m :=
    hConfined.movesBy
      (fun _ => rfl)
      (fun _ _ _ hFirst hSecond => hSecond.trans hFirst)
      (setField_sameKind field)
      (fun note message => annotate_sameKind note field message)
  exact hMoves r

end Edit

end RecordRules
