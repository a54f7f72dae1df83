import RecordRules.Proofs.Record.Frame

/-
  Records that look alike in a field, and steps on the field that
  leave them alike.

  Main declarations:
    * `Record.SameAt`, records with the same in a field, and
      `Edit.ConfinedTo.exists_of_sameAt`
    * `Record.GrownAlike`, records with the same value in a field
      and the same new messages
    * `Edit.AgreesOnReturn`, and `Edit.ConfinedTo.grownAlike`
-/

namespace RecordRules

------------------------------------------------------------
-- Records with the same in a field
------------------------------------------------------------

namespace Record

/- A field has the same value, errors and infos in two records. -/
structure SameAt
    (field : String)
    (r s : Record) : Prop where
  isLinked_eq : s.isLinked = r.isLinked
  value_eq : s.values.get? field = r.values.get? field
  errors_eq : s.errors.get? field = r.errors.get? field
  infos_eq : s.infos.get? field = r.infos.get? field

variable {field : String} {r s t : Record}

theorem SameAt.refl (r : Record) : SameAt field r r :=
  ⟨rfl, rfl, rfl, rfl⟩

theorem SameAt.symm (hSame : SameAt field r s) : SameAt field s r where
  isLinked_eq := hSame.isLinked_eq.symm
  value_eq := hSame.value_eq.symm
  errors_eq := hSame.errors_eq.symm
  infos_eq := hSame.infos_eq.symm

theorem SameAt.trans
    (hFirst : SameAt field r s)
    (hSecond : SameAt field s t) :
    SameAt field r t where
  isLinked_eq := hSecond.isLinked_eq.trans hFirst.isLinked_eq
  value_eq := hSecond.value_eq.trans hFirst.value_eq
  errors_eq := hSecond.errors_eq.trans hFirst.errors_eq
  infos_eq := hSecond.infos_eq.trans hFirst.infos_eq

theorem SameAt.get_eq
    (hSame : SameAt field r s) :
    r.get field = s.get field := by
  have hKind := hSame.isLinked_eq
  have hValue := hSame.value_eq
  cases r with
  | linked values errors infos =>
      cases s with
      | detached cells => cases hKind
      | linked others _ _ =>
          simp only [Record.values] at hValue
          simp only [get, hValue]
  | detached cells =>
      cases s with
      | linked _ _ _ => cases hKind
      | detached others =>
          simp only [Record.values] at hValue
          simp only [get, hValue]

/- What changes one field keeps all others. -/
theorem ChangedAt.sameAt
    {other : String}
    (hChanged : ChangedAt field r s)
    (hOther : field ≠ other) :
    SameAt other r s where
  isLinked_eq := hChanged.isLinked_eq
  value_eq := hChanged.values_eq other hOther
  errors_eq := hChanged.errors_eq other hOther
  infos_eq := hChanged.infos_eq other hOther

/- A further message is the same after the same messages. -/
theorem get?_withMessage_congr
    {first second : Entries (List String)}
    (hSame : second.get? field = first.get? field)
    (message : String) :
    (withMessage second field message).get? field =
      (withMessage first field message).get? field := by
  unfold withMessage
  rw [Entries.get?_put_self, Entries.get?_put_self, hSame]

end Record

namespace Edit

open Record

variable {α : Type} {field : String}

theorem setField_sameAt
    (v : Value) :
    AgreesUnder (SameAt field) (setField field v) := by
  intro r s hSame
  have hKind := hSame.isLinked_eq
  have hValue := hSame.value_eq
  rw [outcome_setField, outcome_setField]
  cases r with
  | linked values errors infos =>
      cases s with
      | detached cells => cases hKind
      | linked others _ _ =>
          have hPut :
              (others.put field v).get? field =
                (values.put field v).get? field := by
            rw [Entries.get?_put_self, Entries.get?_put_self]
          exact ⟨rfl, rfl, hPut, hSame.errors_eq, hSame.infos_eq⟩
  | detached cells =>
      cases s with
      | linked _ _ _ => cases hKind
      | detached others =>
          simp only [Record.values] at hValue
          simp only [Record.set, hValue]
          cases cellWith v (cells.get? field) with
          | error failure => exact ⟨rfl, hSame⟩
          | ok cell =>
              have hPut :
                  (others.put field cell).get? field =
                    (cells.put field cell).get? field := by
                rw [Entries.get?_put_self, Entries.get?_put_self]
              exact ⟨rfl, rfl, hPut, rfl, rfl⟩

theorem annotate_sameAt
    (note : Note)
    (message : String) :
    AgreesUnder (SameAt field) (annotate note field message) := by
  intro r s hSame
  have hKind := hSame.isLinked_eq
  have hErrors := hSame.errors_eq
  have hInfos := hSame.infos_eq
  rw [outcome_annotate, outcome_annotate]
  cases r with
  | detached cells =>
      cases s with
      | linked _ _ _ => cases hKind
      | detached others => exact ⟨rfl, hSame⟩
  | linked values errors infos =>
      cases s with
      | detached cells => cases hKind
      | linked others _ _ =>
          cases note with
          | error =>
              exact ⟨rfl, rfl, hSame.value_eq,
                get?_withMessage_congr hErrors message, hInfos⟩
          | info =>
              exact ⟨rfl, rfl, hSame.value_eq, hErrors,
                get?_withMessage_congr hInfos message⟩

/-
  A step on a field gives the same on every record with the same in
  the field, and leaves the same in it.
-/
theorem ConfinedTo.exists_of_sameAt
    {m : Edit α}
    {r s r' : Record}
    {a : α}
    (hConfined : ConfinedTo field m)
    (hSame : SameAt field r s)
    (hRun : m.outcome r = (.ok a, r')) :
    ∃ s', m.outcome s = (.ok a, s') ∧ SameAt field r' s' := by
  have hAgrees : AgreesUnder (SameAt field) m := by
    apply hConfined.agreesUnder
    · intro r s hSame
      exact ⟨hSame.get_eq, hSame⟩
    · intro r s hSame
      exact ⟨congrArg Except.ok hSame.isLinked_eq.symm, hSame⟩
    · exact setField_sameAt
    · exact annotate_sameAt
  have hBoth := hAgrees r s hSame
  rw [hRun] at hBoth
  exact ⟨(m.outcome s).2, Prod.ext hBoth.1.symm rfl, hBoth.2⟩

end Edit

------------------------------------------------------------
-- Records with the same value and the same new messages
------------------------------------------------------------

/-
  Two records of a kind have the same value in a field, and the
  messages of the field that they had not at two starts are the
  same as well.
-/
structure Record.GrownAlike
    (field : String)
    (start other r s : Record) : Prop where
  isLinked_eq : s.isLinked = r.isLinked
  get_eq : s.get field = r.get field
  errors_eq :
    ∃ added, r.errorsAt field = start.errorsAt field ++ added ∧
      s.errorsAt field = other.errorsAt field ++ added
  infos_eq :
    ∃ added, r.infosAt field = start.infosAt field ++ added ∧
      s.infosAt field = other.infosAt field ++ added

/- Only the field counts. -/
theorem Record.GrownAlike.congr
    {field : String}
    {start other r s r' s' : Record}
    (hAlike : GrownAlike field start other r s)
    (hLeft : SameAt field r r')
    (hRight : SameAt field s s') :
    GrownAlike field start other r' s' := by
  refine ⟨?_, ?_, ?_, ?_⟩
  · rw [hRight.isLinked_eq, hLeft.isLinked_eq, hAlike.isLinked_eq]
  · rw [← hRight.get_eq, ← hLeft.get_eq, hAlike.get_eq]
  · unfold errorsAt
    rw [hRight.errors_eq, hLeft.errors_eq]
    exact hAlike.errors_eq
  · unfold infosAt
    rw [hRight.infos_eq, hLeft.infos_eq]
    exact hAlike.infos_eq

namespace Edit

open Record

variable {α : Type} {field : String} {start other : Record}

/-
  A step that gives results on related records gives the same one,
  and leaves related records.
-/
def AgreesOnReturn
    (R : Record → Record → Prop)
    (m : Edit α) : Prop :=
  ∀ r s a b r' s', R r s →
    m.outcome r = (.ok a, r') → m.outcome s = (.ok b, s') →
      a = b ∧ R r' s'

/-
  What holds of every single step on a field on return, holds of
  all that is made up of such steps.
-/
theorem ConfinedTo.agreesOnReturn
    {R : Record → Record → Prop}
    {m : Edit α}
    (hConfined : ConfinedTo field m)
    (hGet : AgreesOnReturn R (Edit.getField field))
    (hLinked : AgreesOnReturn R Edit.isLinked)
    (hSet : ∀ v, AgreesOnReturn R (Edit.setField field v))
    (hAnnotate :
      ∀ note message,
        AgreesOnReturn R (Edit.annotate note field message)) :
    AgreesOnReturn R m := by
  induction hConfined with
  | ofResult result =>
      intro r s a b r' s' hRelated hRun hOther
      cases hRun
      cases hOther
      exact ⟨rfl, hRelated⟩
  | getField => exact hGet
  | setField v => exact hSet v
  | annotate note message => exact hAnnotate note message
  | isLinked => exact hLinked
  | bind _ _ hFirst hSecond =>
      intro r s a b r' s' hRelated hRun hOther
      rcases exists_of_outcome_bind hRun with
        ⟨middle, t, hStep, hRest⟩
      rcases exists_of_outcome_bind hOther with
        ⟨middle', t', hStep', hRest'⟩
      rcases hFirst r s middle middle' t t' hRelated hStep hStep' with
        ⟨rfl, hBetween⟩
      exact hSecond middle t t' a b r' s' hBetween hRest hRest'

theorem set_of_outcome
    {v : Value}
    {r r' : Record}
    (hRun : (setField field v).outcome r = (.ok (), r')) :
    r.set field v = .ok r' := by
  rw [outcome_setField] at hRun
  cases hStored : r.set field v with
  | error failure =>
      rw [hStored] at hRun
      cases hRun
  | ok stored =>
      rw [hStored] at hRun
      cases hRun
      rfl

theorem setField_grownAlike
    (v : Value) :
    AgreesOnReturn (GrownAlike field start other)
      (setField field v) := by
  intro r s _ _ r' s' hAlike hRun hOther
  have hSet := set_of_outcome hRun
  have hSet' := set_of_outcome hOther
  rcases messages_of_set hSet with ⟨hKind, hErrors, hInfos⟩
  rcases messages_of_set hSet' with ⟨hKind', hErrors', hInfos'⟩
  refine ⟨rfl, ?_, ?_, ?_, ?_⟩
  · rw [hKind', hKind, hAlike.isLinked_eq]
  · rw [get_of_set hSet', get_of_set hSet]
  · unfold errorsAt
    rw [hErrors, hErrors']
    exact hAlike.errors_eq
  · unfold infosAt
    rw [hInfos, hInfos']
    exact hAlike.infos_eq

theorem annotate_grownAlike
    (note : Note)
    (message : String) :
    AgreesOnReturn (GrownAlike field start other)
      (annotate note field message) := by
  intro r s _ _ r' s' hAlike hRun hOther
  rw [outcome_annotate] at hRun hOther
  cases r with
  | detached cells => cases hRun
  | linked values errors infos =>
      cases s with
      | detached cells => cases hOther
      | linked others errors' infos' =>
          rcases hAlike.errors_eq with ⟨added, hErrors, hErrors'⟩
          rcases hAlike.infos_eq with ⟨noted, hInfos, hInfos'⟩
          cases note with
          | error =>
              cases hRun
              cases hOther
              refine ⟨rfl, rfl, hAlike.get_eq, ?_, hAlike.infos_eq⟩
              refine ⟨added ++ [message], ?_, ?_⟩
              · rw [← List.append_assoc, ← hErrors]
                exact getD_withMessage_self errors field message
              · rw [← List.append_assoc, ← hErrors']
                exact getD_withMessage_self errors' field message
          | info =>
              cases hRun
              cases hOther
              refine ⟨rfl, rfl, hAlike.get_eq, hAlike.errors_eq, ?_⟩
              refine ⟨noted ++ [message], ?_, ?_⟩
              · rw [← List.append_assoc, ← hInfos]
                exact getD_withMessage_self infos field message
              · rw [← List.append_assoc, ← hInfos']
                exact getD_withMessage_self infos' field message

/-
  A step on a field that gives results on records with the same
  value in it gives the same one, leaves the same value and adds
  the same messages.
-/
theorem ConfinedTo.grownAlike
    {m : Edit α}
    {r s r' s' : Record}
    {a b : α}
    (hConfined : ConfinedTo field m)
    (hKind : s.isLinked = r.isLinked)
    (hGet : s.get field = r.get field)
    (hRun : m.outcome r = (.ok a, r'))
    (hOther : m.outcome s = (.ok b, s')) :
    a = b ∧ GrownAlike field r s r' s' := by
  have hAgrees : AgreesOnReturn (GrownAlike field r s) m := by
    apply hConfined.agreesOnReturn
    · intro r s v w r' s' hAlike hRun hOther
      rw [outcome_getField] at hRun hOther
      rcases Prod.mk.inj hRun with ⟨hLeft, rfl⟩
      rcases Prod.mk.inj hOther with ⟨hRight, rfl⟩
      have hValue := hAlike.get_eq
      rw [hLeft, hRight] at hValue
      cases hValue
      exact ⟨rfl, hAlike⟩
    · intro r s v w r' s' hAlike hRun hOther
      cases hRun
      cases hOther
      exact ⟨hAlike.isLinked_eq.symm, hAlike⟩
    · exact setField_grownAlike
    · exact annotate_grownAlike
  have hStart : GrownAlike field r s r s :=
    ⟨hKind, hGet, ⟨[], by simp⟩, ⟨[], by simp⟩⟩
  exact hAgrees r s a b r' s' hStart hRun hOther

end Edit

end RecordRules
