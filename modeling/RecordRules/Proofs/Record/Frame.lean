import RecordRules.Proofs.Record.Fields

/-
  What a step on one field leaves of the rest of a record.

  Main declarations:
    * `Record.errorsAt` and `Record.infosAt`
    * `Record.ChangedAt`, changes of one field that take back no
      error and no info
    * `Edit.ConfinedTo.changedAt`
-/

namespace RecordRules

namespace Record

------------------------------------------------------------
-- Messages of a field
------------------------------------------------------------

/- The errors of a field, in the order in which they were reported. -/
def errorsAt
    (r : Record)
    (field : String) : List String :=
  (r.errors.get? field).getD []

/- The infos of a field, in the order in which they were noted. -/
def infosAt
    (r : Record)
    (field : String) : List String :=
  (r.infos.get? field).getD []

@[simp] theorem getD_withMessage_self
    (messages : Entries (List String))
    (field message : String) :
    ((withMessage messages field message).get? field).getD [] =
      (messages.get? field).getD [] ++ [message] := by
  simp [withMessage, Entries.get?_put_self]

theorem get?_withMessage_of_ne
    (messages : Entries (List String))
    {field other : String}
    (hOther : field ≠ other)
    (message : String) :
    (withMessage messages field message).get? other =
      messages.get? other :=
  Entries.get?_put_of_ne _ hOther _

------------------------------------------------------------
-- Changes of one field
------------------------------------------------------------

/-
  All other fields are as they were, and the errors and infos of
  the field still start with those that it had.
-/
structure ChangedAt
    (field : String)
    (r s : Record) : Prop where
  isLinked_eq : s.isLinked = r.isLinked
  values_eq :
    ∀ other, field ≠ other → s.values.get? other = r.values.get? other
  errors_eq :
    ∀ other, field ≠ other → s.errors.get? other = r.errors.get? other
  infos_eq :
    ∀ other, field ≠ other → s.infos.get? other = r.infos.get? other
  errors_prefix : r.errorsAt field <+: s.errorsAt field
  infos_prefix : r.infosAt field <+: s.infosAt field

variable {field : String} {r s t : Record}

theorem ChangedAt.refl (r : Record) : ChangedAt field r r :=
  ⟨rfl, fun _ _ => rfl, fun _ _ => rfl, fun _ _ => rfl,
    List.prefix_refl _, List.prefix_refl _⟩

theorem ChangedAt.trans
    (hFirst : ChangedAt field r s)
    (hSecond : ChangedAt field s t) :
    ChangedAt field r t where
  isLinked_eq := hSecond.isLinked_eq.trans hFirst.isLinked_eq
  values_eq := fun other hOther =>
    (hSecond.values_eq other hOther).trans
      (hFirst.values_eq other hOther)
  errors_eq := fun other hOther =>
    (hSecond.errors_eq other hOther).trans
      (hFirst.errors_eq other hOther)
  infos_eq := fun other hOther =>
    (hSecond.infos_eq other hOther).trans
      (hFirst.infos_eq other hOther)
  errors_prefix := hFirst.errors_prefix.trans hSecond.errors_prefix
  infos_prefix := hFirst.infos_prefix.trans hSecond.infos_prefix

end Record

namespace Edit

open Record

variable {field : String}

theorem setField_changedAt
    (v : Value) :
    MovesBy (ChangedAt field) (setField field v) := by
  intro r
  rw [outcome_setField]
  cases hSet : r.set field v with
  | error failure => exact .refl r
  | ok s =>
      rcases messages_of_set hSet with ⟨hKind, hErrors, hInfos⟩
      constructor
      · exact hKind
      · intro other hOther
        exact get?_values_of_set hSet hOther
      · intro other _
        rw [hErrors]
      · intro other _
        rw [hInfos]
      · refine ⟨[], ?_⟩
        rw [List.append_nil, errorsAt, errorsAt, hErrors]
      · refine ⟨[], ?_⟩
        rw [List.append_nil, infosAt, infosAt, hInfos]

theorem annotate_changedAt
    (note : Note)
    (message : String) :
    MovesBy (ChangedAt field) (annotate note field message) := by
  intro r
  rw [outcome_annotate]
  cases r with
  | detached cells => exact .refl _
  | linked values errors infos =>
      cases note with
      | error =>
          refine ⟨rfl, fun _ _ => rfl, fun other hOther => ?_,
            fun _ _ => rfl, ?_, List.prefix_refl _⟩
          · exact get?_withMessage_of_ne errors hOther message
          · simp [Record.annotate, errorsAt, Record.errors]
      | info =>
          refine ⟨rfl, fun _ _ => rfl, fun _ _ => rfl,
            fun other hOther => ?_, List.prefix_refl _, ?_⟩
          · exact get?_withMessage_of_ne infos hOther message
          · simp [Record.annotate, infosAt, Record.infos]

theorem ConfinedTo.changedAt
    {α : Type}
    {m : Edit α}
    (hConfined : ConfinedTo field m)
    (r : Record) :
    ChangedAt field r (m.outcome r).2 := by
  have hMoves : MovesBy (ChangedAt field) m :=
    hConfined.movesBy .refl (fun _ _ _ => .trans)
      setField_changedAt annotate_changedAt
  exact hMoves r

end Edit

end RecordRules
