import RecordRules.Proofs.Record.Alike

/-
  How many messages a record has.

  Main declarations:
    * `Record.messagesAt` and `Record.messageCount`
    * `Record.GrownAt`, changes that add messages to one field only
    * `Edit.ConfinedTo.grownAt`
-/

namespace RecordRules

namespace Record

------------------------------------------------------------
-- Messages of a kind
------------------------------------------------------------

/- The messages of a kind. -/
def messages (r : Record) : Note → Entries (List String)
  | .error => r.errors
  | .info => r.infos

/- The messages of a kind for a field. -/
def messagesAt
    (r : Record)
    (note : Note)
    (field : String) : List String :=
  ((r.messages note).get? field).getD []

/- The number of messages of some fields. -/
def countMessages (messages : Entries (List String)) : Nat :=
  Numeric.total (messages.map (·.2.length))

/- The number of messages of a kind for all fields. -/
def messageCount
    (r : Record)
    (note : Note) : Nat :=
  countMessages (r.messages note)

theorem countMessages_cons
    (entry : String × List String)
    (rest : Entries (List String)) :
    countMessages (entry :: rest) =
      entry.2.length + countMessages rest :=
  rfl

/- Other messages for a field count in place of those it had. -/
theorem countMessages_put
    (messages : Entries (List String))
    (field : String)
    (texts : List String) :
    countMessages (messages.put field texts) +
        ((messages.get? field).getD []).length =
      countMessages messages + texts.length := by
  induction messages with
  | nil =>
      have hNone : Entries.get? ([] : Entries (List String)) field = none :=
        rfl
      rw [Entries.put, hNone, countMessages_cons]
      simp [countMessages, Numeric.total]
  | cons entry rest ih =>
      unfold Entries.put
      rw [Entries.get?_cons]
      split
      · rw [countMessages_cons, countMessages_cons, Option.getD_some]
        dsimp only
        omega
      · rw [countMessages_cons, countMessages_cons]
        omega

/- A further message counts once. -/
theorem countMessages_withMessage
    (messages : Entries (List String))
    (field message : String) :
    countMessages (withMessage messages field message) =
      countMessages messages + 1 := by
  have hPut :=
    countMessages_put messages field
      ((messages.get? field).getD [] ++ [message])
  rw [List.length_append, List.length_singleton] at hPut
  rw [withMessage]
  omega

------------------------------------------------------------
-- Messages of one field
------------------------------------------------------------

/-
  There are as many more messages of a kind in all as there are for
  the field.
-/
def GrownAt
    (note : Note)
    (field : String)
    (r s : Record) : Prop :=
  s.messageCount note + (r.messagesAt note field).length =
    r.messageCount note + (s.messagesAt note field).length

variable {note : Note} {field : String} {r s t : Record}

theorem GrownAt.of_messages_eq
    (hMessages : s.messages note = r.messages note) :
    GrownAt note field r s := by
  unfold GrownAt messageCount messagesAt
  rw [hMessages]

theorem GrownAt.trans
    (hFirst : GrownAt note field r s)
    (hSecond : GrownAt note field s t) :
    GrownAt note field r t := by
  unfold GrownAt at *
  omega

/- Records with the same in a field have the same messages for it. -/
theorem SameAt.messagesAt_eq
    (hSame : SameAt field r s)
    (note : Note) :
    s.messagesAt note field = r.messagesAt note field := by
  unfold messagesAt
  cases note with
  | error => exact congrArg (·.getD []) hSame.errors_eq
  | info => exact congrArg (·.getD []) hSame.infos_eq

end Record

namespace Edit

open Record

variable {kind : Note} {field : String}

theorem setField_grownAt
    (v : Value) :
    MovesBy (GrownAt kind field) (setField field v) := by
  intro r
  rw [outcome_setField]
  cases hSet : r.set field v with
  | error failure => exact .of_messages_eq rfl
  | ok s =>
      rcases messages_of_set hSet with ⟨-, hErrors, hInfos⟩
      refine .of_messages_eq ?_
      cases kind with
      | error => exact hErrors
      | info => exact hInfos

theorem annotate_grownAt
    (note : Note)
    (message : String) :
    MovesBy (GrownAt kind field) (annotate note field message) := by
  intro r
  rw [outcome_annotate]
  cases r with
  | detached cells => exact .of_messages_eq rfl
  | linked values errors infos =>
      have hGrown (messages : Entries (List String)) :
          countMessages (withMessage messages field message) +
              ((messages.get? field).getD []).length =
            countMessages messages +
              (((withMessage messages field message).get? field).getD
                []).length := by
        rw [countMessages_withMessage, getD_withMessage_self,
          List.length_append, List.length_singleton]
        omega
      cases note <;> cases kind
      · exact hGrown errors
      · exact .of_messages_eq rfl
      · exact .of_messages_eq rfl
      · exact hGrown infos

theorem ConfinedTo.grownAt
    {α : Type}
    {m : Edit α}
    (hConfined : ConfinedTo field m)
    (kind : Note)
    (r : Record) :
    GrownAt kind field r (m.outcome r).2 := by
  have hMoves : MovesBy (GrownAt kind field) m :=
    hConfined.movesBy (fun _ => .of_messages_eq rfl)
      (fun _ _ _ => .trans) setField_grownAt annotate_grownAt
  exact hMoves r

end Edit

end RecordRules
