import RecordRules.Record

/-
  What a step on a record gives, and the record that it leaves.

  Main declarations:
    * `Edit.outcome`
    * `Edit.outcome_bind`, one step after another
    * the outcomes of the single steps
-/

namespace RecordRules

/- A sequence that gives a result has a first part that gives one. -/
theorem Failure.exists_of_bind
    {α β : Type}
    {first : Except Failure α}
    {f : α → Except Failure β}
    {b : β}
    (hRun : first >>= f = .ok b) :
    ∃ a, first = .ok a ∧ f a = .ok b := by
  cases first with
  | error failure => cases hRun
  | ok a => exact ⟨a, rfl, hRun⟩

/- Results in order that are each known to be a certain one. -/
theorem Failure.map_of_mapM
    {α β : Type}
    {f : α → Except Failure β}
    {g : α → β}
    {items : List α}
    {results : List β}
    (hItems : ∀ a b, f a = .ok b → b = g a)
    (hRun : items.mapM f = .ok results) :
    results = items.map g := by
  induction items generalizing results with
  | nil =>
      cases hRun
      rfl
  | cons a items ih =>
      rw [List.mapM_cons] at hRun
      rcases exists_of_bind hRun with ⟨b, hFirst, hRest⟩
      rcases exists_of_bind hRest with ⟨others, hOthers, hAll⟩
      cases hAll
      rw [List.map_cons, hItems a b hFirst, ih hOthers]

/- Results in order are there for every single item. -/
theorem Failure.exists_of_mapM
    {α β : Type}
    {f : α → Except Failure β}
    {items : List α}
    {results : List β}
    (hRun : items.mapM f = .ok results)
    {a : α}
    (hItem : a ∈ items) :
    ∃ b, f a = .ok b := by
  induction items generalizing results with
  | nil => cases hItem
  | cons first items ih =>
      rw [List.mapM_cons] at hRun
      rcases exists_of_bind hRun with ⟨b, hFirst, hRest⟩
      rcases exists_of_bind hRest with ⟨others, hOthers, -⟩
      rcases List.mem_cons.mp hItem with rfl | hLater
      · exact ⟨b, hFirst⟩
      · exact ih hOthers hLater

namespace Edit

variable {α β : Type}

/- The result of a step on a record, with the record after it. -/
def outcome
    (m : Edit α)
    (r : Record) : Except Failure α × Record :=
  m.run.run r

------------------------------------------------------------
-- Sequences
------------------------------------------------------------

@[simp] theorem outcome_pure
    (a : α)
    (r : Record) :
    (pure a : Edit α).outcome r = (.ok a, r) :=
  rfl

@[simp] theorem outcome_ofResult
    (result : Except Failure α)
    (r : Record) :
    (ofResult result).outcome r = (result, r) :=
  rfl

/- A failure stops a sequence, and what was changed stays. -/
theorem outcome_bind
    (m : Edit α)
    (f : α → Edit β)
    (r : Record) :
    (m >>= f).outcome r =
      match m.outcome r with
      | (.ok a, s) => (f a).outcome s
      | (.error failure, s) => (.error failure, s) := by
  rcases hFirst : m.outcome r with ⟨_ | a, s⟩ <;>
    simp only [outcome, ExceptT.run_bind, StateT.run_bind]
      at hFirst ⊢ <;>
    rw [hFirst] <;>
    rfl

theorem outcome_bind_of_ok
    {m : Edit α}
    {r s : Record}
    {a : α}
    (hFirst : m.outcome r = (.ok a, s))
    (f : α → Edit β) :
    (m >>= f).outcome r = (f a).outcome s := by
  rw [outcome_bind, hFirst]

/- A sequence that gives a result has a first step that gives one. -/
theorem exists_of_outcome_bind
    {m : Edit α}
    {f : α → Edit β}
    {r t : Record}
    {b : β}
    (hRun : (m >>= f).outcome r = (.ok b, t)) :
    ∃ a s, m.outcome r = (.ok a, s) ∧
      (f a).outcome s = (.ok b, t) := by
  rw [outcome_bind] at hRun
  rcases hFirst : m.outcome r with ⟨_ | a, s⟩
  · simp [hFirst] at hRun
  · exact ⟨a, s, rfl, by simpa [hFirst] using hRun⟩

/- A result that is needed is there, and the record is as it was. -/
theorem exists_of_outcome_ofResult_bind
    {result : Except Failure α}
    {f : α → Edit β}
    {r t : Record}
    {b : β}
    (hRun : (ofResult result >>= f).outcome r = (.ok b, t)) :
    ∃ a, result = .ok a ∧ (f a).outcome r = (.ok b, t) := by
  rcases exists_of_outcome_bind hRun with ⟨a, s, hFirst, hSecond⟩
  rw [outcome_ofResult] at hFirst
  cases hFirst
  exact ⟨a, rfl, hSecond⟩

/- A result that does not depend on the record is carried through. -/
theorem result_bind
    {m : Edit α}
    {f : α → Edit β}
    {g : α → Except Failure β}
    {r : Record}
    (hRest : ∀ a s, ((f a).outcome s).1 = g a) :
    ((m >>= f).outcome r).1 = (m.outcome r).1 >>= g := by
  rw [outcome_bind]
  rcases m.outcome r with ⟨failure | a, s⟩
  · rfl
  · exact hRest a s

/-
  A good verdict that is given back once more work is done is there
  exactly if it is good and the work is done.
-/
theorem outcome_verdict_iff
    {verdict : Edit Bool}
    {always : Bool}
    {work : Edit α}
    {r s : Record} :
    (do
        let valid ← verdict
        if valid || always then
          let _ ← work
        return valid : Edit Bool).outcome r =
        (.ok true, s) ↔
      ∃ t a, verdict.outcome r = (.ok true, t) ∧
        work.outcome t = (.ok a, s) := by
  constructor
  · intro hRun
    rcases exists_of_outcome_bind hRun with ⟨valid, t, hVerdict, hRest⟩
    cases valid with
    | true =>
        simp only [Bool.true_or, if_true] at hRest
        rcases exists_of_outcome_bind hRest with ⟨a, u, hWork, hEnd⟩
        rcases Prod.mk.inj hEnd with ⟨-, rfl⟩
        exact ⟨t, a, hVerdict, hWork⟩
    | false =>
        simp only [Bool.false_or] at hRest
        split at hRest
        · rcases exists_of_outcome_bind hRest with ⟨a, u, -, hEnd⟩
          cases hEnd
        · cases hRest
  · rintro ⟨t, a, hVerdict, hWork⟩
    rw [outcome_bind_of_ok hVerdict]
    simp only [Bool.true_or, if_true]
    rw [outcome_bind_of_ok hWork]
    rfl

------------------------------------------------------------
-- Results that are known
------------------------------------------------------------

@[simp] theorem ofResult_ok_bind
    (a : α)
    (f : α → Edit β) :
    (ofResult (.ok a) >>= f) = f a :=
  rfl

@[simp] theorem isLinked_bind_const
    (m : Edit α) :
    (isLinked >>= fun _ => m) = m :=
  rfl

------------------------------------------------------------
-- Single steps
------------------------------------------------------------

@[simp] theorem outcome_getField
    (field : String)
    (r : Record) :
    (getField field).outcome r = (r.get field, r) :=
  rfl

@[simp] theorem outcome_isLinked
    (r : Record) :
    isLinked.outcome r = (.ok r.isLinked, r) :=
  rfl

/- What goes on with a field goes on with its value. -/
theorem outcome_getField_bind
    {field : String}
    {v : Value}
    {r : Record}
    (hGet : r.get field = .ok v)
    (f : Value → Edit α) :
    (getField field >>= f).outcome r = (f v).outcome r := by
  rw [outcome_bind, outcome_getField, hGet]

/- A step that goes on with a field has found a value there. -/
theorem exists_of_outcome_getField_bind
    {field : String}
    {f : Value → Edit α}
    {r s : Record}
    {a : α}
    (hRun : (getField field >>= f).outcome r = (.ok a, s)) :
    ∃ v, r.get field = .ok v ∧ (f v).outcome r = (.ok a, s) := by
  rcases exists_of_outcome_bind hRun with ⟨v, t, hGet, hRest⟩
  rw [outcome_getField] at hGet
  rcases Prod.mk.inj hGet with ⟨hValue, rfl⟩
  exact ⟨v, hValue, hRest⟩

/- A record that cannot be written stays as it is. -/
theorem outcome_setField
    (field : String)
    (v : Value)
    (r : Record) :
    (setField field v).outcome r =
      match r.set field v with
      | .ok s => (.ok (), s)
      | .error failure => (.error failure, r) := by
  have hSteps :
      (setField field v).outcome r =
        (ofResult (r.set field v) >>= set).outcome r :=
    rfl
  rw [hSteps, outcome_bind]
  cases r.set field v <;> rfl

theorem outcome_annotate
    (note : Note)
    (field message : String)
    (r : Record) :
    (annotate note field message).outcome r =
      match r.annotate note field message with
      | .ok s => (.ok (), s)
      | .error failure => (.error failure, r) := by
  have hSteps :
      (annotate note field message).outcome r =
        (ofResult (r.annotate note field message) >>=
          set).outcome r :=
    rfl
  rw [hSteps, outcome_bind]
  cases r.annotate note field message <;> rfl

end Edit

end RecordRules
