import RecordRules.Proofs.Record.Fields
import RecordRules.Rule.Report

/-
  Steps on a record that return.

  Main declarations:
    * `Edit.Returns`, steps that return on every record
    * `Edit.ReturnsIff`, steps that return on a record exactly under
      a condition and otherwise leave it as it is
    * the same for reports, notes and formatted values
    * `Rule.exists_changeMessage`
-/

namespace RecordRules

namespace Edit

variable {α β : Type}

------------------------------------------------------------
-- Steps that always return
------------------------------------------------------------

/- A step returns on every record. -/
def Returns (m : Edit α) : Prop :=
  ∀ r, ∃ a s, m.outcome r = (.ok a, s)

theorem Returns.pure (a : α) : Returns (Pure.pure a) :=
  fun r => ⟨a, r, rfl⟩

theorem Returns.bind
    {m : Edit α}
    {f : α → Edit β}
    (hFirst : Returns m)
    (hSecond : ∀ a, Returns (f a)) :
    Returns (m >>= f) := by
  intro r
  rcases hFirst r with ⟨a, s, hStep⟩
  rw [outcome_bind_of_ok hStep]
  exact hSecond a s

/- What is done for linked records only need return on these. -/
theorem Returns.whenLinked
    {wanted : Bool}
    {m other : Edit α}
    (hLinked :
      ∀ r, r.isLinked = true → ∃ a s, m.outcome r = (.ok a, s))
    (hOther : Returns other) :
    Returns (do if wanted && (← isLinked) then m else other) := by
  intro r
  rw [outcome_bind_of_ok (outcome_isLinked r)]
  split
  · rename_i hWanted
    rw [Bool.and_eq_true] at hWanted
    exact hLinked r hWanted.2
  · exact hOther r

------------------------------------------------------------
-- Steps that return under a condition
------------------------------------------------------------

/-
  A step on a record returns exactly under a condition. Where it does
  not, it fails and leaves the record as it is.
-/
structure ReturnsIff
    (m : Edit α)
    (r : Record)
    (p : Prop) : Prop where
  returns : p → ∃ a s, m.outcome r = (.ok a, s)
  fails : ¬ p → ∃ failure, m.outcome r = (.error failure, r)

section ReturnsIff

variable {r : Record} {p q : Prop}

theorem Returns.returnsIff
    {m : Edit α}
    (hReturns : Returns m)
    (hAlways : p) :
    ReturnsIff m r p :=
  ⟨fun _ => hReturns r, (absurd hAlways ·)⟩

theorem ReturnsIff.congr
    {m : Edit α}
    (hStep : ReturnsIff m r p)
    (hSame : p ↔ q) :
    ReturnsIff m r q :=
  ⟨hStep.returns ∘ hSame.mpr, fun hNot => hStep.fails (hNot ∘ hSame.mp)⟩

theorem ReturnsIff.getField_bind
    {field : String}
    {v : Value}
    {f : Value → Edit α}
    (hGet : r.get field = .ok v)
    (hRest : ReturnsIff (f v) r p) :
    ReturnsIff (getField field >>= f) r p := by
  have hSame := outcome_getField_bind hGet f
  constructor
  · rw [hSame]
    exact hRest.returns
  · rw [hSame]
    exact hRest.fails

/- What follows a result is done if there is one. -/
theorem ReturnsIff.ofResult_bind
    {result : Except Failure α}
    {f : α → Edit β}
    (hResult : (∃ a, result = .ok a) ↔ p)
    (hRest : ∀ a, result = .ok a → ReturnsIff (f a) r q) :
    ReturnsIff (Edit.ofResult result >>= f) r (p ∧ q) := by
  cases result with
  | ok a =>
      have hThere : p := hResult.mp ⟨a, rfl⟩
      exact (hRest a rfl).congr (by simp [hThere])
  | error failure =>
      have hNone : ¬ p := by
        intro hThere
        rcases hResult.mpr hThere with ⟨a, hEq⟩
        cases hEq
      exact ⟨fun hBoth => (hNone hBoth.1).elim, fun _ => ⟨failure, rfl⟩⟩

/- A step that always returns does not change when a step returns. -/
theorem ReturnsIff.bind
    {m : Edit α}
    {f : α → Edit β}
    (hStep : ReturnsIff m r p)
    (hRest : ∀ a, Returns (f a)) :
    ReturnsIff (m >>= f) r p where
  returns := by
    intro hThere
    rcases hStep.returns hThere with ⟨a, s, hRun⟩
    rw [outcome_bind_of_ok hRun]
    exact hRest a s
  fails := by
    intro hNot
    rcases hStep.fails hNot with ⟨failure, hRun⟩
    exact ⟨failure, by rw [outcome_bind, hRun]⟩

end ReturnsIff

end Edit

------------------------------------------------------------
-- Reports, notes and formatted values
------------------------------------------------------------

namespace Rule

open Edit

variable (options : RuleOptions) (field : String)

/- Notes are refused by detached records only. -/
theorem annotate_returns
    {r : Record}
    (hLinked : r.isLinked = true)
    (note : Note)
    (message : String) :
    ∃ a s, (annotate note field message).outcome r = (.ok a, s) := by
  rcases Record.exists_of_isLinked hLinked with
    ⟨values, errors, infos, rfl⟩
  cases note <;> exact ⟨(), _, rfl⟩

theorem report_returns
    (present valid : Bool)
    (standard : String) :
    Returns (report options field present valid standard) :=
  .whenLinked (fun _ hLinked => annotate_returns field hLinked _ _)
    (.pure ())

theorem noteChange_returns
    (message : String) :
    Returns (noteChange options field (.ok message)) :=
  .whenLinked (fun _ hLinked => annotate_returns field hLinked _ _)
    (.pure ())

theorem store_returns
    (text : List Char) :
    Returns (store options field text) := by
  refine .whenLinked (fun r hLinked => ?_) (.pure ())
  rcases Record.exists_of_isLinked hLinked with
    ⟨values, errors, infos, rfl⟩
  exact ⟨(), _, outcome_setField_linked values errors infos field _⟩

/- What has a text can be told from what it was changed. -/
theorem exists_changeMessage
    (before : String)
    {v : Value}
    {text : List Char}
    (hPrint : v.print = .ok text) :
    ∃ message, changeMessage options before v = .ok message := by
  unfold changeMessage changeText
  rw [hPrint]
  split
  · exact ⟨_, rfl⟩
  · split <;> exact ⟨_, rfl⟩

end Rule

end RecordRules
