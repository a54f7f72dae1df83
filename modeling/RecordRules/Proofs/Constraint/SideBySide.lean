import RecordRules.Proofs.Record.Fields
import RecordRules.Proofs.Rule.Confined

/-
  Records that hold the same values in the fields of a plan, and
  what the constraints of the plan make of them.

  Main declarations:
    * `Record.SameOn`, the relation between two records
    * `Constraint.applyAll_agrees`
-/

namespace RecordRules

open Edit

------------------------------------------------------------
-- Records with the same fields
------------------------------------------------------------

/-
  Two linked records with the same errors and infos hold the same
  values in some fields.
-/
structure Record.SameOn
    (fields : List String)
    (r s : Record) : Prop where
  left_linked : r.isLinked = true
  right_linked : s.isLinked = true
  errors_eq : r.errors = s.errors
  infos_eq : r.infos = s.infos
  get_eq : ∀ field ∈ fields, r.get field = s.get field

namespace Edit

variable {fields : List String}

theorem getField_sameOn
    {field : String}
    (hField : field ∈ fields) :
    AgreesUnder (Record.SameOn fields) (getField field) := by
  intro r s hSame
  exact ⟨hSame.get_eq field hField, hSame⟩

theorem isLinked_sameOn :
    AgreesUnder (Record.SameOn fields) isLinked := by
  intro r s hSame
  refine ⟨?_, hSame⟩
  rw [outcome_isLinked, outcome_isLinked, hSame.left_linked,
    hSame.right_linked]

theorem setField_sameOn
    (field : String)
    (v : Value) :
    AgreesUnder (Record.SameOn fields) (setField field v) := by
  intro r s hSame
  rcases Record.exists_of_isLinked hSame.left_linked with
    ⟨values, errors, infos, rfl⟩
  rcases Record.exists_of_isLinked hSame.right_linked with
    ⟨others, _, _, rfl⟩
  refine ⟨rfl, rfl, rfl, hSame.errors_eq, hSame.infos_eq, ?_⟩
  intro other hOther
  have hGet := hSame.get_eq other hOther
  rw [outcome_setField_linked, outcome_setField_linked]
  by_cases hName : field = other
  · subst hName
    rw [Record.get_put, Record.get_put]
  · simp only [Record.get, Entries.get?_put_of_ne _ hName]
    exact hGet

theorem annotate_sameOn
    (note : Note)
    (field message : String) :
    AgreesUnder (Record.SameOn fields)
      (annotate note field message) := by
  intro r s hSame
  rcases Record.exists_of_isLinked hSame.left_linked with
    ⟨values, errors, infos, rfl⟩
  rcases Record.exists_of_isLinked hSame.right_linked with
    ⟨others, _, _, rfl⟩
  have hErrors := hSame.errors_eq
  have hInfos := hSame.infos_eq
  simp only [Record.errors, Record.infos] at hErrors hInfos
  subst hErrors hInfos
  cases note with
  | error => exact ⟨rfl, rfl, rfl, rfl, rfl, hSame.get_eq⟩
  | info => exact ⟨rfl, rfl, rfl, rfl, rfl, hSame.get_eq⟩

/- What is confined to one of the fields does not tell them apart. -/
theorem ConfinedTo.sameOn
    {α : Type}
    {field : String}
    {m : Edit α}
    (hConfined : ConfinedTo field m)
    (hField : field ∈ fields) :
    AgreesUnder (Record.SameOn fields) m :=
  hConfined.agreesUnder (getField_sameOn hField) isLinked_sameOn
    (setField_sameOn field) (fun note => annotate_sameOn note field)

end Edit

/- The constraints of a plan tell no records with its fields apart. -/
theorem Constraint.applyAll_agrees
    {fields : List String}
    (context : Context)
    (plan : Constraint.Plan)
    (hFields : ∀ entry ∈ plan, entry.1 ∈ fields) :
    AgreesUnder (Record.SameOn fields)
      (Constraint.applyAll context plan) := by
  induction plan with
  | nil =>
      intro r s hSame
      exact ⟨rfl, hSame⟩
  | cons entry plan ih =>
      rcases entry with ⟨field, constraints⟩
      have hField : field ∈ fields := hFields _ List.mem_cons_self
      have hRest :=
        ih fun entry hMember =>
          hFields entry (List.mem_cons_of_mem _ hMember)
      unfold Constraint.applyAll
      refine
        ((applyEach_confined context field constraints).sameOn
          hField).bind fun verdict => ?_
      refine hRest.bind fun verdicts => ?_
      intro r s hSame
      exact ⟨rfl, hSame⟩

end RecordRules
