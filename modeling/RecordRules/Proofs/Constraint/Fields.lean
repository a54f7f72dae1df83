import RecordRules.Proofs.Record.Alike
import RecordRules.Proofs.Rule.Confined

/-
  The fields of a plan on their own, and lists of constraints in
  parts.

  Main declarations:
    * `Constraint.Plan.constraintsOf`
    * `Constraint.alone_of_applyAll`, what a plan makes of a field
      is what the constraints of the field make of it
    * `Constraint.applyAll_of_alone`, plans that give verdicts
    * `Constraint.applyEach_append`
    * `Constraint.fields_independent`
-/

namespace RecordRules

open Edit Record

namespace Constraint

------------------------------------------------------------
-- The constraints of a field
------------------------------------------------------------

/- The constraints of a field, none if a plan does not name it. -/
def Plan.constraintsOf
    (plan : Plan)
    (field : String) : List Constraint :=
  (Entries.get? plan field).getD []

theorem Plan.constraintsOf_cons_self
    (field : String)
    (constraints : List Constraint)
    (rest : Plan) :
    constraintsOf ((field, constraints) :: rest) field =
      constraints := by
  simp [constraintsOf, Entries.get?_cons]

theorem Plan.constraintsOf_cons_of_ne
    {name field : String}
    (hOther : name ≠ field)
    (constraints : List Constraint)
    (rest : Plan) :
    constraintsOf ((name, constraints) :: rest) field =
      constraintsOf rest field := by
  simp [constraintsOf, Entries.get?_cons, hOther]

theorem Plan.constraintsOf_of_not_mem
    {plan : Plan}
    {field : String}
    (hField : field ∉ plan.map (·.1)) :
    constraintsOf plan field = [] := by
  unfold constraintsOf
  cases hGet : Entries.get? plan field with
  | none => rfl
  | some constraints =>
      exact absurd (Entries.mem_names_of_get? hGet) hField

------------------------------------------------------------
-- Fields on their own
------------------------------------------------------------

variable
  {context : Context}
  {field : String}
  {plan : Plan}
  {r s : Record}
  {verdicts : Entries Bool}

/- The constraints of one field keep all others. -/
theorem applyEach_sameAt
    (context : Context)
    {name : String}
    (hOther : name ≠ field)
    (constraints : List Constraint)
    (r : Record) :
    SameAt field r ((applyEach context name constraints).outcome r).2 :=
  ((applyEach_confined context name constraints).changedAt r).sameAt
    hOther

/- The constraints of a field give the same where the field is the same. -/
theorem exists_of_applyEach
    {constraints : List Constraint}
    {valid : Bool}
    {r' : Record}
    (hSame : SameAt field r s)
    (hRun :
      (applyEach context field constraints).outcome r =
        (.ok valid, r')) :
    ∃ s',
      (applyEach context field constraints).outcome s =
        (.ok valid, s') ∧
      SameAt field r' s' :=
  (applyEach_confined context field constraints).exists_of_sameAt
    hSame hRun

/- A plan keeps the fields that it does not name. -/
theorem applyAll_sameAt
    (context : Context)
    (hField : field ∉ plan.map (·.1))
    (r : Record) :
    SameAt field r ((applyAll context plan).outcome r).2 := by
  induction plan generalizing r with
  | nil => exact .refl r
  | cons entry rest ih =>
      rcases entry with ⟨name, constraints⟩
      rw [List.map_cons, List.mem_cons, not_or] at hField
      rcases hField with ⟨hName, hRest⟩
      have hFirst :=
        applyEach_sameAt context (Ne.symm hName) constraints r
      unfold applyAll
      rw [outcome_bind]
      rcases hStep : (applyEach context name constraints).outcome r with
        ⟨failure | verdict, t⟩
      · rw [hStep] at hFirst
        exact hFirst
      · rw [hStep] at hFirst
        have hOthers := ih hRest t
        dsimp only
        rw [outcome_bind]
        rcases hTail : (applyAll context rest).outcome t with
          ⟨failure | others, u⟩
        · rw [hTail] at hOthers
          exact hFirst.trans hOthers
        · rw [hTail] at hOthers
          exact hFirst.trans hOthers

/-
  What a plan makes of a field and the verdict that it gives are what
  the constraints of the field give on their own.
-/
theorem alone_of_applyAll
    (hNames : (plan.map (·.1)).Nodup)
    (hRun : (applyAll context plan).outcome r = (.ok verdicts, s))
    (field : String) :
    ∃ valid t,
      (applyEach context field (plan.constraintsOf field)).outcome r =
        (.ok valid, t) ∧
      SameAt field t s ∧
      Entries.get? verdicts field =
        (Entries.get? plan field).map fun _ => valid := by
  induction plan generalizing r verdicts with
  | nil =>
      cases hRun
      exact ⟨true, s, rfl, .refl s, rfl⟩
  | cons entry rest ih =>
      rcases entry with ⟨name, constraints⟩
      rw [List.map_cons, List.nodup_cons] at hNames
      rcases hNames with ⟨hNew, hNames⟩
      rcases exists_of_outcome_bind hRun with
        ⟨verdict, t, hFirst, hTail⟩
      rcases exists_of_outcome_bind hTail with
        ⟨others, u, hRest, hEnd⟩
      rw [outcome_pure] at hEnd
      rcases Prod.mk.inj hEnd with ⟨hEntries, rfl⟩
      cases hEntries
      by_cases hName : name = field
      · subst hName
        -- the rest of the plan keeps the field
        have hKept := applyAll_sameAt context hNew t
        rw [hRest] at hKept
        refine ⟨verdict, t, ?_, hKept, ?_⟩
        · rw [Plan.constraintsOf_cons_self]
          exact hFirst
        · rw [Entries.get?_cons, Entries.get?_cons]
          simp
      · -- the rest of the plan finds the field as it was
        have hKept := applyEach_sameAt context hName constraints r
        rw [hFirst] at hKept
        rcases ih hNames hRest with ⟨valid, v, hAlone, hSame, hVerdict⟩
        rcases exists_of_applyEach hKept.symm hAlone with
          ⟨w, hBefore, hAlike⟩
        refine ⟨valid, w, ?_, hAlike.symm.trans hSame, ?_⟩
        · rw [Plan.constraintsOf_cons_of_ne hName]
          exact hBefore
        · rw [Entries.get?_cons, Entries.get?_cons]
          simpa [hName] using hVerdict

/- A plan gives verdicts if the constraints of every field do. -/
theorem applyAll_of_alone
    (hNames : (plan.map (·.1)).Nodup)
    (hAlone :
      ∀ field, ∃ valid t,
        (applyEach context field (plan.constraintsOf field)).outcome r =
          (.ok valid, t)) :
    ∃ verdicts s,
      (applyAll context plan).outcome r = (.ok verdicts, s) := by
  induction plan generalizing r with
  | nil => exact ⟨[], r, rfl⟩
  | cons entry rest ih =>
      rcases entry with ⟨name, constraints⟩
      rw [List.map_cons, List.nodup_cons] at hNames
      rcases hNames with ⟨hNew, hNames⟩
      rcases hAlone name with ⟨verdict, t, hFirst⟩
      rw [Plan.constraintsOf_cons_self] at hFirst
      have hOthers :
          ∀ field, ∃ valid u,
            (applyEach context field
                (Plan.constraintsOf rest field)).outcome t =
              (.ok valid, u) := by
        intro field
        by_cases hName : name = field
        · subst hName
          rw [Plan.constraintsOf_of_not_mem hNew]
          exact ⟨true, t, rfl⟩
        · rcases hAlone field with ⟨valid, u, hRun⟩
          rw [Plan.constraintsOf_cons_of_ne hName] at hRun
          have hKept := applyEach_sameAt context hName constraints r
          rw [hFirst] at hKept
          rcases exists_of_applyEach hKept hRun with ⟨w, hAfter, -⟩
          exact ⟨valid, w, hAfter⟩
      rcases ih hNames hOthers with ⟨others, u, hRest⟩
      refine ⟨(name, verdict) :: others, u, ?_⟩
      unfold applyAll
      rw [outcome_bind_of_ok hFirst, outcome_bind_of_ok hRest]
      rfl

------------------------------------------------------------
-- Fields in another order
------------------------------------------------------------

/- Plans in different orders give the same for every field. -/
theorem applyAll_perm
    {others : Plan}
    (hNames : (plan.map (·.1)).Nodup)
    (hPerm : plan.Perm others)
    (hRun : (applyAll context plan).outcome r = (.ok verdicts, s)) :
    ∃ verdicts' s',
      (applyAll context others).outcome r = (.ok verdicts', s') ∧
      ∀ field,
        Entries.get? verdicts' field = Entries.get? verdicts field ∧
        SameAt field s s' := by
  have hOtherNames : (others.map (·.1)).Nodup :=
    (hPerm.map (·.1)).nodup_iff.mp hNames
  have hLists (field : String) :
      Entries.get? others field = Entries.get? plan field :=
    (Entries.get?_perm hNames hPerm field).symm
  have hReturns :
      ∃ verdicts' s',
        (applyAll context others).outcome r = (.ok verdicts', s') := by
    apply applyAll_of_alone hOtherNames
    intro field
    rcases alone_of_applyAll hNames hRun field with
      ⟨valid, t, hAlone, -, -⟩
    refine ⟨valid, t, ?_⟩
    unfold Plan.constraintsOf
    rw [hLists field]
    exact hAlone
  rcases hReturns with ⟨verdicts', s', hOther⟩
  refine ⟨verdicts', s', hOther, fun field => ?_⟩
  rcases alone_of_applyAll hNames hRun field with
    ⟨valid, t, hAlone, hSame, hVerdict⟩
  rcases alone_of_applyAll hOtherNames hOther field with
    ⟨valid', t', hAlone', hSame', hVerdict'⟩
  unfold Plan.constraintsOf at hAlone hAlone'
  rw [hLists field, hAlone] at hAlone'
  cases hAlone'
  constructor
  · rw [hVerdict, hVerdict', hLists field]
  · exact hSame.symm.trans hSame'

------------------------------------------------------------
-- What a field rests on
------------------------------------------------------------

/-
  Plans with the same constraints for a field do the same to it on
  records of a kind that hold the same value in it.
-/
theorem applyAll_grownAlike
    {others : Plan}
    {r' s' : Record}
    {verdicts' : Entries Bool}
    (hNames : (plan.map (·.1)).Nodup)
    (hOtherNames : (others.map (·.1)).Nodup)
    (hLists : Entries.get? others field = Entries.get? plan field)
    (hKind : r'.isLinked = r.isLinked)
    (hGet : r'.get field = r.get field)
    (hRun : (applyAll context plan).outcome r = (.ok verdicts, s))
    (hOther :
      (applyAll context others).outcome r' = (.ok verdicts', s')) :
    Entries.get? verdicts' field = Entries.get? verdicts field ∧
      GrownAlike field r r' s s' := by
  rcases alone_of_applyAll hNames hRun field with
    ⟨valid, t, hAlone, hSame, hVerdict⟩
  rcases alone_of_applyAll hOtherNames hOther field with
    ⟨valid', t', hAlone', hSame', hVerdict'⟩
  unfold Plan.constraintsOf at hAlone hAlone'
  rw [hLists] at hAlone' hVerdict'
  rcases
    (applyEach_confined context field _).grownAlike hKind hGet hAlone
      hAlone' with
    ⟨rfl, hAlike⟩
  constructor
  · rw [hVerdict, hVerdict']
  · exact hAlike.congr hSame hSame'

------------------------------------------------------------
-- Lists in two parts
------------------------------------------------------------

/-
  Constraints in two parts are the first part and then the second,
  whatever the verdict on the first is.
-/
theorem applyEach_append
    (context : Context)
    (field : String)
    (first second : List Constraint) :
    applyEach context field (first ++ second) =
      (do
        let valid ← applyEach context field first
        let others ← applyEach context field second
        return valid && others) := by
  induction first with
  | nil =>
      simp only [List.nil_append, applyEach, pure_bind, Bool.true_and,
        bind_pure]
  | cons c rest ih =>
      simp only [List.cons_append, applyEach, ih, bind_assoc,
        pure_bind, Bool.and_assoc]

theorem applyEach_append_of_ok
    {first second : List Constraint}
    {valid others : Bool}
    {t : Record}
    (hFirst :
      (applyEach context field first).outcome r = (.ok valid, t))
    (hSecond :
      (applyEach context field second).outcome t = (.ok others, s)) :
    (applyEach context field (first ++ second)).outcome r =
      (.ok (valid && others), s) := by
  rw [applyEach_append, outcome_bind_of_ok hFirst,
    outcome_bind_of_ok hSecond, outcome_pure]

theorem exists_of_applyEach_append
    {first second : List Constraint}
    {both : Bool}
    (hRun :
      (applyEach context field (first ++ second)).outcome r =
        (.ok both, s)) :
    ∃ valid others t,
      (applyEach context field first).outcome r = (.ok valid, t) ∧
      (applyEach context field second).outcome t = (.ok others, s) := by
  rw [applyEach_append] at hRun
  rcases exists_of_outcome_bind hRun with ⟨valid, t, hFirst, hTail⟩
  rcases exists_of_outcome_bind hTail with ⟨others, u, hSecond, hEnd⟩
  rw [outcome_pure] at hEnd
  rcases Prod.mk.inj hEnd with ⟨-, rfl⟩
  exact ⟨valid, others, t, hFirst, hSecond⟩

section Parts

variable
  {first second whole : Plan}
  {t u : Record}
  {firsts seconds : Entries Bool}

/- What two plans one after the other make of a field. -/
theorem alone_of_parts
    (hFirstNames : (first.map (·.1)).Nodup)
    (hSecondNames : (second.map (·.1)).Nodup)
    (hFirst : (applyAll context first).outcome r = (.ok firsts, t))
    (hSecond : (applyAll context second).outcome t = (.ok seconds, u))
    (field : String) :
    ∃ valid others v,
      (applyEach context field
          (first.constraintsOf field ++
            second.constraintsOf field)).outcome r =
        (.ok (valid && others), v) ∧
      SameAt field v u ∧
      Entries.get? firsts field =
        (Entries.get? first field).map (fun _ => valid) ∧
      Entries.get? seconds field =
        (Entries.get? second field).map (fun _ => others) := by
  rcases alone_of_applyAll hFirstNames hFirst field with
    ⟨valid, r₁, hAlone, hSame, hValid⟩
  rcases alone_of_applyAll hSecondNames hSecond field with
    ⟨others, t₁, hAlone', hSame', hOthers⟩
  rcases exists_of_applyEach hSame.symm hAlone' with
    ⟨v, hAfter, hAlike⟩
  exact ⟨valid, others, v, applyEach_append_of_ok hAlone hAfter,
    hAlike.symm.trans hSame', hValid, hOthers⟩

variable
  (hFirstNames : (first.map (·.1)).Nodup)
  (hSecondNames : (second.map (·.1)).Nodup)
  (hWholeNames : (whole.map (·.1)).Nodup)
  (hParts :
    ∀ field,
      whole.constraintsOf field =
        first.constraintsOf field ++ second.constraintsOf field)

include hFirstNames hSecondNames hWholeNames hParts

/- A plan gives verdicts exactly if its parts do. -/
theorem applyAll_returns_iff :
    (∃ verdicts s,
      (applyAll context whole).outcome r = (.ok verdicts, s)) ↔
    ∃ firsts t seconds u,
      (applyAll context first).outcome r = (.ok firsts, t) ∧
      (applyAll context second).outcome t = (.ok seconds, u) := by
  constructor
  · rintro ⟨verdicts, s, hRun⟩
    -- the parts of every field on its own
    have hAlone (field : String) :
        ∃ valid others v w,
          (applyEach context field
              (first.constraintsOf field)).outcome r =
            (.ok valid, v) ∧
          (applyEach context field
              (second.constraintsOf field)).outcome v =
            (.ok others, w) := by
      rcases alone_of_applyAll hWholeNames hRun field with
        ⟨both, w, hBoth, -, -⟩
      rw [hParts field] at hBoth
      rcases exists_of_applyEach_append hBoth with
        ⟨valid, others, v, hFirst, hSecond⟩
      exact ⟨valid, others, v, w, hFirst, hSecond⟩
    have hStart :
        ∃ firsts t,
          (applyAll context first).outcome r = (.ok firsts, t) := by
      apply applyAll_of_alone hFirstNames
      intro field
      rcases hAlone field with ⟨valid, _, v, _, hFirst, -⟩
      exact ⟨valid, v, hFirst⟩
    rcases hStart with ⟨firsts, t, hFirst⟩
    have hRest :
        ∃ seconds u,
          (applyAll context second).outcome t = (.ok seconds, u) := by
      apply applyAll_of_alone hSecondNames
      intro field
      rcases hAlone field with ⟨valid, others, v, w, hLeft, hRight⟩
      rcases alone_of_applyAll hFirstNames hFirst field with
        ⟨valid', v', hLeft', hSame, -⟩
      rw [hLeft] at hLeft'
      cases hLeft'
      rcases exists_of_applyEach hSame hRight with ⟨u, hAfter, -⟩
      exact ⟨others, u, hAfter⟩
    rcases hRest with ⟨seconds, u, hSecond⟩
    exact ⟨firsts, t, seconds, u, hFirst, hSecond⟩
  · rintro ⟨firsts, t, seconds, u, hFirst, hSecond⟩
    apply applyAll_of_alone hWholeNames
    intro field
    rcases alone_of_parts hFirstNames hSecondNames hFirst hSecond
        field with
      ⟨valid, others, v, hRun, -⟩
    rw [hParts field]
    exact ⟨valid && others, v, hRun⟩

/- A plan does to a field what its parts do one after the other. -/
theorem applyAll_parts
    (hRun : (applyAll context whole).outcome r = (.ok verdicts, s))
    (hFirst : (applyAll context first).outcome r = (.ok firsts, t))
    (hSecond : (applyAll context second).outcome t = (.ok seconds, u))
    (field : String) :
    SameAt field s u ∧
    ∃ valid others,
      Entries.get? verdicts field =
        (Entries.get? whole field).map (fun _ => valid && others) ∧
      Entries.get? firsts field =
        (Entries.get? first field).map (fun _ => valid) ∧
      Entries.get? seconds field =
        (Entries.get? second field).map (fun _ => others) := by
  rcases alone_of_applyAll hWholeNames hRun field with
    ⟨both, v, hBoth, hSame, hVerdict⟩
  rcases alone_of_parts hFirstNames hSecondNames hFirst hSecond
      field with
    ⟨valid, others, w, hAlone, hAlike, hValid, hOthers⟩
  rw [hParts field, hAlone] at hBoth
  cases hBoth
  exact ⟨hSame.symm.trans hAlike, valid, others, hVerdict, hValid,
    hOthers⟩

end Parts

------------------------------------------------------------
-- Lists in two parts for every field
------------------------------------------------------------

/- For every field two lists of constraints. -/
abbrev Halves :=
  Entries (List Constraint × List Constraint)

namespace Halves

/- The plan with the first list of every field. -/
def first (halves : Halves) : Plan :=
  halves.map fun entry => (entry.1, entry.2.1)

/- The plan with the second list of every field. -/
def second (halves : Halves) : Plan :=
  halves.map fun entry => (entry.1, entry.2.2)

/- The plan with both lists of every field, one after the other. -/
def whole (halves : Halves) : Plan :=
  halves.map fun entry => (entry.1, entry.2.1 ++ entry.2.2)

variable (halves : Halves) (field : String)

theorem names_first : halves.first.map (·.1) = halves.map (·.1) := by
  simp [first]

theorem names_second : halves.second.map (·.1) = halves.map (·.1) := by
  simp [second]

theorem names_whole : halves.whole.map (·.1) = halves.map (·.1) := by
  simp [whole]

theorem get?_first :
    Entries.get? halves.first field =
      (Entries.get? halves field).map (·.1) :=
  Entries.get?_map_values halves (fun _ lists => lists.1) field

theorem get?_second :
    Entries.get? halves.second field =
      (Entries.get? halves field).map (·.2) :=
  Entries.get?_map_values halves (fun _ lists => lists.2) field

theorem get?_whole :
    Entries.get? halves.whole field =
      (Entries.get? halves field).map (fun lists => lists.1 ++ lists.2) :=
  Entries.get?_map_values halves
    (fun _ lists => lists.1 ++ lists.2) field

theorem constraintsOf_whole :
    halves.whole.constraintsOf field =
      halves.first.constraintsOf field ++
        halves.second.constraintsOf field := by
  unfold Plan.constraintsOf
  rw [get?_whole, get?_first, get?_second]
  cases Entries.get? halves field <;> rfl

end Halves

------------------------------------------------------------
-- Independence
------------------------------------------------------------

/-
  Fields are independent, and lists of constraints compose. Whatever
  the order of the fields of a plan, the verdicts and the record
  after it are the same. Fields without constraints stay as they
  are. What a field gets rests on its value and its constraints
  only. And two lists one after the other do what the joined lists
  do at once, with both verdicts taken together.
-/
theorem fields_independent
    (context : Context)
    (r : Record) :
    (∀ (plan others : Plan) verdicts s,
      (plan.map (·.1)).Nodup → plan.Perm others →
      (applyAll context plan).outcome r = (.ok verdicts, s) →
        ∃ verdicts' s',
          (applyAll context others).outcome r = (.ok verdicts', s') ∧
          ∀ field,
            Entries.get? verdicts' field =
              Entries.get? verdicts field ∧
            s.SameAt field s') ∧
    (∀ (plan : Plan) field,
      field ∉ plan.map (·.1) →
        r.SameAt field ((applyAll context plan).outcome r).2) ∧
    (∀ (plan others : Plan) field r' verdicts s verdicts' s',
      (plan.map (·.1)).Nodup → (others.map (·.1)).Nodup →
      Entries.get? others field = Entries.get? plan field →
      r'.isLinked = r.isLinked → r'.get field = r.get field →
      (applyAll context plan).outcome r = (.ok verdicts, s) →
      (applyAll context others).outcome r' = (.ok verdicts', s') →
        Entries.get? verdicts' field = Entries.get? verdicts field ∧
        GrownAlike field r r' s s') ∧
    ∀ halves : Halves, (halves.map (·.1)).Nodup →
      ((∃ verdicts s,
          (applyAll context halves.whole).outcome r =
            (.ok verdicts, s)) ↔
        ∃ firsts t seconds u,
          (applyAll context halves.first).outcome r =
            (.ok firsts, t) ∧
          (applyAll context halves.second).outcome t =
            (.ok seconds, u)) ∧
      ∀ verdicts s firsts t seconds u,
        (applyAll context halves.whole).outcome r =
          (.ok verdicts, s) →
        (applyAll context halves.first).outcome r = (.ok firsts, t) →
        (applyAll context halves.second).outcome t =
          (.ok seconds, u) →
          ∀ field,
            s.SameAt field u ∧
            Entries.get? verdicts field =
              (Entries.get? firsts field).bind fun valid =>
                (Entries.get? seconds field).map (valid && ·) := by
  refine ⟨?_, ?_, ?_, ?_⟩
  · intro plan others verdicts s hNames hPerm hRun
    exact applyAll_perm hNames hPerm hRun
  · intro plan field hField
    exact applyAll_sameAt context hField r
  · intro plan others field r' verdicts s verdicts' s' hNames
      hOtherNames hLists hKind hGet hRun hOther
    exact applyAll_grownAlike hNames hOtherNames hLists hKind hGet hRun
      hOther
  · intro halves hNames
    have hFirst := (halves.names_first).symm ▸ hNames
    have hSecond := (halves.names_second).symm ▸ hNames
    have hWhole := (halves.names_whole).symm ▸ hNames
    constructor
    · exact applyAll_returns_iff hFirst hSecond hWhole
        halves.constraintsOf_whole
    · intro verdicts s firsts t seconds u hRun hFirstRun hSecondRun field
      rcases applyAll_parts hFirst hSecond hWhole
          halves.constraintsOf_whole hRun hFirstRun hSecondRun field with
        ⟨hSame, valid, others, hVerdict, hValid, hOthers⟩
      refine ⟨hSame, ?_⟩
      rw [hVerdict, hValid, hOthers, halves.get?_whole,
        halves.get?_first, halves.get?_second]
      cases Entries.get? halves field <;> rfl

/-
  A text that is no address is refused, and a text that is there is
  not, in either order of the two fields. The refusal is the same on
  a record without the other field, which it leaves as it was, and
  also where the constraints of the field come in two parts.
-/
theorem two_fields_in_either_order :
    ∃ (context : Context) (mail name : Constraint) (r r' s s' : Record),
      (∃ verdicts t,
        (applyAll context [("mail", [mail]), ("name", [name])]).outcome
            r = (.ok verdicts, t) ∧
        Entries.get? verdicts "mail" = some false ∧
        Entries.get? verdicts "name" = some true) ∧
      r.SameAt "name"
        ((applyAll context [("mail", [mail])]).outcome r).2 ∧
      GrownAlike "mail" r r' s s' ∧
      ∃ firsts t seconds u,
        (applyAll context [("mail", [mail])]).outcome r =
          (.ok firsts, t) ∧
        (applyAll context [("mail", [name])]).outcome t =
          (.ok seconds, u) := by
  let context : Context :=
    ⟨.midnight ⟨2024, 1, 1, by decide⟩, false, "US"⟩
  let mail : Constraint :=
    .mk .text { mode := .validate, ruleType := "isEmail" }
  let name : Constraint := .mk .text { mode := .validate }
  let errors := [("mail", ["Please enter a valid email address"])]
  let r : Record :=
    .ofValues [("mail", .text "x"), ("name", .text "y")]
  let s : Record :=
    .linked [("mail", .text "x"), ("name", .text "y")] errors []
  let r' : Record := .ofValues [("mail", .text "x")]
  let s' : Record := .linked [("mail", .text "x")] errors []
  have hRun :
      (applyAll context [("name", [name]), ("mail", [mail])]).outcome r =
        (.ok [("name", true), ("mail", false)], s) :=
    rfl
  have hOther :
      (applyAll context [("mail", [mail])]).outcome r' =
        (.ok [("mail", false)], s') :=
    rfl
  have hWhole :
      (applyAll context [("mail", [mail, name])]).outcome r =
        (.ok [("mail", false)], s) :=
    rfl
  rcases fields_independent context r with
    ⟨hOrder, hFrame, hValue, hParts⟩
  refine ⟨context, mail, name, r, r', s, s', ?_, ?_, ?_, ?_⟩
  · rcases hOrder _ _ _ _ (by decide) (.swap _ _ []) hRun with
      ⟨verdicts, t, hSwapped, hSame⟩
    exact ⟨verdicts, t, hSwapped, (hSame "mail").1, (hSame "name").1⟩
  · exact hFrame [("mail", [mail])] "name" (by simp)
  · have hAlike :=
      hValue [("name", [name]), ("mail", [mail])] [("mail", [mail])]
        "mail" r' _ s _ s' (by decide) (by decide) rfl rfl rfl hRun
        hOther
    exact hAlike.2
  · let halves : Halves := [("mail", [mail], [name])]
    exact (hParts halves (by decide)).1.mp ⟨_, _, hWhole⟩

end Constraint

end RecordRules
