import RecordRules.Date.Natural.Reading

/-
  Date texts with numbers that are not too long.

  Main declarations:
    * `Date.IsExact`, answers other than a fraction that is too long
    * `Date.IsShort`, tokens that are no number of 29 digits
    * `Date.readNumber_exact` and `Date.readToken_exact`
    * `Date.readNatural_exact`
-/

namespace RecordRules

namespace Date

open Text Numeric

------------------------------------------------------------
-- Answers
------------------------------------------------------------

section Yields

variable {α β : Type} {p : α → Prop} {q : β → Prop}

/- An answer has a property, or the text cannot be read. -/
def Yields (p : α → Prop) : Answer α → Prop
  | .ok a => p a
  | .error refusal => refusal = .unreadable

/- An answer is not that a fraction is too long. -/
abbrev IsExact (answer : Answer α) : Prop :=
  Yields (fun _ => True) answer

theorem Yields.bind
    {answer : Answer α}
    {f : α → Answer β}
    (hFirst : Yields p answer)
    (hRest : ∀ a, p a → Yields q (f a)) :
    Yields q (answer >>= f) := by
  cases answer with
  | error refusal => exact hFirst
  | ok a => exact hRest a hFirst

theorem IsExact.bind
    {answer : Answer α}
    {f : α → Answer β}
    (hFirst : IsExact answer)
    (hRest : ∀ a, Yields q (f a)) :
    Yields q (answer >>= f) :=
  Yields.bind hFirst fun a _ => hRest a

theorem Yields.ok
    {a : α}
    (hHolds : p a) :
    Yields p (.ok a) :=
  hHolds

theorem Yields.unreadable : Yields p (.error .unreadable) :=
  rfl

theorem Yields.ne_inexactFraction
    {answer : Answer α}
    (hYields : Yields p answer) :
    answer ≠ .error .inexactFraction := by
  rintro rfl
  cases hYields

theorem demand_exact
    (value : Option α) :
    IsExact (demand value) := by
  cases value with
  | none => exact .unreadable
  | some a => exact .ok trivial

end Yields

theorem wholeNumber_exact
    (token : Token) :
    IsExact (wholeNumber token) := by
  unfold wholeNumber
  refine (demand_exact _).bind fun digits => ?_
  split
  · exact .unreadable
  · exact .ok trivial

------------------------------------------------------------
-- Members
------------------------------------------------------------

namespace Members

variable (m : Members)

theorem pushYear_exact
    (n : Nat) :
    IsExact (m.pushYear n) := by
  unfold pushYear
  split
  · exact .unreadable
  · exact .ok trivial

theorem pushMonth_exact
    (n : Nat) :
    IsExact (m.pushMonth n) := by
  unfold pushMonth
  split
  · exact .unreadable
  · exact .ok trivial

theorem pushToken_exact
    (token : Token)
    (isYear : Bool) :
    IsExact (m.pushToken token isYear) := by
  unfold pushToken
  refine (wholeNumber_exact token).bind fun n => ?_
  split
  · exact pushYear_exact _ n
  · split
    · exact m.pushYear_exact n
    · exact .ok trivial

theorem pushQuantity_exact
    (q : Quantity) :
    IsExact (m.pushQuantity q) := by
  unfold pushQuantity
  split
  · exact pushYear_exact _ q.whole
  · exact .ok trivial

theorem resolve_exact
    (dayFirst : Bool) :
    IsExact (m.resolve dayFirst) := by
  unfold resolve
  split
  all_goals first
    | exact .ok trivial
    | exact .unreadable

end Members

------------------------------------------------------------
-- Quantities
------------------------------------------------------------

/- Whether a number has a whole part of 28 digits at most. -/
def Quantity.IsShort (q : Quantity) : Prop :=
  q.whole < tenPow Quantity.precision

/- Whether a token is no number, or a short one. -/
def IsShort (token : Token) : Prop :=
  ∀ q ∈ Quantity.read? token, q.IsShort

theorem Quantity.sixtieths?_exact
    {q : Quantity}
    (hShort : q.IsShort) :
    IsExact q.sixtieths? := by
  unfold Quantity.sixtieths?
  rw [if_neg (Nat.not_le.mpr hShort)]
  dsimp only
  split
  · exact .ok trivial
  · exact .ok trivial

------------------------------------------------------------
-- Times
------------------------------------------------------------

namespace Found

variable (found : Found)

theorem setMinutes_exact
    {q : Quantity}
    (hShort : q.IsShort) :
    IsExact (found.setMinutes q) := by
  unfold setMinutes
  exact (Quantity.sixtieths?_exact hShort).bind fun _ => .ok trivial

theorem setSeconds_exact
    (token : Token) :
    IsExact (found.setSeconds token) := by
  unfold setSeconds
  split
  · dsimp only
    refine (wholeNumber_exact _).bind fun second => ?_
    split
    · exact .unreadable
    · exact (wholeNumber_exact _).bind fun _ => .ok trivial
  · exact (wholeNumber_exact token).bind fun _ => .ok trivial

theorem setUnit_exact
    (token : Token)
    {q : Quantity}
    (hShort : q.IsShort)
    (unit : Nat) :
    IsExact (found.setUnit token q unit) := by
  unfold setUnit
  split
  · refine (Quantity.sixtieths?_exact hShort).bind fun minute => ?_
    split
    · exact .ok trivial
    · exact .ok trivial
  · exact found.setMinutes_exact hShort
  · exact found.setSeconds_exact token
  · exact .ok trivial

end Found

------------------------------------------------------------
-- Spots
------------------------------------------------------------

/- The tokens that an outcome leaves are short. -/
def Outcome.LeavesShort (outcome : Outcome) : Prop :=
  ∀ token ∈ outcome.after, IsShort token

/- A token and those after it are short. -/
structure Spot.IsShort (s : Spot) : Prop where
  token : Date.IsShort s.token
  after : ∀ token ∈ s.after, Date.IsShort token

namespace Spot

variable {s : Spot} (found : Found)

/- What leaves the following tokens as they are leaves them short. -/
theorem give_yields
    (hShort : s.IsShort)
    (taken : Nat) :
    Yields Outcome.LeavesShort (.ok (s.give found taken)) :=
  hShort.after

theorem next?_isShort
    (hShort : s.IsShort)
    {n : Nat}
    {token : Token}
    (hNext : s.next? n = some token) :
    Date.IsShort token :=
  hShort.after token (List.mem_of_getElem? hNext)

theorem readClock_yields
    (hShort : s.IsShort)
    (q : Quantity)
    {minutes : Token}
    (hMinutes : Date.IsShort minutes) :
    Yields Outcome.LeavesShort (s.readClock found q minutes) := by
  unfold readClock
  have hRead :
      Yields Quantity.IsShort (demand (Quantity.read? minutes)) := by
    rcases hQuantity : Quantity.read? minutes with _ | m
    · exact .unreadable
    · exact hMinutes m hQuantity
  refine hRead.bind fun m hShortMinutes => ?_
  refine (Found.setMinutes_exact _ hShortMinutes).bind fun found => ?_
  split
  · refine (found.setSeconds_exact _).bind fun found => ?_
    exact give_yields found hShort 4
  · exact give_yields found hShort 2

theorem readMarked_yields
    (hShort : s.IsShort)
    (mark : Token) :
    Yields Outcome.LeavesShort (s.readMarked found mark) := by
  unfold readMarked
  refine (Members.pushToken_exact _ _ _).bind fun members => ?_
  split
  · exact give_yields _ hShort 1
  · extract_lets last rest
    have hRest (members : Members) :
        Yields Outcome.LeavesShort (rest members) := by
      unfold rest
      split
      · refine (demand_exact _).bind fun third => ?_
        split
        · refine (Members.pushMonth_exact _ _).bind fun members => ?_
          exact give_yields _ hShort 4
        · refine (Members.pushToken_exact _ _ _).bind fun members => ?_
          exact give_yields _ hShort 4
      · exact give_yields _ hShort 2
    split
    · exact give_yields _ hShort 1
    · split
      · exact (Members.pushToken_exact _ _ _).bind hRest
      · refine (demand_exact _).bind fun month => ?_
        exact (Members.pushMonth_exact _ _).bind hRest

theorem readCompactDate_yields
    (hShort : s.IsShort) :
    Yields Outcome.LeavesShort (s.readCompactDate found) := by
  unfold readCompactDate
  refine (Members.pushToken_exact _ _ _).bind fun members => ?_
  refine (Members.pushToken_exact _ _ _).bind fun members => ?_
  refine (Members.pushToken_exact _ _ _).bind fun members => ?_
  dsimp only
  split
  · refine (wholeNumber_exact _).bind fun hour => ?_
    refine (wholeNumber_exact _).bind fun minute => ?_
    split
    · refine (wholeNumber_exact _).bind fun second => ?_
      exact give_yields _ hShort 0
    · exact give_yields _ hShort 0
  · exact give_yields _ hShort 0

theorem readSix_yields
    (hShort : s.IsShort) :
    Yields Outcome.LeavesShort (s.readSix found) := by
  unfold readSix
  dsimp only
  split
  · refine (Members.pushToken_exact _ _ _).bind fun members => ?_
    refine (Members.pushToken_exact _ _ _).bind fun members => ?_
    refine (Members.pushToken_exact _ _ _).bind fun members => ?_
    exact give_yields _ hShort 0
  · refine (wholeNumber_exact _).bind fun hour => ?_
    refine (wholeNumber_exact _).bind fun minute => ?_
    refine (Found.setSeconds_exact _ _).bind fun found => ?_
    exact give_yields _ hShort 0

theorem readCompactTime_yields
    (hShort : s.IsShort) :
    Yields Outcome.LeavesShort (s.readCompactTime found) := by
  unfold readCompactTime
  refine (wholeNumber_exact _).bind fun hour => ?_
  dsimp only
  split
  · refine (wholeNumber_exact _).bind fun minute => ?_
    exact give_yields _ hShort 0
  · exact give_yields _ hShort 0

theorem readSeparate_yields
    (hShort : s.IsShort)
    (q : Quantity) :
    Yields Outcome.LeavesShort (s.readSeparate found q) := by
  unfold readSeparate
  split
  · exact give_yields _ hShort 2
  · refine (Members.pushQuantity_exact _ q).bind fun members => ?_
    exact give_yields _ hShort 1

theorem readDay_yields
    (hShort : s.IsShort)
    (q : Quantity) :
    Yields Outcome.LeavesShort (s.readDay found q) := by
  unfold readDay
  split
  · refine (Members.pushQuantity_exact _ q).bind fun members => ?_
    exact give_yields _ hShort 0
  · exact .unreadable

/- A number that is short leaves only fractions that are. -/
theorem readNumber_yields
    (hShort : s.IsShort)
    {q : Quantity}
    (hQuantity : q.IsShort) :
    Yields Outcome.LeavesShort (s.readNumber found q) := by
  unfold readNumber
  extract_lets size
  split
  · exact readCompactTime_yields found hShort
  split
  · exact readSix_yields found hShort
  split
  · exact readCompactDate_yields found hShort
  split
  · refine (Found.setUnit_exact _ _ hQuantity _).bind fun found => ?_
    exact give_yields found hShort _
  split
  · rename_i minutes hColon hMinutes
    exact
      readClock_yields found hShort q (next?_isShort hShort hMinutes)
  split
  · exact readSeparate_yields found hShort q
  split
  · exact readMarked_yields found hShort _
  split
  · exact readSeparate_yields found hShort q
  split
  · split
    · exact give_yields _ hShort 1
    · exact readDay_yields found hShort q
  · exact readDay_yields found hShort q

theorem readMonth_yields
    (hShort : s.IsShort)
    (fullYear : Nat → Nat)
    (month : Nat) :
    Yields Outcome.LeavesShort (s.readMonth found fullYear month) := by
  unfold readMonth
  refine (Members.pushMonth_exact _ _).bind fun members => ?_
  extract_lets marked
  split
  · refine (demand_exact _).bind fun second => ?_
    refine (Members.pushToken_exact _ _ _).bind fun members => ?_
    split
    · refine (demand_exact _).bind fun third => ?_
      refine (Members.pushToken_exact _ _ _).bind fun members => ?_
      exact give_yields _ hShort 4
    · exact give_yields _ hShort 2
  · split
    · split
      · split
        · refine (wholeNumber_exact _).bind fun year => ?_
          refine (Members.pushToken_exact _ _ _).bind fun members => ?_
          exact give_yields _ hShort 4
        · exact give_yields _ hShort 4
      · exact give_yields _ hShort 0
    · exact give_yields _ hShort 0

theorem readHalfDay_yields
    (hShort : s.IsShort)
    (half : HalfDay) :
    Yields Outcome.LeavesShort (s.readHalfDay found half) := by
  unfold readHalfDay
  refine (demand_exact _).bind fun hour => ?_
  split
  · exact .unreadable
  · exact give_yields _ hShort 0

/- A sign is no number. -/
theorem isShort_sign
    (c : Char)
    (hSign : c = '+' ∨ c = '-') :
    Date.IsShort [c] := by
  rcases hSign with rfl | rfl
  all_goals
    intro q hRead
    cases hRead

theorem readZone_leavesShort
    (hShort : s.IsShort) :
    (s.readZone found).LeavesShort := by
  have hRest {sign other : Token} {rest : List Token}
      (hAfter : s.after = sign :: rest)
      (hOther : Date.IsShort other) :
      ∀ token ∈ other :: rest, Date.IsShort token := by
    intro token hMember
    rcases List.mem_cons.mp hMember with rfl | hLater
    · exact hOther
    · exact
        hShort.after token
          (by rw [hAfter]; exact List.mem_cons_of_mem _ hLater)
  unfold readZone
  dsimp only
  split
  · rename_i rest hAfter
    exact hRest hAfter (isShort_sign '-' (.inr rfl))
  · rename_i rest hAfter
    exact hRest hAfter (isShort_sign '+' (.inl rfl))
  · exact hShort.after

theorem readOffset_yields
    (hShort : s.IsShort) :
    Yields Outcome.LeavesShort (s.readOffset found) := by
  unfold readOffset
  refine (demand_exact _).bind fun first => ?_
  extract_lets rest
  have hRest (parts : Nat × Nat × Nat) :
      Yields Outcome.LeavesShort (rest parts) := by
    unfold rest
    dsimp only
    split
    · split
      · exact give_yields _ hShort _
      · exact give_yields _ hShort _
    · exact give_yields _ hShort _
  split
  · refine (wholeNumber_exact _).bind fun hours => ?_
    refine (wholeNumber_exact _).bind fun minutes => ?_
    exact hRest (hours, minutes, 0)
  · split
    · refine (wholeNumber_exact _).bind fun hours => ?_
      refine (demand_exact _).bind fun third => ?_
      refine (wholeNumber_exact _).bind fun minutes => ?_
      exact hRest (hours, minutes, 2)
    · split
      · refine (wholeNumber_exact _).bind fun hours => ?_
        exact hRest (hours, 0, 0)
      · exact .unreadable

/- A short token is read without a fraction that is too long. -/
theorem readToken_yields
    (hShort : s.IsShort)
    (fullYear : Nat → Nat) :
    Yields Outcome.LeavesShort (s.readToken found fullYear) := by
  unfold readToken
  extract_lets rest
  have hRest : Yields Outcome.LeavesShort (rest ()) := by
    unfold rest
    split
    · rename_i q hRead
      exact readNumber_yields found hShort (hShort.token q hRead)
    split
    · exact give_yields _ hShort 0
    split
    · exact readMonth_yields found hShort fullYear _
    split
    · exact readHalfDay_yields found hShort _
    split
    · exact readZone_leavesShort found hShort
    split
    · exact readOffset_yields found hShort
    split
    · exact give_yields found hShort 0
    · exact .unreadable
  split
  · exact .unreadable
  · exact hRest

end Spot

------------------------------------------------------------
-- Whole texts
------------------------------------------------------------

/- Short tokens are read without a fraction that is too long. -/
theorem readTokens_exact
    (fullYear : Nat → Nat)
    (fuel : Nat) :
    ∀ (found : Found) (before after : List Token),
      (∀ token ∈ after, IsShort token) →
        IsExact (readTokens fullYear found before fuel after) := by
  induction fuel with
  | zero =>
      intro found before after hAfter
      cases after with
      | nil => exact .ok trivial
      | cons token rest => exact .unreadable
  | succ fuel ih =>
      intro found before after hAfter
      cases after with
      | nil => exact .ok trivial
      | cons token rest =>
          unfold readTokens
          have hSpot : Spot.IsShort ⟨before, token, rest⟩ :=
            ⟨hAfter token List.mem_cons_self,
              fun other hLater =>
                hAfter other (List.mem_cons_of_mem token hLater)⟩
          refine
            (Spot.readToken_yields found hSpot fullYear).bind
              fun outcome hShort => ?_
          exact
            ih _ _ _ fun other hLater =>
              hShort other (List.mem_of_mem_drop hLater)

theorem Found.day_exact
    (found : Found)
    (parts : Members.Parts)
    (today : Day) :
    IsExact (found.day parts today) := by
  unfold Found.day
  dsimp only
  refine (demand_exact _).bind fun date => ?_
  split
  · exact demand_exact _
  · exact .ok trivial

theorem Found.stamp_exact
    (found : Found)
    (clock : Instant)
    (dayFirst : Bool) :
    IsExact (found.stamp clock dayFirst) := by
  unfold Found.stamp
  refine (Members.resolve_exact _ dayFirst).bind fun parts => ?_
  extract_lets year rest
  have hRest : IsExact (rest ()) := by
    refine (found.day_exact _ _).bind fun day => ?_
    exact (demand_exact _).bind fun time => .ok trivial
  split
  · exact .unreadable
  · exact hRest

/-
  A text whose numbers have whole parts of 28 digits at most is read,
  or cannot be read, but never for a fraction.
-/
theorem readNatural_exact
    {text : List Char}
    (hShort : ∀ token ∈ tokens text, IsShort token)
    (clock : Instant)
    (dayFirst : Bool) :
    readNatural clock dayFirst text ≠ .error .inexactFraction := by
  unfold readNatural
  dsimp only
  refine Yields.ne_inexactFraction (p := fun _ => True) ?_
  refine (readTokens_exact _ _ _ _ _ hShort).bind fun found => ?_
  exact found.stamp_exact clock dayFirst

end Date

end RecordRules
