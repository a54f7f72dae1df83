import RecordRules.Proofs.Phone.Reading
import RecordRules.Proofs.Text.Ascii

/-
  The digits of phone numbers.

  Main declarations:
    * `Phone.AreDigits`, and `Phone.Number.areDigits_of_read?`
    * `Phone.DigitPattern.least`, the fewest digits for a pattern
    * `Phone.Plan.withoutTrunk_of_contains`, numbers of a plan start
      with no digits that are dialled within the country only
    * `Phone.Number.isPossible_of_isValid`
-/

namespace RecordRules

open Text

namespace Phone

------------------------------------------------------------
-- The digits that are read
------------------------------------------------------------

/- Digits, each of them below ten. -/
def AreDigits (ds : List Nat) : Prop :=
  ∀ d ∈ ds, d < 10

theorem AreDigits.drop
    {ds : List Nat}
    (hDigits : AreDigits ds)
    (count : Nat) :
    AreDigits (ds.drop count) :=
  fun d hMember => hDigits d (List.mem_of_mem_drop hMember)

/- The key of a letter is below ten, as the value of a digit is. -/
theorem keypadDigit?_lt_ten
    {c : Char}
    {d : Nat}
    (hKey : keypadDigit? c = some d) :
    d < 10 := by
  unfold keypadDigit? at hKey
  split at hKey
  · rcases Option.or_eq_some_iff.mp hKey with hDigit | ⟨-, hLetter⟩
    · exact asciiDigit?_lt_ten hDigit
    · rcases Option.map_eq_some_iff.mp hLetter with
        ⟨key, hFound, rfl⟩
      have hKeys : ∀ key ∈ keypad, key.1 < 10 := by decide
      exact hKeys key (List.mem_of_find?_eq_some hFound)
  · cases hKey

theorem dialled_areDigits (cs : List Char) : AreDigits (dialled cs) := by
  intro d hMember
  unfold dialled at hMember
  split at hMember
  · rcases List.mem_filterMap.mp hMember with ⟨c, -, hKey⟩
    exact keypadDigit?_lt_ten hKey
  · rcases List.mem_filterMap.mp hMember with ⟨c, -, hValue⟩
    exact digitValue?_lt_ten hValue

variable {plan : Plan} {r : Region} {region : Option Region}
  {ds rest : List Nat} {cs : List Char}

theorem Plan.withoutTrunk_areDigits
    (hDigits : AreDigits ds) :
    AreDigits (plan.withoutTrunk ds) := by
  unfold Plan.withoutTrunk
  split
  · exact hDigits
  · dsimp only
    split
    · exact hDigits
    · exact hDigits.drop _

theorem areDigits_of_takeCode
    (hDigits : AreDigits ds)
    (hTaken : takeCode ds = .ok (r, rest)) :
    AreDigits rest := by
  unfold takeCode at hTaken
  split at hTaken
  · cases hTaken
  · split at hTaken
    · cases hTaken
      exact hDigits.drop _
    · cases hTaken

theorem areDigits_of_afterExit?
    (hDigits : AreDigits ds)
    (hRest : afterExit? plan ds = some rest) :
    AreDigits rest := by
  unfold afterExit? at hRest
  split at hRest
  · dsimp only at hRest
    split at hRest
    · cases hRest
    · cases hRest
      exact hDigits.drop _
  · cases hRest

theorem areDigits_of_afterOwnCode?
    (hDigits : AreDigits ds)
    (hRest : afterOwnCode? plan ds = some rest) :
    AreDigits rest := by
  unfold afterOwnCode? at hRest
  split at hRest
  · dsimp only at hRest
    split at hRest
    · cases hRest
      exact Plan.withoutTrunk_areDigits (hDigits.drop _)
    · cases hRest
  · cases hRest

theorem areDigits_of_splitCode
    (hSplit : splitCode region cs = .ok (some (r, ds))) :
    AreDigits ds := by
  unfold splitCode at hSplit
  split at hSplit
  · cases hSplit
  · have hTaken
        {source : List Nat}
        (hDigits : AreDigits source)
        (hEq : (takeCode source).map some = .ok (some (r, ds))) :
        AreDigits ds := by
      cases hTake : takeCode source with
      | error fault =>
          rw [hTake] at hEq
          cases hEq
      | ok found =>
          rw [hTake] at hEq
          cases hEq
          exact areDigits_of_takeCode hDigits hTake
    split at hSplit
    · exact hTaken (dialled_areDigits _) hSplit
    · split at hSplit
      · cases hSplit
      · dsimp only at hSplit
        split at hSplit
        · rename_i hExit
          exact hTaken
            (areDigits_of_afterExit? (dialled_areDigits _) hExit) hSplit
        · rcases Option.map_eq_some_iff.mp (Except.ok.inj hSplit) with
            ⟨rest, hOwn, hEq⟩
          cases hEq
          exact areDigits_of_afterOwnCode? (dialled_areDigits _) hOwn

theorem areDigits_of_splitCodeLeniently
    (hSplit : splitCodeLeniently region cs = some (some (r, ds))) :
    AreDigits ds := by
  unfold splitCodeLeniently at hSplit
  split at hSplit
  · rename_i hFound
    cases hSplit
    exact areDigits_of_splitCode hFound
  · cases hSplit
  · split at hSplit
    · split at hSplit
      · rename_i hFound
        cases hSplit
        exact areDigits_of_splitCode hFound
      · cases hSplit
    · cases hSplit

theorem areDigits_of_numberOf?
    {extension : Option (List Char)}
    {n : Number}
    (hDigits : AreDigits ds)
    (hNumber : numberOf? r ds extension = some n) :
    AreDigits n.digits := by
  unfold numberOf? at hNumber
  rcases Option.ite_none_left_eq_some.mp hNumber with ⟨-, hEq⟩
  cases hEq
  dsimp only
  split
  · exact Plan.withoutTrunk_areDigits hDigits
  · exact hDigits

/- The digits of a number that is read are below ten. -/
theorem Number.areDigits_of_read?
    {name : String}
    {n : Number}
    (hRead : read? name cs = some n) :
    AreDigits n.digits := by
  rcases read?_eq_some_iff.mp hRead with ⟨-, text, -, -, -, hReads⟩
  rcases hReads with ⟨r, ds, hSplit, hNumber⟩ | ⟨r, -, -, hNumber⟩
  · exact areDigits_of_numberOf?
      (areDigits_of_splitCodeLeniently hSplit) hNumber
  · exact areDigits_of_numberOf? (dialled_areDigits _) hNumber

------------------------------------------------------------
-- Lengths
------------------------------------------------------------

namespace DigitPattern

/- The fewest digits that fit a pattern. -/
def least : DigitPattern → Nat
  | nothing => 0
  | impossible => 0
  | word digits => digits.length
  | of _ => 1
  | free count => count
  | seq p q => p.least + q.least
  | either p q => min p.least q.least

/- What a pattern leaves of digits is shorter by its part. -/
theorem length_add_least_le
    {p : DigitPattern}
    (hRest : rest ∈ p.rests ds) :
    rest.length + p.least ≤ ds.length := by
  induction p generalizing ds rest with
  | nothing =>
      rw [rests, List.mem_singleton] at hRest
      simp [hRest, least]
  | impossible => cases hRest
  | word digits =>
      unfold rests at hRest
      split at hRest
      · rename_i hStarts
        have hShort :=
          (List.isPrefixOf_iff_prefix.mp hStarts).length_le
        rw [List.mem_singleton] at hRest
        rw [hRest, List.length_drop, least]
        omega
      · cases hRest
  | of allowed =>
      cases ds with
      | nil => cases hRest
      | cons d ds =>
          simp only [rests] at hRest
          split at hRest
          · rw [List.mem_singleton] at hRest
            simp [hRest, least]
          · cases hRest
  | free count =>
      unfold rests at hRest
      split at hRest
      · rw [List.mem_singleton] at hRest
        rw [hRest, List.length_drop, least]
        omega
      · cases hRest
  | seq p q ihFirst ihSecond =>
      rcases List.mem_flatMap.mp hRest with ⟨between, hFirst, hSecond⟩
      have hBefore := ihFirst hFirst
      have hAfter := ihSecond hSecond
      rw [least]
      omega
  | either p q ihFirst ihSecond =>
      rw [least]
      rcases List.mem_append.mp hRest with hFirst | hSecond
      · have := ihFirst hFirst
        omega
      · have := ihSecond hSecond
        omega

theorem least_le_of_accepts
    {p : DigitPattern}
    (hAccepts : p.accepts ds = true) :
    p.least ≤ ds.length := by
  rcases List.any_eq_true.mp hAccepts with ⟨rest, hRest, -⟩
  have := length_add_least_le hRest
  omega

end DigitPattern

/-
  The numbers of a plan have seven to ten digits, and nine at least
  with their calling code.
-/
theorem Region.length_of_contains
    (hContains : r.plan.general.contains ds = true) :
    7 ≤ ds.length ∧ 9 ≤ r.plan.callingCode.length + ds.length ∧
      ds.length ≤ 10 := by
  have hLength := (Bool.and_eq_true_iff.mp hContains).1
  have hLengths :
      ∀ n ∈ r.plan.general.lengths,
        7 ≤ n ∧ 9 ≤ r.plan.callingCode.length + n ∧ n ≤ 10 := by
    cases r <;> decide
  exact hLengths _ (List.contains_iff_mem.mp hLength)

/- The numbers of a plan have lengths that numbers can have. -/
theorem Number.isPossible_of_isValid
    {n : Number}
    (hValid : n.isValid = true) :
    n.isPossible = true := by
  have hGeneral := (Bool.and_eq_true_iff.mp hValid).1
  have hLength := (Bool.and_eq_true_iff.mp hGeneral).1
  unfold Number.isPossible Plan.fit
  rw [if_pos hLength]
  split <;> rfl

------------------------------------------------------------
-- Dialling within the country
------------------------------------------------------------

/-
  Numbers of a plan start with no digits that are dialled within the
  country only, or without these they are no numbers of the plan.
-/
theorem Region.withoutTrunk_of_contains
    (hContains : r.plan.general.contains ds = true) :
    r.plan.withoutTrunk ds = ds := by
  have hFits := (Bool.and_eq_true_iff.mp hContains).2
  have hLength := (Region.length_of_contains hContains).2.2
  have hUnfit :
      ∀ trunk ∈ r.plan.trunkDigits, trunk.isPrefixOf ds = true →
        r.plan.general.pattern.accepts (ds.drop trunk.length) =
          false := by
    intro trunk hTrunk hStarts
    rcases List.isPrefixOf_iff_prefix.mp hStarts with ⟨rest, rfl⟩
    cases r with
    | unitedStates =>
        cases List.mem_singleton.mp hTrunk
        cases hFits
    | france =>
        cases List.mem_singleton.mp hTrunk
        cases hFits
    | unitedKingdom =>
        rcases List.mem_cons.mp hTrunk with rfl | hTrunk
        · cases hFits
        · cases List.mem_singleton.mp hTrunk
          rw [← Bool.not_eq_true]
          intro hAccepts
          have hLeast := DigitPattern.least_le_of_accepts hAccepts
          rw [List.drop_left] at hLeast
          rw [List.length_append] at hLength
          change 7 ≤ rest.length at hLeast
          change 6 + rest.length ≤ 10 at hLength
          omega
  unfold Plan.withoutTrunk
  split
  · rfl
  · rename_i trunk hFound
    have hStarts := List.find?_some hFound
    have hRest :=
      hUnfit trunk (List.mem_of_find?_eq_some hFound) hStarts
    simp [hFits, hRest]

end Phone

end RecordRules
