import RecordRules.Phone.Reading

/-
  What the reading of a phone number rests on.

  Main declarations:
    * `Phone.Number.read?_eq_some_iff`
    * `Phone.region_of_splitCode`, where a calling code comes from
    * `Phone.length_le_of_numberOf?`
-/

namespace RecordRules

namespace Phone

open Text

------------------------------------------------------------
-- Regions
------------------------------------------------------------

/- The name of a region is written in capitals. -/
theorem Region.ofName?_upper
    {name : String}
    {r : Region}
    (hNamed : ofName? name = some r) :
    ofName? (String.ofList (upper name.toList)) = some r := by
  have hName := List.find?_some hNamed
  rw [beq_iff_eq] at hName
  subst hName
  cases r <;> decide

------------------------------------------------------------
-- Texts
------------------------------------------------------------

variable {name : String} {cs : List Char} {n : Number}

/-
  What follows a calling code that is found is the number. Without
  one the whole text is a number of the region.
-/
def ReadsAs
    (region : Option Region)
    (number : List Char)
    (extension : Option (List Char))
    (n : Number) : Prop :=
  (∃ r ds, splitCodeLeniently region number = some (some (r, ds)) ∧
      numberOf? r ds extension = some n) ∨
    ∃ r, splitCodeLeniently region number = some none ∧
      region = some r ∧
      numberOf? r (dialled number) extension = some n

/-
  A text is read as a number if it is not too long, what can be a
  number in it is viable and tells its region, and what comes before
  the extension is read as the number.
-/
theorem Number.read?_eq_some_iff :
    read? name cs = some n ↔
      cs.length ≤ longestText ∧
        ∃ text, candidate? cs = some text ∧ isViable text = true ∧
          ((Region.ofName? name).isSome = true ∨
            text.head?.any isPlus = true) ∧
          ReadsAs (Region.ofName? (String.ofList (upper name.toList)))
            (splitExtension text).1 (splitExtension text).2 n := by
  unfold read?
  by_cases hLong : longestText < cs.length
  · rw [if_pos hLong]
    exact iff_of_false nofun fun hBoth =>
      absurd hBoth.1 (Nat.not_le_of_lt hLong)
  rw [if_neg hLong, Option.bind_eq_bind, Option.bind_eq_some_iff]
  refine (and_iff_right (Nat.le_of_not_lt hLong)).symm.trans
    (and_congr_right fun _ => exists_congr fun text =>
      and_congr_right fun _ => ?_)
  cases hViable : isViable text with
  | false => simp
  | true =>
  cases hNamed : (Region.ofName? name).isSome ||
      text.head?.any isPlus with
  | false =>
      rw [Bool.or_eq_false_iff] at hNamed
      simp [hNamed, Option.isSome_eq_false_iff.mp hNamed.1]
  | true =>
      have hGuard :
          ((Region.ofName? name).isNone && !text.head?.any isPlus) =
            false := by
        rw [← Option.not_isSome, ← Bool.not_or, hNamed]
        rfl
      rw [Bool.or_eq_true] at hNamed
      simp only [hGuard, hNamed, true_and, Bool.not_true,
        Bool.false_eq_true, if_false, Option.bind_eq_bind, ReadsAs]
      cases splitCodeLeniently
          (Region.ofName? (String.ofList (upper name.toList)))
          (splitExtension text).1 with
      | none => simp
      | some found =>
          cases found with
          | none => simp [Option.bind_eq_some_iff]
          | some found =>
              rcases found with ⟨r, ds⟩
              simp [and_assoc]

theorem Number.ne_nil_of_read?
    (hRead : read? name cs = some n) :
    cs ≠ [] := by
  rintro rfl
  rcases read?_eq_some_iff.mp hRead with ⟨-, text, hText, hViable, -⟩
  cases hText
  cases hViable

/- The parts of a number that is taken from digits. -/
theorem parts_of_numberOf?
    {r : Region}
    {ds : List Nat}
    {extension : Option (List Char)}
    (hNumber : numberOf? r ds extension = some n) :
    n.region = r ∧ n.digits.length ≤ ds.length ∧
      n.extension = extension.map String.ofList := by
  have hTrunk : (r.plan.withoutTrunk ds).length ≤ ds.length := by
    unfold Plan.withoutTrunk
    split
    · exact Nat.le_refl _
    · dsimp only
      split
      · exact Nat.le_refl _
      · rw [List.length_drop]
        omega
  unfold numberOf? at hNumber
  rcases Option.ite_none_left_eq_some.mp hNumber with ⟨-, hEq⟩
  cases hEq
  refine ⟨rfl, ?_, rfl⟩
  dsimp only
  split
  · exact hTrunk
  · exact Nat.le_refl _

/- The extension of a number is that of the text it is read from. -/
theorem ReadsAs.extension_eq
    {region : Option Region}
    {number : List Char}
    {extension : Option (List Char)}
    (hReads : ReadsAs region number extension n) :
    n.extension = extension.map String.ofList := by
  rcases hReads with ⟨r, ds, -, hNumber⟩ | ⟨r, -, -, hNumber⟩
  · exact (parts_of_numberOf? hNumber).2.2
  · exact (parts_of_numberOf? hNumber).2.2

------------------------------------------------------------
-- Texts without a plus sign
------------------------------------------------------------

variable {r home : Region} {ds rest : List Nat}

/- What follows a calling code is shorter by it. -/
theorem length_of_takeCode
    (hTaken : takeCode ds = .ok (r, rest)) :
    r.plan.callingCode.length + rest.length = ds.length := by
  unfold takeCode at hTaken
  split at hTaken
  · cases hTaken
  · split at hTaken
    · rename_i hRegion
      cases hTaken
      have hStarts := List.find?_some hRegion
      have hLength :=
        (List.isPrefixOf_iff_prefix.mp hStarts).length_le
      rw [List.length_drop]
      omega
    · cases hTaken

/-
  Without a plus sign, a calling code is that of the region where the
  number is dialled, unless digits that lead out of it come before.
-/
theorem region_of_splitCode
    (hPlain : ∀ c ∈ cs.head?, isPlus c = false)
    (hSplit : splitCode (some home) cs = .ok (some (r, rest))) :
    r = home ∨
      home.plan.exitDigits <+: dialled cs ∧
        home.plan.exitDigits.length + r.plan.callingCode.length +
          rest.length = (dialled cs).length := by
  cases cs with
  | nil => cases hSplit
  | cons c others =>
      have hFirst : isPlus c = false := hPlain c rfl
      unfold splitCode at hSplit
      dsimp only at hSplit
      rw [hFirst, if_neg Bool.false_ne_true] at hSplit
      split at hSplit
      · rename_i after hExit
        right
        cases hTake : takeCode after with
        | error fault =>
            rw [hTake] at hSplit
            cases hSplit
        | ok found =>
            rw [hTake] at hSplit
            cases hSplit
            have hAfter := length_of_takeCode hTake
            unfold afterExit? at hExit
            rcases Option.ite_none_right_eq_some.mp hExit with
              ⟨hStarts, hEq⟩
            have hPrefix := List.isPrefixOf_iff_prefix.mp hStarts
            have hLength := hPrefix.length_le
            dsimp only at hEq
            split at hEq
            · cases hEq
            · cases hEq
              rw [List.length_drop] at hAfter
              exact ⟨hPrefix, by omega⟩
      · rcases Option.map_eq_some_iff.mp (Except.ok.inj hSplit) with
          ⟨after, -, hEq⟩
        cases hEq
        exact .inl rfl

/- The same where plus signs may have been put by mistake. -/
theorem splitCode_of_splitCodeLeniently
    {region : Option Region}
    {found : Option (Region × List Nat)}
    (hPlain : ∀ c ∈ cs.head?, isPlus c = false)
    (hSplit : splitCodeLeniently region cs = some found) :
    splitCode region cs = .ok found := by
  have hNone : cs.head?.any isPlus = false := by
    cases cs with
    | nil => rfl
    | cons c others => exact hPlain c rfl
  unfold splitCodeLeniently at hSplit
  split at hSplit
  · rename_i hFound
    cases hSplit
    exact hFound
  · cases hSplit
  · rw [hNone] at hSplit
    cases hSplit

end Phone

end RecordRules
