import RecordRules.Text.Case

/-
  The characters whose small form is an ASCII character.

  Main declarations:
    * `Text.CaseRun.exists_of_search`
    * `Text.lowerChar_of_not_ascii`, the small forms of all other
      characters
    * `Text.toNat_of_lowerChar`
    * `Text.exists_of_lowerAfter`, the first character of a text
      whose small form is known
    * `Text.IsLatin`, the ASCII letters
-/

namespace RecordRules

namespace Text

------------------------------------------------------------
-- The table of small forms
------------------------------------------------------------

/- What the search in runs finds is the offset of one of them. -/
theorem CaseRun.exists_of_search
    {runs : Array CaseRun}
    {point low high small : Nat}
    (hFound : search runs point low high = some small) :
    ∃ run ∈ runs,
      run.first ≤ point ∧ point ≤ run.last ∧
        small = (point + run.offset).toNat := by
  induction low, high using CaseRun.search.induct runs point with
  | case1 low high hSpan middle hNone =>
      rw [search, dif_pos hSpan] at hFound
      simp [middle, hNone] at hFound
  | case2 low high hSpan middle run hRun hBefore ih =>
      rw [search, dif_pos hSpan] at hFound
      simp only [middle, hRun, if_pos hBefore] at hFound
      exact ih hFound
  | case3 low high hSpan middle run hRun hNotBefore hAfter ih =>
      rw [search, dif_pos hSpan] at hFound
      simp only [middle, hRun, if_neg hNotBefore, if_pos hAfter]
        at hFound
      exact ih hFound
  | case4 low high hSpan middle run hRun hNotBefore hNotAfter hStep =>
      rw [search, dif_pos hSpan] at hFound
      simp only [middle, hRun, if_neg hNotBefore, if_neg hNotAfter,
        if_pos hStep, Option.some.injEq] at hFound
      exact
        ⟨run, Array.mem_of_getElem? hRun, Nat.le_of_not_lt hNotBefore,
          Nat.le_of_not_lt hNotAfter, hFound.symm⟩
  | case5 low high hSpan middle run hRun hNotBefore hNotAfter hStep =>
      rw [search, dif_pos hSpan] at hFound
      simp [middle, hRun, hNotBefore, hNotAfter, hStep] at hFound
  | case6 low high hSpan =>
      rw [search, dif_neg hSpan] at hFound
      cases hFound

/- The sign for kelvin, the small form of which is the letter k. -/
def kelvinSign : Nat :=
  0x212a

/-
  Of the characters outside ASCII only the sign for kelvin gets a
  small form in ASCII from the table.
-/
theorem lowerRuns_offset :
    ∀ run ∈ lowerRuns,
      128 ≤ run.first + run.offset ∨
        (run.first = kelvinSign ∧ run.last = kelvinSign ∧
          kelvinSign + run.offset = 107) := by
  have hAll :
      ∀ run ∈ lowerRuns.toList,
        128 ≤ run.first + run.offset ∨
          (run.first = kelvinSign ∧ run.last = kelvinSign ∧
            kelvinSign + run.offset = 107) := by
    decide +kernel
  intro run hRun
  exact hAll run (Array.mem_toList_iff.mpr hRun)

------------------------------------------------------------
-- Single characters
------------------------------------------------------------

theorem toNat_ofNat
    {n : Nat}
    (hValid : n.isValidChar) :
    (Char.ofNat n).toNat = n := by
  rw [Char.ofNat, dif_pos hValid]
  rfl

/- The ASCII characters that others have as a small form, and null. -/
def sharedSmallForms : List Char :=
  ['i', 'k', '\x00']

theorem lowerChar_of_not_ascii
    {c : Char}
    (hOther : ¬ c.toNat < 128) :
    128 ≤ (lowerChar c).toNat ∨ lowerChar c ∈ sharedSmallForms := by
  unfold lowerChar
  rw [if_neg hOther]
  split
  · exact .inr (by decide)
  · split
    · rename_i point hFound
      rcases CaseRun.exists_of_search hFound with
        ⟨run, hRun, hFirst, hLast, hPoint⟩
      rcases lowerRuns_offset run hRun with
        hHigh | ⟨hStart, hEnd, hOffset⟩
      · have hLarge : 128 ≤ point := by omega
        by_cases hValid : point.isValidChar
        · left
          rw [toNat_ofNat hValid]
          exact hLarge
        · right
          rw [Char.ofNat, dif_neg hValid]
          decide
      · have hSmall : point = 107 := by omega
        subst hSmall
        exact .inr (by decide)
    · exact .inl (Nat.le_of_not_lt hOther)

/-
  An ASCII character that is not shared is the small form of itself
  and, if it is a small letter, of its capital only.
-/
theorem toNat_of_lowerChar
    {c d : Char}
    (hLower : lowerChar c = d)
    (hAscii : d.toNat < 128)
    (hOwn : d ∉ sharedSmallForms) :
    c.toNat = d.toNat ∨
      (65 ≤ c.toNat ∧ c.toNat ≤ 90 ∧ d.toNat = c.toNat + 32) := by
  have hBelow : c.toNat < 128 := by
    apply Decidable.byContradiction
    intro hOther
    rcases lowerChar_of_not_ascii hOther with hHigh | hShared
    · rw [hLower] at hHigh
      omega
    · rw [hLower] at hShared
      exact hOwn hShared
  unfold lowerChar at hLower
  rw [if_pos hBelow] at hLower
  split at hLower
  · rename_i hCapital
    right
    refine ⟨hCapital.1, hCapital.2, ?_⟩
    have hValid : (c.toNat + 32).isValidChar := by
      left
      omega
    rw [← hLower, toNat_ofNat hValid]
  · left
    rw [hLower]

------------------------------------------------------------
-- ASCII letters
------------------------------------------------------------

/- An ASCII letter. -/
def IsLatin (c : Char) : Prop :=
  isAsciiLetter c = true

instance (c : Char) : Decidable (IsLatin c) := by
  unfold IsLatin
  infer_instance

namespace IsLatin

variable {c : Char}

theorem bounds
    (hLatin : IsLatin c) :
    (65 ≤ c.toNat ∧ c.toNat ≤ 90) ∨
      (97 ≤ c.toNat ∧ c.toNat ≤ 122) := by
  simpa [IsLatin, isAsciiLetter] using hLatin

theorem isAscii
    (hLatin : IsLatin c) :
    c.toNat < 128 := by
  rcases hLatin.bounds with hBounds | hBounds <;> omega

theorem isLetter
    (hLatin : IsLatin c) :
    Text.isLetter c = true := by
  rw [Text.isLetter, if_pos hLatin.isAscii]
  exact hLatin

/- A letter has no value as a digit. -/
theorem digitValue?_eq
    (hLatin : IsLatin c) :
    digitValue? c = none := by
  have hNot : ¬ (48 ≤ c.toNat ∧ c.toNat ≤ 57) := by
    rcases hLatin.bounds with hBounds | hBounds <;> omega
  rw [digitValue?, if_pos hLatin.isAscii, asciiDigit?, if_neg hNot]

/- What has an unshared letter as its small form is a letter. -/
theorem of_lowerChar
    {d : Char}
    (hLatin : IsLatin d)
    (hOwn : d ∉ sharedSmallForms)
    (hLower : lowerChar c = d) :
    IsLatin c := by
  rcases toNat_of_lowerChar hLower hLatin.isAscii hOwn with
    hSame | ⟨hLow, hHigh, -⟩
  · simpa [IsLatin, isAsciiLetter, hSame] using hLatin
  · simp [IsLatin, isAsciiLetter, hLow, hHigh]

end IsLatin

------------------------------------------------------------
-- Texts
------------------------------------------------------------

/-
  A text in small letters that starts with an unshared ASCII
  character comes from one that starts with a form of it.
-/
theorem exists_of_lowerAfter
    {before cs smalls : List Char}
    {d : Char}
    (hLower : lowerAfter before cs = d :: smalls)
    (hAscii : d.toNat < 128)
    (hOwn : d ∉ sharedSmallForms) :
    ∃ c rest,
      cs = c :: rest ∧ lowerChar c = d ∧
        lowerAfter (c :: before) rest = smalls := by
  cases cs with
  | nil => cases hLower
  | cons c rest =>
      have hSigmas : d.toNat ≠ 0x3c2 ∧ d.toNat ≠ 0x3c3 := by omega
      refine ⟨c, rest, rfl, ?_⟩
      rw [lowerAfter] at hLower
      split at hLower
      · split at hLower <;> cases hLower
        · exact absurd rfl hSigmas.1
        · exact absurd rfl hSigmas.2
      · split at hLower
        · cases hLower
          exact absurd (by decide) hOwn
        · cases hLower
          exact ⟨rfl, rfl⟩

end Text

end RecordRules
