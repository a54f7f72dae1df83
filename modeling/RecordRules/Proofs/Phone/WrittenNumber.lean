import RecordRules.Proofs.Phone.Extensions

/-
  Numbers read from texts that they are written as.

  Main declarations:
    * `Phone.Number.read?_spaced_iff`, what a text of spaced digits
      with an extension is read as
    * `Phone.Number.read?_abroad`, with a plus sign and the calling
      code
    * `Phone.Number.read?_home` and
      `Phone.Number.region_of_read?_home`, without them
-/

namespace RecordRules

namespace Phone

open Text

variable
  {r home : Region}
  {ds trunk : List Nat}
  {front body tail : List Char}
  {extension : Option (List Char)}
  {name : String}

------------------------------------------------------------
-- Texts
------------------------------------------------------------

/- What can be a number in a text of spaced digits. -/
theorem candidate?_spaced
    {abroad : Bool}
    (hFront : ∀ c ∈ front, c ∈ marks)
    (hSpaced : Spaced ds body)
    (hStart : abroad = true ∨ ∃ c ∈ body.head?, IsDigit c)
    (hAbsent : ∀ c ∈ ";/\\".toList, c ∉ tail)
    (hEnd : ∀ c ∈ tail.getLast?, isNumberEnd c = true) :
    candidate? (front ++ (signed abroad body ++ tail)) =
      some (signed abroad body ++ tail) := by
  have hMarks : ∀ c ∈ marks, startsNumber c = false := by decide
  have hOthers :
      ∀ c ∈ ";/\\".toList, ¬ IsDigit c ∧ c ∉ marks ∧ c ≠ '+' := by
    decide
  have hText :
      ∀ c ∈ ";/\\".toList, c ∉ signed abroad body ++ tail := by
    intro c hMember hIn
    rcases List.mem_append.mp hIn with hNumber | hTail
    · rcases mem_signed hNumber with hPlus | hBody
      · exact (hOthers c hMember).2.2 hPlus
      · exact hSpaced.not_mem (hOthers c hMember).1
          (hOthers c hMember).2.1 hBody
    · exact hAbsent c hMember hTail
  have hPlain : ';' ∉ front ++ (signed abroad body ++ tail) := by
    rw [List.mem_append, not_or]
    refine ⟨fun hMember => ?_, hText ';' (by decide)⟩
    exact absurd (hFront _ hMember) (by decide)
  have hFirst :
      ∃ first, (signed abroad body ++ tail).head? = some first ∧
        startsNumber first = true := by
    cases abroad with
    | true => exact ⟨'+', rfl, rfl⟩
    | false =>
        rcases hStart with hFalse | ⟨first, hHead, hDigit⟩
        · cases hFalse
        · refine ⟨first, ?_, ?_⟩
          · change (body ++ tail).head? = some first
            rw [List.head?_append, hHead]
            rfl
          · rw [startsNumber, hDigit.isDecimal, Bool.or_true]
  have hLast :
      ∃ last, (signed abroad body ++ tail).getLast? = some last ∧
        isNumberEnd last = true := by
    rcases hSpaced.getLast?_signed abroad with ⟨last, hNumber, hDigit⟩
    rw [List.getLast?_append, hNumber]
    cases hTail : tail.getLast? with
    | none => exact ⟨last, rfl, hDigit.isNumberEnd⟩
    | some c => exact ⟨c, rfl, hEnd c hTail⟩
  rcases hFirst with ⟨first, hHead, hStarts⟩
  rcases hLast with ⟨last, hFinal, hEnds⟩
  exact candidate?_append (fun c hMember => hMarks c (hFront c hMember))
    hHead hStarts hFinal hEnds (hText '/' (by decide))
    (hText '\\' (by decide)) hPlain

/-
  A text of spaced digits with an extension is read as a number in a
  region that is named, or with a plus sign in any.
-/
theorem Number.read?_spaced_iff
    {n : Number}
    (abroad : Bool)
    (hFront : ∀ c ∈ front, c ∈ marks)
    (hSpaced : Spaced ds body)
    (hLong : 3 ≤ ds.length)
    (hStart : abroad = true ∨ ∃ c ∈ body.head?, IsDigit c)
    (hTail : IsTail tail extension)
    (hShort :
      (front ++ (signed abroad body ++ tail)).length ≤ longestText) :
    read? name (front ++ (signed abroad body ++ tail)) = some n ↔
      ((Region.ofName? name).isSome = true ∨ abroad = true) ∧
        ReadsAs (Region.ofName? (String.ofList (upper name.toList)))
          (signed abroad body) extension n := by
  have hText := candidate?_spaced hFront hSpaced hStart hTail.not_mem
    hTail.isNumberEnd_getLast
  have hViable := hTail.isViable_append hSpaced hLong abroad
  have hSplit := hTail.splitExtension_append hSpaced hLong abroad
  have hPlus :
      (signed abroad body ++ tail).head?.any isPlus = true ↔
        abroad = true := by
    cases abroad with
    | true => exact iff_of_true rfl rfl
    | false =>
        rcases hStart with hFalse | ⟨first, hHead, hDigit⟩
        · cases hFalse
        · change (body ++ tail).head?.any isPlus = true ↔ _
          rw [List.head?_append, hHead]
          simp [hDigit.isPlus]
  rw [read?_eq_some_iff, and_iff_right hShort]
  constructor
  · rintro ⟨text, hCandidate, -, hNamed, hReads⟩
    rw [hText] at hCandidate
    cases hCandidate
    rw [hPlus] at hNamed
    rw [hSplit] at hReads
    exact ⟨hNamed, hReads⟩
  · rintro ⟨hNamed, hReads⟩
    refine ⟨_, hText, hViable, ?_, ?_⟩
    · rw [hPlus]
      exact hNamed
    · rw [hSplit]
      exact hReads

/- What is read has no extension where too many digits follow. -/
theorem Number.extension_of_read?_long
    (abroad : Bool)
    {digits : List Char}
    {n : Number}
    (hFront : ∀ c ∈ front, c ∈ marks)
    (hSpaced : Spaced ds body)
    (hStart : abroad = true ∨ ∃ c ∈ body.head?, IsDigit c)
    (hDigits : IsExtension digits)
    (hLong : 9 < digits.length)
    (hRead :
      read? name
          (front ++ (signed abroad body ++ (" x".toList ++ digits))) =
        some n) :
    n.extension = none := by
  have hAbsent : ∀ c ∈ ";/\\".toList, c ∉ " x".toList ++ digits := by
    have hOthers :
        ∀ c ∈ ";/\\".toList, c ∉ " x".toList ∧ isDecimal c = false := by
      decide
    intro c hMember hIn
    rcases List.mem_append.mp hIn with hMark | hDigit
    · exact (hOthers c hMember).1 hMark
    · exact absurd (hDigits.decimals c hDigit)
        (by rw [(hOthers c hMember).2]; decide)
  have hText := candidate?_spaced hFront hSpaced hStart hAbsent
    (hDigits.isNumberEnd_getLast _)
  rcases read?_eq_some_iff.mp hRead with
    ⟨-, text, hCandidate, -, -, hReads⟩
  rw [hText] at hCandidate
  cases hCandidate
  rw [hReads.extension_eq, splitExtension_long hSpaced _ hDigits hLong]
  rfl

------------------------------------------------------------
-- With the calling code
------------------------------------------------------------

/- The calling code of a region is taken from digits after it. -/
theorem takeCode_callingCode
    (hLong : 2 ≤ ds.length) :
    takeCode (r.plan.callingCode ++ ds) = .ok (r, ds) := by
  have hCode : 1 ≤ r.plan.callingCode.length := by
    cases r <;> decide
  have hRegion : codeRegion? (r.plan.callingCode ++ ds) = some r := by
    cases r <;> rfl
  have hLength :
      ¬ (r.plan.callingCode ++ ds).length ≤ fewestDigits := by
    rw [List.length_append]
    change ¬ _ ≤ 2
    omega
  rw [takeCode, if_neg hLength, hRegion]
  simp

/- The calling codes consist of digits. -/
theorem callingCode_areDigits
    (r : Region) :
    AreDigits r.plan.callingCode := by
  unfold AreDigits
  cases r <;> decide

theorem Region.length_callingCode_le
    (r : Region) :
    r.plan.callingCode.length ≤ 2 := by
  cases r <;> decide

/- The digits of a plan's number are taken as they are. -/
theorem numberOf?_of_contains
    (hContains : r.plan.general.contains ds = true)
    (extension : Option (List Char)) :
    numberOf? r ds extension =
      some ⟨r, ds, extension.map String.ofList⟩ := by
  rcases Region.length_of_contains hContains with ⟨hLow, -, hHigh⟩
  have hSize :
      ¬ ds.length < fewestDigits ∧ ¬ mostDigits < ds.length := by
    unfold fewestDigits mostDigits
    omega
  unfold numberOf?
  simp only [Region.withoutTrunk_of_contains hContains, ite_self, hSize,
    decide_false, Bool.or_self, Bool.false_eq_true, if_false]

/-
  A number of a plan is read from its calling code and its digits
  after a plus sign, whichever region is named.
-/
theorem Number.read?_abroad
    (hContains : r.plan.general.contains ds = true)
    (hSpaced : Spaced (r.plan.callingCode ++ ds) body)
    (hTail : IsTail tail extension)
    (hShort : ('+' :: body ++ tail).length ≤ longestText)
    (name : String) :
    read? name ('+' :: body ++ tail) =
      some ⟨r, ds, extension.map String.ofList⟩ := by
  have hLow := (Region.length_of_contains hContains).1
  have hLong : 3 ≤ (r.plan.callingCode ++ ds).length := by
    rw [List.length_append]
    omega
  have hSplit (region : Option Region) :
      splitCodeLeniently region ('+' :: body) = some (some (r, ds)) := by
    have hPlus : isPlus '+' = true := rfl
    have hFound :
        splitCode region ('+' :: body) = .ok (some (r, ds)) := by
      unfold splitCode
      dsimp only
      rw [if_pos hPlus, hSpaced.dropWhile_isPlus, hSpaced.dialled_eq,
        takeCode_callingCode (by omega)]
      rfl
    rw [splitCodeLeniently, hFound]
  change read? name ([] ++ (signed true body ++ tail)) = some _
  refine (read?_spaced_iff true (List.forall_mem_nil _) hSpaced hLong
    (.inl rfl) hTail hShort).mpr ⟨.inr rfl, .inl ⟨r, ds, hSplit _, ?_⟩⟩
  exact numberOf?_of_contains hContains extension

------------------------------------------------------------
-- Within the country
------------------------------------------------------------

/-
  The digits that may come before a number where it is written for
  its own country: none, or a zero outside the United States.
-/
def IsTrunk
    (r : Region)
    (trunk : List Nat) : Prop :=
  trunk = [] ∨ trunk = [0] ∧ r ≠ .unitedStates

/- No number of a plan starts with a zero. -/
theorem Region.head?_ne_zero
    (hContains : r.plan.general.contains ds = true) :
    ds.head? ≠ some 0 := by
  have hFits := (Bool.and_eq_true_iff.mp hContains).2
  intro hHead
  rcases List.head?_eq_some_iff.mp hHead with ⟨rest, rfl⟩
  cases r <;> cases hFits

/- The lengths of a plan's numbers are no lengths of local numbers. -/
theorem Region.fit_of_contains
    (hContains : r.plan.general.contains ds = true) :
    r.plan.fit ds.length = .possible := by
  have hLength :=
    List.contains_iff_mem.mp (Bool.and_eq_true_iff.mp hContains).1
  have hEach :
      ∀ n ∈ r.plan.general.lengths, r.plan.fit n = .possible := by
    cases r <;> decide
  exact hEach _ hLength

/- Numbers with what may come before them do not start with 00. -/
theorem IsTrunk.not_zeros
    (hTrunk : IsTrunk r trunk)
    (hContains : r.plan.general.contains ds = true) :
    ¬ [0, 0] <+: trunk ++ ds := by
  rintro ⟨rest, hEq⟩
  have hHead := Region.head?_ne_zero hContains
  rcases hTrunk with rfl | ⟨rfl, -⟩
  · rw [List.nil_append] at hEq
    rw [← hEq] at hHead
    exact hHead rfl
  · cases (List.cons.inj hEq).2
    exact hHead rfl

/- No calling code is found in a number written for its own country. -/
theorem splitCode_home
    (hContains : r.plan.general.contains ds = true)
    (hTrunk : IsTrunk r trunk)
    (hSpaced : Spaced (trunk ++ ds) body) :
    splitCode (some r) body = .ok none := by
  have hFits := (Bool.and_eq_true_iff.mp hContains).2
  have hFit := Region.fit_of_contains hContains
  have hExit : afterExit? r.plan (trunk ++ ds) = none := by
    rw [afterExit?, if_neg]
    intro hStarts
    have hPrefix := List.isPrefixOf_iff_prefix.mp hStarts
    cases r with
    | unitedStates =>
        rcases hTrunk with rfl | ⟨-, hAbroad⟩
        · rcases hPrefix with ⟨rest, hEq⟩
          rw [List.nil_append] at hEq
          exact Region.head?_ne_zero hContains (by rw [← hEq]; rfl)
        · exact hAbroad rfl
    | unitedKingdom => exact hTrunk.not_zeros hContains hPrefix
    | france => exact hTrunk.not_zeros hContains hPrefix
  have hOwn : afterOwnCode? r.plan (trunk ++ ds) = none := by
    unfold afterOwnCode?
    rcases hTrunk with rfl | ⟨rfl, hAbroad⟩
    · simp [hFits, hFit]
    · rw [if_neg]
      intro hStarts
      cases r with
      | unitedStates => exact hAbroad rfl
      | unitedKingdom => cases hStarts
      | france => cases hStarts
  unfold splitCode
  split
  · rfl
  · rename_i c rest
    rw [hSpaced.isPlus_eq c (by simp), if_neg Bool.false_ne_true]
    dsimp only
    rw [hSpaced.dialled_eq, hExit, hOwn]
    rfl

/- The digits before a number are dropped where a number is left. -/
theorem numberOf?_of_trunk
    (hContains : r.plan.general.contains ds = true)
    (hTrunk : IsTrunk r trunk)
    (extension : Option (List Char)) :
    numberOf? r (trunk ++ ds) extension =
      some ⟨r, ds, extension.map String.ofList⟩ := by
  rcases hTrunk with rfl | ⟨rfl, hAbroad⟩
  · exact numberOf?_of_contains hContains extension
  · have hFits := (Bool.and_eq_true_iff.mp hContains).2
    have hFound :
        r.plan.trunkDigits.find? (·.isPrefixOf (0 :: ds)) =
          some [0] := by
      cases r with
      | unitedStates => exact (hAbroad rfl).elim
      | unitedKingdom => rfl
      | france => rfl
    have hDropped : r.plan.withoutTrunk (0 :: ds) = ds := by
      simp [Plan.withoutTrunk, hFound, hFits]
    rcases Region.length_of_contains hContains with ⟨hLow, -, hHigh⟩
    have hSize :
        ¬ (0 :: ds).length < fewestDigits ∧
          ¬ ds.length < fewestDigits ∧ ¬ mostDigits < ds.length := by
      rw [List.length_cons]
      unfold fewestDigits mostDigits
      omega
    change numberOf? r (0 :: ds) extension = _
    unfold numberOf?
    simp only [hDropped, Region.fit_of_contains hContains, hSize,
      decide_false, Bool.or_self, Bool.false_eq_true, if_false, BEq.rfl,
      Bool.true_or, if_true]

/- With what may come before it a number has eleven digits at most. -/
theorem IsTrunk.length_append
    (hTrunk : IsTrunk r trunk)
    (hContains : r.plan.general.contains ds = true) :
    7 ≤ (trunk ++ ds).length ∧ (trunk ++ ds).length ≤ 11 := by
  rcases Region.length_of_contains hContains with ⟨hSeven, -, hTen⟩
  rw [List.length_append]
  rcases hTrunk with rfl | ⟨rfl, -⟩
  · rw [List.length_nil]
    omega
  · rw [List.length_singleton]
    omega

/-
  A number of a plan is read from its digits in a country that is
  named, also after a zero.
-/
theorem Number.read?_home
    (hContains : r.plan.general.contains ds = true)
    (hTrunk : IsTrunk r trunk)
    (hFront : ∀ c ∈ front, c ∈ marks)
    (hSpaced : Spaced (trunk ++ ds) body)
    (hStart : ∃ c ∈ body.head?, IsDigit c)
    (hTail : IsTail tail extension)
    (hShort : (front ++ (body ++ tail)).length ≤ longestText)
    (hNamed : Region.ofName? name = some r) :
    read? name (front ++ (body ++ tail)) =
      some ⟨r, ds, extension.map String.ofList⟩ := by
  have hLong : 3 ≤ (trunk ++ ds).length := by
    have := (hTrunk.length_append hContains).1
    omega
  have hSplit : splitCodeLeniently (some r) body = some none := by
    rw [splitCodeLeniently, splitCode_home hContains hTrunk hSpaced]
  refine (read?_spaced_iff false hFront hSpaced hLong (.inr hStart)
    hTail hShort).mpr ⟨.inl (by rw [hNamed]; rfl), .inr ⟨r, ?_⟩⟩
  rw [Region.ofName?_upper hNamed]
  refine ⟨hSplit, rfl, ?_⟩
  change numberOf? r (dialled body) extension = _
  rw [hSpaced.dialled_eq]
  exact numberOf?_of_trunk hContains hTrunk extension

/-
  A valid number that is read from such a text, also where another
  country is named, is a number of the country that is named.
-/
theorem Number.region_of_read?_home
    {n : Number}
    (hContains : r.plan.general.contains ds = true)
    (hTrunk : IsTrunk r trunk)
    (hFront : ∀ c ∈ front, c ∈ marks)
    (hSpaced : Spaced (trunk ++ ds) body)
    (hStart : ∃ c ∈ body.head?, IsDigit c)
    (hTail : IsTail tail extension)
    (hShort : (front ++ (body ++ tail)).length ≤ longestText)
    (hRead : read? name (front ++ (body ++ tail)) = some n)
    (hValid : n.isValid = true) :
    Region.ofName? name = some n.region := by
  rcases hTrunk.length_append hContains with ⟨hSeven, hMost⟩
  have hLong : 3 ≤ (trunk ++ ds).length := by omega
  have hPlain : ∀ c ∈ body.head?, isPlus c = false :=
    fun c hHead => hSpaced.isPlus_eq c (List.mem_of_head? hHead)
  rcases (read?_spaced_iff false hFront hSpaced hLong (.inr hStart)
    hTail hShort).mp hRead with ⟨hNamed | hFalse, hReads⟩
  swap
  · cases hFalse
  rcases Option.isSome_iff_exists.mp hNamed with ⟨home, hHome⟩
  rw [Region.ofName?_upper hHome] at hReads
  rw [hHome, Option.some.injEq]
  rcases hReads with ⟨found, rest, hSplit, hNumber⟩ |
    ⟨found, -, hSame, hNumber⟩
  · rcases parts_of_numberOf? hNumber with ⟨rfl, hShorter, -⟩
    have hCode :=
      splitCode_of_splitCodeLeniently hPlain hSplit
    rcases region_of_splitCode hPlain hCode with hEq | ⟨hExit, hLength⟩
    · exact hEq.symm
    · -- Too few digits are left after leading out of the country.
      rw [hSpaced.dialled_eq] at hExit hLength
      have hOther :=
        (Region.length_of_contains (Bool.and_eq_true_iff.mp hValid).1).2.1
      cases home with
      | unitedStates =>
          change 3 + _ + _ = _ at hLength
          omega
      | unitedKingdom => exact (hTrunk.not_zeros hContains hExit).elim
      | france => exact (hTrunk.not_zeros hContains hExit).elim
  · cases hSame
    exact (parts_of_numberOf? hNumber).1.symm

end Phone

end RecordRules
