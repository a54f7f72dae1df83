import RecordRules.Proofs.Phone.LaidOut

/-
  Numbers that are read back from what they are written as.

  Main declarations:
    * `Phone.Number.IsProper`, and `Phone.Number.isProper_of_read?`
    * `Phone.Number.read?_render`, from its compact form every valid
      number is read back, less its extension
    * `Phone.Number.read?_render_international`
    * `Phone.Number.read?_render_national`
    * `Phone.Number.ReadsBack`, and `Phone.Number.readsBack_iff`
-/

namespace RecordRules

namespace Phone

open Text

namespace Number

variable {n m : Number} {name : String} {cs : List Char}

------------------------------------------------------------
-- Numbers that are read
------------------------------------------------------------

/-
  A valid number of digits, with an extension that some introduction
  allows.
-/
structure IsProper (n : Number) : Prop where
  digits : AreDigits n.digits
  valid : n.isValid = true
  extension :
    ∀ e ∈ n.extension, IsExtension e.toList ∧ e.length ≤ 20

/- Numbers that are read are proper once they are valid. -/
theorem isProper_of_read?
    (hRead : read? name cs = some n)
    (hValid : n.isValid = true) :
    n.IsProper := by
  refine ⟨areDigits_of_read? hRead, hValid, ?_⟩
  rcases read?_eq_some_iff.mp hRead with ⟨-, text, -, -, -, hReads⟩
  intro e hMember
  rw [hReads.extension_eq] at hMember
  rcases Option.map_eq_some_iff.mp hMember with ⟨digits, hSplit, rfl⟩
  rw [String.toList_ofList, String.length_ofList]
  exact isExtension_of_splitExtension hSplit

theorem IsProper.contains
    (hProper : n.IsProper) :
    n.region.plan.general.contains n.digits = true :=
  (Bool.and_eq_true_iff.mp hProper.valid).1

theorem digits_ne_nil
    (hValid : n.isValid = true) :
    n.digits ≠ [] := by
  have hSeven :=
    (Region.length_of_contains (Bool.and_eq_true_iff.mp hValid).1).1
  rw [← List.length_pos_iff]
  omega

------------------------------------------------------------
-- Compact form
------------------------------------------------------------

/-
  A valid number is read from its compact form, less its extension,
  whichever region is named.
-/
theorem read?_render
    (hDigits : AreDigits n.digits)
    (hValid : n.isValid = true)
    (name : String) :
    read? name (n.render .compact) =
      some { n with extension := none } := by
  have hContains := (Bool.and_eq_true_iff.mp hValid).1
  have hTen := (Region.length_of_contains hContains).2.2
  have hAll : AreDigits (n.region.plan.callingCode ++ n.digits) := by
    intro d hMember
    rcases List.mem_append.mp hMember with hCode | hDigit
    · exact callingCode_areDigits n.region d hCode
    · exact hDigits d hDigit
  have hSpaced := Spaced.digitText hAll
    (List.append_ne_nil_of_right_ne_nil _ (digits_ne_nil hValid))
  have hText :
      n.render .compact =
        '+' :: Layout.digitText
          (n.region.plan.callingCode ++ n.digits) ++ [] := by
    simp [render, Layout.digitText]
  have hCode := n.region.length_callingCode_le
  rw [hText]
  refine read?_abroad hContains hSpaced .nothing ?_ name
  simp only [List.append_nil, List.length_cons, Layout.digitText,
    List.length_map, List.length_append]
  unfold longestText
  omega

------------------------------------------------------------
-- Extensions
------------------------------------------------------------

/-
  The letter that stands before an extension in the United Kingdom
  announces nine digits at most.
-/
def HasReadableExtension (n : Number) : Prop :=
  n.region = .unitedKingdom → ∀ e ∈ n.extension, e.length ≤ 9

/- What is written after a number. -/
theorem IsProper.isTail
    (hProper : n.IsProper)
    (hReadable : n.HasReadableExtension) :
    IsTail n.extensionText (n.extension.map String.toList) := by
  rcases n with ⟨r, ds, _ | e⟩
  · exact .nothing
  · rcases hProper.extension e rfl with ⟨hDigits, hTwenty⟩
    have hMark :
        (∀ c ∈ r.plan.extensionMark.toList, c ∉ ";/\\".toList) ∧
          r.plan.extensionMark.toList.getLast?.any isDecimal =
            false := by
      cases r <;> decide
    have hKind :
        ∃ kind : Introduction,
          kind.covers r.plan.extensionMark.toList = true ∧
            kind.allowsEnd false = true ∧ e.length ≤ kind.mostDigits := by
      cases r with
      | unitedStates => exact ⟨.word, by decide, rfl, hTwenty⟩
      | unitedKingdom =>
          exact ⟨.sign, by decide, rfl, hReadable rfl e rfl⟩
      | france => exact ⟨.word, by decide, rfl, hTwenty⟩
    refine .marked hMark.1 hDigits ?_
    rw [extension?_append hMark.2 hDigits, if_pos]
    rcases hKind with ⟨kind, hCovers, hEnd, hFew⟩
    refine List.any_eq_true.mpr ⟨kind, by cases kind <;> decide, ?_⟩
    simp [hCovers, hEnd, String.length_toList, hFew]

theorem IsProper.length_extensionText_le
    (hProper : n.IsProper) :
    n.extensionText.length ≤ 26 := by
  rcases n with ⟨r, ds, _ | e⟩
  · exact Nat.zero_le _
  · have hTwenty := (hProper.extension e rfl).2
    have hMark : r.plan.extensionMark.length ≤ 6 := by
      cases r <;> decide
    simp only [extensionText, List.length_append, String.length_toList]
    omega

theorem map_ofList_toList
    (extension : Option String) :
    (extension.map String.toList).map String.ofList = extension := by
  cases extension <;> simp

------------------------------------------------------------
-- Texts
------------------------------------------------------------

/- Outside its country a number has its calling code in front. -/
theorem IsProper.exists_international
    (hProper : n.IsProper) :
    ∃ body,
      n.render .international = '+' :: body ++ n.extensionText ∧
        Spaced (n.region.plan.callingCode ++ n.digits) body ∧
        body.length ≤ 20 := by
  rcases exists_spaced_laidOut hProper.digits
      (digits_ne_nil hProper.valid) false with
    ⟨trunk, -, hTrunk, hSpaced⟩
  rw [hTrunk rfl, List.nil_append] at hSpaced
  have hCode :
      Spaced n.region.plan.callingCode
        (Layout.digitText n.region.plan.callingCode) :=
    Spaced.digitText (callingCode_areDigits _)
      (by cases n.region <;> decide)
  have hFront :
      ∀ c ∈ Layout.digitText n.region.plan.callingCode ++ [' '],
        IsDigit c ∨ c ∈ marks := by
    intro c hMember
    rcases List.mem_append.mp hMember with hDigit | hBlank
    · exact hCode.chars c hDigit
    · cases List.mem_singleton.mp hBlank
      exact .inr (by decide)
  have hBody := hSpaced.append hFront
  have hBlank : [' '].filterMap digitValue? = [] := rfl
  rw [List.filterMap_append, hCode.values, hBlank, List.append_nil]
    at hBody
  refine ⟨_, ?_, hBody, ?_⟩
  · simp [render]
  · have hLaidOut := length_laidOut_le n false
    have hShort := n.region.length_callingCode_le
    have hTen := (Region.length_of_contains hProper.contains).2.2
    simp only [List.length_append, Layout.digitText, List.length_map,
      List.length_singleton]
    omega

/-
  Within its country a number may have other digits in front. What is
  read starts with the first digit.
-/
theorem IsProper.exists_national
    (hProper : n.IsProper) :
    ∃ trunk front body,
      n.render .national = front ++ (body ++ n.extensionText) ∧
        IsTrunk n.region trunk ∧ (∀ c ∈ front, c ∈ marks) ∧
        Spaced (trunk ++ n.digits) body ∧
        (∃ c ∈ body.head?, IsDigit c) ∧
        (front ++ body).length ≤ 16 := by
  rcases exists_spaced_laidOut hProper.digits
      (digits_ne_nil hProper.valid) true with
    ⟨trunk, hTrunk, -, hSpaced⟩
  rcases hSpaced.exists_first with
    ⟨front, first, rest, hText, hFront, hDigit, hBody⟩
  have hLaidOut := length_laidOut_le n true
  have hTen := (Region.length_of_contains hProper.contains).2.2
  refine ⟨trunk, front, first :: rest, ?_, hTrunk, hFront, hBody,
    ⟨first, rfl, hDigit⟩, ?_⟩
  · rw [render, hText, List.append_assoc]
  · rw [← hText]
    omega

/-
  A number written outside its country is read back, whichever region
  is named.
-/
theorem IsProper.read?_render_international
    (hProper : n.IsProper)
    (hReadable : n.HasReadableExtension)
    (name : String) :
    read? name (n.render .international) = some n := by
  rcases hProper.exists_international with ⟨body, hText, hBody, hFew⟩
  have hShort := hProper.length_extensionText_le
  rw [hText, read?_abroad hProper.contains hBody
    (hProper.isTail hReadable) ?_ name, map_ofList_toList]
  simp only [List.length_append, List.length_cons]
  unfold longestText
  omega

/-
  A number written within its country is read back where this is
  named. Elsewhere it is read as another number, if any.
-/
theorem IsProper.read?_render_national
    (hProper : n.IsProper)
    (hReadable : n.HasReadableExtension)
    (name : String) :
    (Region.ofName? name = some n.region →
        read? name (n.render .national) = some n) ∧
      ∀ m, read? name (n.render .national) = some m →
        m.isValid = true → Region.ofName? name = some m.region := by
  rcases hProper.exists_national with
    ⟨trunk, front, body, hText, hTrunk, hFront, hBody, hStart, hFew⟩
  have hTail := hProper.isTail hReadable
  have hShort :
      (front ++ (body ++ n.extensionText)).length ≤ longestText := by
    have hLength := hProper.length_extensionText_le
    rw [List.length_append] at hFew
    rw [List.length_append, List.length_append]
    unfold longestText
    omega
  rw [hText]
  constructor
  · intro hNamed
    rw [read?_home hProper.contains hTrunk hFront hBody hStart hTail
      hShort hNamed, map_ofList_toList]
  · intro m hRead hValid
    exact region_of_read?_home hProper.contains hTrunk hFront hBody
      hStart hTail hShort hRead hValid

------------------------------------------------------------
-- Long extensions
------------------------------------------------------------

variable {style : Style}

/- Without an extension there is no letter in a number. -/
theorem not_mem_render
    (hDigits : AreDigits n.digits)
    (hValid : n.isValid = true)
    (hNone : n.extension = none)
    (hStyle : style ≠ .compact) :
    'x' ∉ n.render style := by
  have hTail : n.extensionText = [] := by
    rw [extensionText, hNone]
  have hProper : n.IsProper :=
    ⟨hDigits, hValid, by rw [hNone]; exact nofun⟩
  have hAbsent
      {ds : List Nat}
      {body : List Char}
      (hSpaced : Spaced ds body) :
      'x' ∉ body :=
    hSpaced.not_mem (by decide) (by decide)
  cases style with
  | compact => exact (hStyle rfl).elim
  | national =>
      rcases hProper.exists_national with
        ⟨trunk, front, body, hText, -, hFront, hBody, -⟩
      rw [hText, hTail, List.append_nil, List.mem_append, not_or]
      exact ⟨fun hMember => absurd (hFront _ hMember) (by decide),
        hAbsent hBody⟩
  | international =>
      rcases hProper.exists_international with ⟨body, hText, hBody, -⟩
      rw [hText, hTail, List.append_nil, List.mem_cons, not_or]
      exact ⟨by decide, hAbsent hBody⟩

/-
  A number with a longer extension is read without any extension, if
  it is read at all, and is then written in another way.
-/
theorem IsProper.render_ne_of_long
    (hProper : n.IsProper)
    (hLong : ¬ n.HasReadableExtension)
    (hStyle : style ≠ .compact)
    (hRead : read? name (n.render style) = some m)
    (hValid : m.isValid = true) :
    m.render style ≠ n.render style := by
  rw [HasReadableExtension] at hLong
  push Not at hLong
  rcases hLong with ⟨hRegion, e, hMember, hMany⟩
  have hDigits := (hProper.extension e hMember).1
  have hCount : 9 < e.toList.length := by
    rwa [String.length_toList]
  have hTail : n.extensionText = " x".toList ++ e.toList := by
    rw [extensionText, hMember, hRegion]
    rfl
  have hNone : m.extension = none := by
    cases style with
    | compact => exact (hStyle rfl).elim
    | national =>
        rcases hProper.exists_national with
          ⟨trunk, front, body, hText, -, hFront, hBody, hStart, -⟩
        rw [hText, hTail] at hRead
        exact extension_of_read?_long false hFront hBody (.inr hStart)
          hDigits hCount hRead
    | international =>
        rcases hProper.exists_international with
          ⟨body, hText, hBody, -⟩
        rw [hText, hTail] at hRead
        exact extension_of_read?_long true (List.forall_mem_nil _)
          hBody (.inl rfl) hDigits hCount hRead
  have hThere : 'x' ∈ n.render style := by
    have hMark : 'x' ∈ n.extensionText := by
      rw [hTail]
      exact List.mem_append_left _ (by decide)
    cases style with
    | compact => exact (hStyle rfl).elim
    | national => exact List.mem_append_right _ hMark
    | international => exact List.mem_append_right _ hMark
  intro hSame
  rw [← hSame] at hThere
  exact not_mem_render (areDigits_of_read? hRead) hValid hNone hStyle
    hThere

------------------------------------------------------------
-- Reading back
------------------------------------------------------------

/-
  Whether a number written in a style is read back where a region is
  named: in compact form always, and else if the extension can be
  read and the text tells the region or is read in it.
-/
def ReadsBack
    (name : String)
    (style : Style)
    (n : Number) : Prop :=
  style = .compact ∨
    n.HasReadableExtension ∧
      (style = .international ∨ Region.ofName? name = some n.region)

/-
  A text that a number is written as is read as a valid number that is
  written as the same text exactly where the number is read back.
-/
theorem IsProper.readsBack_iff
    (hProper : n.IsProper)
    (style : Style) :
    (∃ m, read? name (n.render style) = some m ∧ m.isValid = true ∧
        m.render style = n.render style) ↔
      n.ReadsBack name style := by
  by_cases hCompact : style = .compact
  · subst hCompact
    refine iff_of_true ⟨_, read?_render hProper.digits hProper.valid name,
      hProper.valid, rfl⟩ (.inl rfl)
  rw [ReadsBack, or_iff_right hCompact]
  by_cases hReadable : n.HasReadableExtension
  · rw [and_iff_right hReadable]
    cases style with
    | compact => exact (hCompact rfl).elim
    | international =>
        exact iff_of_true
          ⟨n, hProper.read?_render_international hReadable name,
            hProper.valid, rfl⟩
          (.inl rfl)
    | national =>
        rw [or_iff_right (by decide)]
        rcases hProper.read?_render_national hReadable name with
          ⟨hHome, hElsewhere⟩
        constructor
        · rintro ⟨m, hRead, hValid, hSame⟩
          rw [hElsewhere m hRead hValid,
            region_eq_of_laidOut (areDigits_of_read? hRead) hValid
              hProper.digits hProper.valid hSame]
        · intro hNamed
          exact ⟨n, hHome hNamed, hProper.valid, rfl⟩
  · refine iff_of_false ?_ fun hBoth => hReadable hBoth.1
    rintro ⟨m, hRead, hValid, hSame⟩
    exact hProper.render_ne_of_long hReadable hCompact hRead hValid hSame

end Number

end Phone

end RecordRules
