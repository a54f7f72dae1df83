import RecordRules.Proofs.Constraint.FormatStep
import RecordRules.Proofs.Rule.TextVerdicts
import RecordRules.Proofs.Text.Ascii

/-
  The grammar of mail addresses, and the rule that asks for it.

  Main declarations:
    * `Email.IsLocal` and `Email.IsDomain`, the two sides of an
      address, and `Email.IsAddress`
    * `Email.IsAddressLine`, an address that a line end may close
    * `Email.isLocal_iff`, `Email.isDomain_iff` and
      `Email.isAddress_iff`, for texts of ASCII characters
    * `TextRule.email_accepts_grammar`
-/

namespace RecordRules

open Text

namespace Email

------------------------------------------------------------
-- The grammar
------------------------------------------------------------

/- White space of ASCII. -/
def IsSpace (c : Char) : Prop :=
  (9 ≤ c.toNat ∧ c.toNat ≤ 13) ∨ (28 ≤ c.toNat ∧ c.toNat ≤ 32)

/- Characters that atoms may not have. -/
def specials : List Char :=
  [ '<', '>', '(', ')', '[', ']', '\\', '.', ',', ';', ':', '@'
  , '\x22' ]

/- One character or more, none of them special or white space. -/
def IsAtom (cs : List Char) : Prop :=
  cs ≠ [] ∧ ∀ c ∈ cs, ¬ IsSpace c ∧ c ∉ specials

/- What stands before the at sign. -/
inductive IsLocal : List Char → Prop where
  | atoms
      (pieces : List (List Char))
      (hSome : pieces ≠ [])
      (hAtoms : ∀ piece ∈ pieces, IsAtom piece) :
      IsLocal (['.'].intercalate pieces)
  | quoted
      (inner : List Char)
      (hSome : inner ≠ [])
      (hLine : '\n' ∉ inner) :
      IsLocal ('\x22' :: inner ++ ['\x22'])

/- One digit to three. -/
def IsGroup (cs : List Char) : Prop :=
  1 ≤ cs.length ∧ cs.length ≤ 3 ∧ ∀ c ∈ cs, IsDigit c

/- One letter, digit or hyphen, or more. -/
def IsLabel (cs : List Char) : Prop :=
  cs ≠ [] ∧ ∀ c ∈ cs, isAsciiLetter c = true ∨ IsDigit c ∨ c = '-'

/- Two letters or more. -/
def IsTop (cs : List Char) : Prop :=
  2 ≤ cs.length ∧ ∀ c ∈ cs, isAsciiLetter c = true

/- What stands after the at sign. -/
inductive IsDomain : List Char → Prop where
  | numeric
      (a b c d : List Char)
      (hGroups : ∀ group ∈ [a, b, c, d], IsGroup group) :
      IsDomain
        ('[' :: a ++ '.' :: b ++ '.' :: c ++ '.' :: d ++ [']'])
  | named
      (labels : List (List Char))
      (top : List Char)
      (hSome : labels ≠ [])
      (hLabels : ∀ label ∈ labels, IsLabel label)
      (hTop : IsTop top) :
      IsDomain (labels.flatMap (fun label => label ++ ['.']) ++ top)

/- A local part and a domain, with an at sign between them. -/
def IsAddress (cs : List Char) : Prop :=
  ∃ before after, IsLocal before ∧ IsDomain after ∧
    cs = before ++ '@' :: after

/- An address, which one line end may close. -/
def IsAddressLine (cs : List Char) : Prop :=
  IsAddress cs ∨ ∃ body, IsAddress body ∧ cs = body ++ ['\n']

------------------------------------------------------------
-- Pieces between points
------------------------------------------------------------

theorem mem_intercalate
    {pieces : List (List Char)}
    {piece : List Char}
    {c : Char}
    (hPiece : piece ∈ pieces)
    (hMember : c ∈ piece) :
    c ∈ ['.'].intercalate pieces := by
  induction pieces with
  | nil => cases hPiece
  | cons first rest ih =>
      rcases rest with _ | ⟨second, rest⟩
      · rw [List.mem_singleton] at hPiece
        simpa [List.intercalate_singleton, hPiece] using hMember
      · rw [List.intercalate_cons_cons, List.mem_append]
        rcases List.mem_cons.mp hPiece with rfl | hRest
        · exact .inl (List.mem_append_left _ hMember)
        · exact .inr (ih hRest)

/- Pieces of an ASCII text are in ASCII. -/
theorem isAscii_of_mem_splitAtPoints
    {cs piece : List Char}
    (hAscii : IsAscii cs)
    (hPiece : piece ∈ splitAtPoints cs) :
    IsAscii piece := by
  intro c hMember
  have hInside := mem_intercalate hPiece hMember
  rw [splitAtPoints, List.intercalate_splitOn] at hInside
  exact hAscii c hInside

/- Pieces without points are found again. -/
theorem splitAtPoints_intercalate
    {pieces : List (List Char)}
    (hSome : pieces ≠ [])
    (hPoints : ∀ piece ∈ pieces, '.' ∉ piece) :
    splitAtPoints (['.'].intercalate pieces) = pieces :=
  List.splitOn_intercalate '.' hPoints hSome

/- Labels that points follow, and a last part, have points between. -/
theorem intercalate_labels
    (labels : List (List Char))
    (top : List Char) :
    ['.'].intercalate (labels ++ [top]) =
      labels.flatMap (fun label => label ++ ['.']) ++ top := by
  induction labels with
  | nil => exact List.intercalate_singleton
  | cons label rest ih =>
      have hRest : rest ++ [top] ≠ [] := by simp
      rw [List.cons_append, List.intercalate_cons_of_ne_nil hRest, ih]
      simp

------------------------------------------------------------
-- Before the at sign
------------------------------------------------------------

theorem isAtomChar_iff
    {c : Char}
    (hAscii : c.toNat < 128) :
    isAtomChar c = true ↔ ¬ IsSpace c ∧ c ∉ specials := by
  have hReserved : isReserved c = true ↔ c ∈ specials := by
    rw [isReserved, List.contains_iff_mem]
    exact Iff.rfl
  have hBlank : isBlank c = true ↔ IsSpace c := by
    simp [isBlank, IsSpace]
    omega
  rw [isAtomChar, Bool.and_eq_true, Bool.not_eq_true', Bool.not_eq_true',
    ← Bool.not_eq_true, ← Bool.not_eq_true, hReserved, hBlank, and_comm]

theorem isAtom_iff
    {cs : List Char}
    (hAscii : IsAscii cs) :
    isAtom cs = true ↔ IsAtom cs := by
  simp only [isAtom, IsAtom, Bool.and_eq_true, Bool.not_eq_true',
    List.isEmpty_eq_false_iff, List.all_eq_true]
  exact and_congr_right fun _ =>
    forall₂_congr fun c hMember => isAtomChar_iff (hAscii c hMember)

theorem isQuotedText_iff
    {cs : List Char} :
    isQuotedText cs = true ↔
      ∃ inner, inner ≠ [] ∧ '\n' ∉ inner ∧
        cs = '\x22' :: inner ++ ['\x22'] := by
  constructor
  · intro hQuoted
    unfold isQuotedText at hQuoted
    split at hQuoted
    · rename_i rest
      split at hQuoted
      · rename_i inner hRest
        rw [List.reverse_eq_cons_iff] at hRest
        refine ⟨inner.reverse, ?_, ?_, ?_⟩
        · simpa using (Bool.and_eq_true_iff.mp hQuoted).1
        · simpa using (Bool.and_eq_true_iff.mp hQuoted).2
        · rw [hRest, List.cons_append]
      · cases hQuoted
    · cases hQuoted
  · rintro ⟨inner, hSome, hLine, rfl⟩
    simp [isQuotedText, hSome, hLine]

theorem isLocal_iff
    {cs : List Char}
    (hAscii : IsAscii cs) :
    isLocal cs = true ↔ IsLocal cs := by
  rw [isLocal, Bool.or_eq_true, isQuotedText_iff, List.all_eq_true]
  constructor
  · rintro (hAtoms | ⟨inner, hSome, hLine, rfl⟩)
    · have hText : ['.'].intercalate (splitAtPoints cs) = cs :=
        List.intercalate_splitOn '.'
      rw [← hText]
      refine .atoms _ (List.splitOn_ne_nil '.' cs) fun piece hPiece => ?_
      have hPieceAscii := isAscii_of_mem_splitAtPoints hAscii hPiece
      exact (isAtom_iff hPieceAscii).mp (hAtoms piece hPiece)
    · exact .quoted inner hSome hLine
  · rintro (⟨pieces, hSome, hAtoms⟩ | ⟨inner, hSome, hLine⟩)
    · left
      have hPoints : ∀ piece ∈ pieces, '.' ∉ piece :=
        fun piece hPiece hPoint =>
          ((hAtoms piece hPiece).2 '.' hPoint).2 (by decide)
      rw [splitAtPoints_intercalate hSome hPoints]
      intro piece hPiece
      have hPieceAscii : IsAscii piece :=
        fun c hMember => hAscii c (mem_intercalate hPiece hMember)
      exact (isAtom_iff hPieceAscii).mpr (hAtoms piece hPiece)
    · exact .inr ⟨inner, hSome, hLine, rfl⟩

------------------------------------------------------------
-- After the at sign
------------------------------------------------------------

theorem isSome_asciiDigit?_iff
    {c : Char} :
    (asciiDigit? c).isSome = true ↔ IsDigit c := by
  unfold asciiDigit? IsDigit
  split <;> simp_all

/- Only letters of ASCII have a letter form in ASCII. -/
theorem isAsciiLetterForm_iff
    {c : Char}
    (hAscii : c.toNat < 128) :
    isAsciiLetterForm c = true ↔ isAsciiLetter c = true := by
  have hForms :
      [0x130, 0x131, 0x17f, 0x212a].contains c.toNat = false := by
    simp
    omega
  rw [isAsciiLetterForm, hForms, Bool.or_false]

theorem isOctet_iff
    {cs : List Char} :
    isOctet cs = true ↔ IsGroup cs := by
  simp [isOctet, IsGroup, isSome_asciiDigit?_iff, and_assoc]

theorem isLabel_iff
    {cs : List Char}
    (hAscii : IsAscii cs) :
    isLabel cs = true ↔ IsLabel cs := by
  simp only [isLabel, IsLabel, Bool.and_eq_true, Bool.not_eq_true',
    List.isEmpty_eq_false_iff, List.all_eq_true, Bool.or_eq_true,
    beq_iff_eq, isSome_asciiDigit?_iff, or_assoc]
  exact and_congr_right fun _ =>
    forall₂_congr fun c hMember =>
      or_congr_left (isAsciiLetterForm_iff (hAscii c hMember))

theorem isTopLabel_iff
    {cs : List Char}
    (hAscii : IsAscii cs) :
    isTopLabel cs = true ↔ IsTop cs := by
  simp only [isTopLabel, IsTop, Bool.and_eq_true, decide_eq_true_eq,
    List.all_eq_true]
  exact and_congr_right fun _ =>
    forall₂_congr fun c hMember =>
      isAsciiLetterForm_iff (hAscii c hMember)

/- Digits, letters and hyphens are none of the marks of an address. -/
theorem IsGroup.not_mem
    {cs : List Char}
    {mark : Char}
    (hGroup : IsGroup cs)
    (hMark : ¬ IsDigit mark) :
    mark ∉ cs :=
  fun hMember => hMark (hGroup.2.2 mark hMember)

theorem IsLabel.not_mem
    {cs : List Char}
    {mark : Char}
    (hLabel : IsLabel cs)
    (hMark :
      ¬ (isAsciiLetter mark = true ∨ IsDigit mark ∨ mark = '-')) :
    mark ∉ cs :=
  fun hMember => hMark (hLabel.2 mark hMember)

theorem IsTop.not_mem
    {cs : List Char}
    {mark : Char}
    (hTop : IsTop cs)
    (hMark : isAsciiLetter mark = false) :
    mark ∉ cs := by
  intro hMember
  have hLetter := hTop.2 mark hMember
  rw [hMark] at hLetter
  cases hLetter

theorem intercalate_four
    (a b c d : List Char) :
    ['.'].intercalate [a, b, c, d] =
      a ++ '.' :: b ++ '.' :: c ++ '.' :: d := by
  simp [List.intercalate_cons_cons, List.intercalate_singleton]

theorem isNumericDomain_brackets
    (inner : List Char) :
    isNumericDomain ('[' :: inner ++ [']']) =
      ((splitAtPoints inner).length == 4 &&
        (splitAtPoints inner).all isOctet) := by
  simp [isNumericDomain]

theorem isNumericDomain_iff
    {cs : List Char} :
    isNumericDomain cs = true ↔
      ∃ a b c d, (∀ group ∈ [a, b, c, d], IsGroup group) ∧
        cs = '[' :: a ++ '.' :: b ++ '.' :: c ++ '.' :: d ++ [']'] := by
  constructor
  · intro hNumeric
    unfold isNumericDomain at hNumeric
    split at hNumeric
    · rename_i rest
      split at hNumeric
      · rename_i inner hRest
        rw [List.reverse_eq_cons_iff] at hRest
        rcases Bool.and_eq_true_iff.mp hNumeric with ⟨hFour, hGroups⟩
        rcases List.length_eq_four.mp (beq_iff_eq.mp hFour) with
          ⟨a, b, c, d, hParts⟩
        have hText :
            ['.'].intercalate (splitAtPoints inner.reverse) =
              inner.reverse :=
          List.intercalate_splitOn '.'
        rw [hParts, intercalate_four] at hText
        rw [hParts, List.all_eq_true] at hGroups
        refine ⟨a, b, c, d, fun group hMember => ?_, ?_⟩
        · exact isOctet_iff.mp (hGroups group hMember)
        · rw [hRest, ← hText]
          simp
      · cases hNumeric
    · cases hNumeric
  · rintro ⟨a, b, c, d, hGroups, rfl⟩
    have hPoints : ∀ group ∈ [a, b, c, d], '.' ∉ group :=
      fun group hMember =>
        (hGroups group hMember).not_mem (by decide)
    have hParts :=
      splitAtPoints_intercalate (List.cons_ne_nil a _) hPoints
    have hOctets : [a, b, c, d].all isOctet = true :=
      List.all_eq_true.mpr fun group hMember =>
        isOctet_iff.mpr (hGroups group hMember)
    rw [intercalate_four] at hParts
    have hBrackets :=
      isNumericDomain_brackets (a ++ '.' :: b ++ '.' :: c ++ '.' :: d)
    rw [hParts, hOctets] at hBrackets
    simpa using hBrackets

/- Of the pieces of a name, the last one is the top. -/
theorem isNamedDomain_of_pieces
    {cs top : List Char}
    {labels : List (List Char)}
    (hSome : labels ≠ [])
    (hPieces : splitAtPoints cs = labels ++ [top]) :
    isNamedDomain cs = (isTopLabel top && labels.all isLabel) := by
  rw [isNamedDomain, hPieces, List.reverse_append,
    ← List.all_reverse (l := labels)]
  rcases hBack : labels.reverse with _ | ⟨label, rest⟩
  · exact absurd (List.reverse_eq_nil_iff.mp hBack) hSome
  · rfl

theorem exists_pieces_of_isNamedDomain
    {cs : List Char}
    (hNamed : isNamedDomain cs = true) :
    ∃ labels top, labels ≠ [] ∧ splitAtPoints cs = labels ++ [top] := by
  unfold isNamedDomain at hNamed
  split at hNamed
  · rename_i top label labels hPieces
    refine ⟨(label :: labels).reverse, top, by simp, ?_⟩
    exact List.reverse_eq_cons_iff.mp hPieces
  · cases hNamed

theorem isNamedDomain_iff
    {cs : List Char}
    (hAscii : IsAscii cs) :
    isNamedDomain cs = true ↔
      ∃ labels top, labels ≠ [] ∧ (∀ label ∈ labels, IsLabel label) ∧
        IsTop top ∧
        cs = labels.flatMap (fun label => label ++ ['.']) ++ top := by
  have hOwn (piece : List Char)
      (hPiece : piece ∈ splitAtPoints cs) :
      IsAscii piece :=
    isAscii_of_mem_splitAtPoints hAscii hPiece
  constructor
  · intro hNamed
    rcases exists_pieces_of_isNamedDomain hNamed with
      ⟨labels, top, hSome, hPieces⟩
    have hText : ['.'].intercalate (splitAtPoints cs) = cs :=
      List.intercalate_splitOn '.'
    rw [isNamedDomain_of_pieces hSome hPieces] at hNamed
    rcases Bool.and_eq_true_iff.mp hNamed with ⟨hTop, hLabels⟩
    rw [List.all_eq_true] at hLabels
    rw [hPieces, intercalate_labels] at hText
    rw [hPieces] at hOwn
    refine ⟨labels, top, hSome, fun label hLabel => ?_, ?_, hText.symm⟩
    · have hLabelAscii := hOwn label (List.mem_append_left _ hLabel)
      exact (isLabel_iff hLabelAscii).mp (hLabels label hLabel)
    · have hTopAscii := hOwn top (by simp)
      exact (isTopLabel_iff hTopAscii).mp hTop
  · rintro ⟨labels, top, hSome, hLabels, hTop, hText⟩
    have hPoints : ∀ piece ∈ labels ++ [top], '.' ∉ piece := by
      intro piece hPiece
      rcases List.mem_append.mp hPiece with hLabel | hLast
      · exact (hLabels piece hLabel).not_mem (by decide)
      · rw [List.mem_singleton.mp hLast]
        exact hTop.not_mem (by decide)
    have hPieces : splitAtPoints cs = labels ++ [top] := by
      rw [hText, ← intercalate_labels]
      exact splitAtPoints_intercalate (by simp) hPoints
    rw [hPieces] at hOwn
    rw [isNamedDomain_of_pieces hSome hPieces, Bool.and_eq_true,
      List.all_eq_true]
    constructor
    · have hTopAscii := hOwn top (by simp)
      exact (isTopLabel_iff hTopAscii).mpr hTop
    · intro label hLabel
      have hLabelAscii := hOwn label (List.mem_append_left _ hLabel)
      exact (isLabel_iff hLabelAscii).mpr (hLabels label hLabel)

theorem isDomain_iff
    {cs : List Char}
    (hAscii : IsAscii cs) :
    isDomain cs = true ↔ IsDomain cs := by
  rw [isDomain, Bool.or_eq_true, isNumericDomain_iff,
    isNamedDomain_iff hAscii]
  constructor
  · rintro
      (⟨a, b, c, d, hGroups, rfl⟩ |
        ⟨labels, top, hSome, hLabels, hTop, rfl⟩)
    · exact .numeric a b c d hGroups
    · exact .named labels top hSome hLabels hTop
  · rintro (⟨a, b, c, d, hGroups⟩ | ⟨labels, top, hSome, hLabels, hTop⟩)
    · exact .inl ⟨a, b, c, d, hGroups, rfl⟩
    · exact .inr ⟨labels, top, hSome, hLabels, hTop, rfl⟩

/- What is no part of a label has no place in a domain. -/
theorem IsDomain.not_mem
    {cs : List Char}
    {mark : Char}
    (hDomain : IsDomain cs)
    (hLetter :
      ¬ (isAsciiLetter mark = true ∨ IsDigit mark ∨ mark = '-'))
    (hMark : mark ∉ ['[', '.', ']']) :
    mark ∉ cs := by
  simp only [List.mem_cons, List.not_mem_nil, or_false, not_or] at hMark
  rcases hDomain with ⟨a, b, c, d, hGroups⟩ |
    ⟨labels, top, -, hLabels, hTop⟩
  · have hNone : ∀ group ∈ [a, b, c, d], mark ∉ group :=
      fun group hMember =>
        (hGroups group hMember).not_mem fun hDigit =>
          hLetter (.inr (.inl hDigit))
    simp only [List.forall_mem_cons] at hNone
    simp [hMark, hNone]
  · have hNone : ∀ label ∈ labels, mark ∉ label :=
      fun label hMember => (hLabels label hMember).not_mem hLetter
    have hLast : mark ∉ top :=
      fun hMember => hLetter (.inl (hTop.2 mark hMember))
    simpa [hMark, hLast] using hNone

------------------------------------------------------------
-- The at sign and the line end
------------------------------------------------------------

/- The last at sign is between the two sides. -/
theorem splitAtSign?_append
    (before : List Char)
    {after : List Char}
    (hNone : '@' ∉ after) :
    splitAtSign? (before ++ '@' :: after) = some (before, after) := by
  have hOther : ∀ c ∈ after.reverse, (c != '@') = true := by
    intro c hMember
    rw [bne_iff_ne]
    rintro rfl
    exact hNone (List.mem_reverse.mp hMember)
  have hBack :
      (before ++ '@' :: after).reverse =
        after.reverse ++ '@' :: before.reverse := by
    simp
  simp only [splitAtSign?, hBack, List.dropWhile_append_of_pos hOther,
    List.takeWhile_append_of_pos hOther]
  simp

theorem eq_of_splitAtSign?
    {cs before after : List Char}
    (hSplit : splitAtSign? cs = some (before, after)) :
    cs = before ++ '@' :: after := by
  simp only [splitAtSign?] at hSplit
  have hHead := List.head?_dropWhile_not (· != '@') cs.reverse
  have hBack :
      cs.reverse.takeWhile (· != '@') ++ cs.reverse.dropWhile (· != '@') =
        cs.reverse :=
    List.takeWhile_append_dropWhile
  rcases hDrop : cs.reverse.dropWhile (· != '@') with _ | ⟨mark, rest⟩
  · rw [hDrop] at hSplit
    cases hSplit
  · rw [hDrop] at hSplit hHead hBack
    have hMark : mark = '@' := by simpa using hHead
    cases hSplit
    rw [hMark] at hBack
    rw [← List.reverse_inj]
    refine hBack.symm.trans ?_
    simp

theorem withoutLineEnd_append
    (body : List Char) :
    withoutLineEnd (body ++ ['\n']) = body := by
  simp [withoutLineEnd]

/- Only one line end is left off. -/
theorem eq_withoutLineEnd
    (cs : List Char) :
    cs = withoutLineEnd cs ∨ cs = withoutLineEnd cs ++ ['\n'] := by
  unfold withoutLineEnd
  split
  · rename_i rest hBack
    exact .inr (List.reverse_eq_cons_iff.mp hBack)
  · exact .inl rfl

/- An address does not end with a line end. -/
theorem IsAddress.withoutLineEnd_eq
    {cs : List Char}
    (hAddress : IsAddress cs) :
    withoutLineEnd cs = cs := by
  rcases eq_withoutLineEnd cs with hSame | hLine
  · exact hSame.symm
  · rcases hAddress with ⟨before, after, -, hDomain, hText⟩
    have hLast : '\n' ∈ ('@' :: after).getLast? := by
      rw [← List.getLast?_append_of_ne_nil before (by simp), ← hText,
        hLine]
      simp
    rcases List.mem_cons.mp (List.mem_of_getLast? hLast) with
      hSign | hMember
    · cases hSign
    · exact absurd hMember (hDomain.not_mem (by decide) (by decide))

theorem isAddress_withoutLineEnd_iff
    {cs : List Char} :
    IsAddress (withoutLineEnd cs) ↔ IsAddressLine cs := by
  constructor
  · intro hAddress
    rcases eq_withoutLineEnd cs with hSame | hLine
    · exact .inl (hSame ▸ hAddress)
    · exact .inr ⟨withoutLineEnd cs, hAddress, hLine⟩
  · rintro (hAddress | ⟨body, hAddress, rfl⟩)
    · rw [hAddress.withoutLineEnd_eq]
      exact hAddress
    · rw [withoutLineEnd_append]
      exact hAddress

------------------------------------------------------------
-- Addresses
------------------------------------------------------------

theorem isAscii_sides
    {before after : List Char}
    (hAscii : IsAscii (before ++ '@' :: after)) :
    IsAscii before ∧ IsAscii after := by
  constructor
  · intro c hMember
    exact hAscii c (List.mem_append_left _ hMember)
  · intro c hMember
    have hRest := List.mem_cons_of_mem '@' hMember
    exact hAscii c (List.mem_append_right _ hRest)

/- The texts that are accepted are those of the grammar. -/
theorem isAddress_iff
    {cs : List Char}
    (hAscii : IsAscii cs) :
    isAddress cs = true ↔ IsAddressLine cs := by
  have hWhole : IsAscii (withoutLineEnd cs) := by
    intro c hMember
    refine hAscii c ?_
    rcases eq_withoutLineEnd cs with hSame | hLine
    · exact hSame ▸ hMember
    · rw [hLine]
      exact List.mem_append_left _ hMember
  rw [← isAddress_withoutLineEnd_iff, isAddress]
  constructor
  · intro hAddress
    split at hAddress
    · cases hAddress
    · rename_i before after hSplit
      have hText := eq_of_splitAtSign? hSplit
      rw [hText] at hWhole ⊢
      rcases Bool.and_eq_true_iff.mp hAddress with ⟨hLocal, hDomain⟩
      rcases isAscii_sides hWhole with ⟨hBefore, hAfter⟩
      exact
        ⟨before, after, (isLocal_iff hBefore).mp hLocal,
          (isDomain_iff hAfter).mp hDomain, rfl⟩
  · rintro ⟨before, after, hLocal, hDomain, hText⟩
    rw [hText] at hWhole ⊢
    rcases isAscii_sides hWhole with ⟨hBefore, hAfter⟩
    have hNone : '@' ∉ after := hDomain.not_mem (by decide) (by decide)
    rw [splitAtSign?_append before hNone]
    exact
      Bool.and_eq_true_iff.mpr
        ⟨(isLocal_iff hBefore).mpr hLocal,
          (isDomain_iff hAfter).mpr hDomain⟩

end Email

------------------------------------------------------------
-- The rule
------------------------------------------------------------

namespace TextRule

variable
  {field s : String}
  {r : Record}

/- The rule for mail addresses gives a verdict on every text. -/
theorem result_check_email
    (hGet : r.get field = .ok (.text s))
    (context : Context)
    (options : RuleOptions) :
    ((email.check context options field).outcome r).1 =
      .ok (Email.isAddress s.toList) := by
  have hMore : email ≠ present := nofun
  rw [result_check hGet (textOf_text s) hMore]
  rcases s.toList with _ | ⟨c, rest⟩
  · rfl
  · rfl

/-
  The rule for mail addresses accepts the ASCII texts of the grammar
  and rejects the others.
-/
theorem email_accepts_grammar
    (hGet : r.get field = .ok (.text s))
    (hAscii : IsAscii s.toList)
    (context : Context)
    (options : RuleOptions) :
    (((email.check context options field).outcome r).1 = .ok true ↔
        Email.IsAddressLine s.toList) ∧
      (((email.check context options field).outcome r).1 = .ok false ↔
        ¬ Email.IsAddressLine s.toList) := by
  rw [result_check_email hGet, ← Email.isAddress_iff hAscii,
    Except.ok.injEq, Except.ok.injEq, Bool.not_eq_true]
  exact ⟨Iff.rfl, Iff.rfl⟩

/-
  A quoted local part may hold an at sign and quotes, and one line end
  after the domain does no harm.
-/
theorem quoted_address_is_accepted :
    ∃ context : Context,
      ((email.check context {} "mail").outcome
        (.ofValues
          [("mail", .text "\x22a@\x22b\x22@x-1.org\n")])).1 =
        .ok true := by
  let context : Context :=
    ⟨.midnight ⟨2024, 1, 1, by decide⟩, false, "US"⟩
  let s := "\x22a@\x22b\x22@x-1.org\n"
  let r : Record := .ofValues [("mail", .text s)]
  have hGet : r.get "mail" = .ok (.text s) := rfl
  have hLocal : Email.IsLocal "\x22a@\x22b\x22".toList :=
    .quoted "a@\x22b".toList (by decide) (by decide)
  have hDomain : Email.IsDomain "x-1.org".toList := by
    refine .named ["x-1".toList] "org".toList (by decide) ?_ ?_
    · simp [Email.IsLabel, isAsciiLetter, IsDigit]
    · simp [Email.IsTop, isAsciiLetter]
  have hLine : Email.IsAddressLine s.toList :=
    .inr ⟨_, ⟨_, _, hLocal, hDomain, rfl⟩, by decide⟩
  have hAscii : IsAscii s.toList := by decide
  have hVerdict := email_accepts_grammar hGet hAscii context {}
  exact ⟨context, hVerdict.1.mpr hLine⟩

end TextRule

end RecordRules
