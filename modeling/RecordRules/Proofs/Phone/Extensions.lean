import RecordRules.Phone.Extension
import RecordRules.Phone.Number
import RecordRules.Proofs.Phone.Spaced

/-
  Numbers with their extensions in a text.

  Main declarations:
    * `Phone.IsExtension`, the digits of an extension
    * `Phone.extension?_append`, when digits after a text are an
      extension
    * `Phone.Solid`, texts that announce no extension
    * `Phone.splitExtension_signed` and `Phone.splitExtension_long`,
      numbers without an extension
    * `Phone.IsTail`, what may follow a number, and
      `Phone.IsTail.splitExtension_append`
-/

namespace RecordRules

namespace Phone

open Text

------------------------------------------------------------
-- Digits of extensions
------------------------------------------------------------

/- Decimal digits of any script, at least one of them. -/
structure IsExtension (digits : List Char) : Prop where
  some : digits ≠ []
  decimals : ∀ c ∈ digits, isDecimal c = true

/- Decimal digits of any script are numerals, which may end a number. -/
theorem isNumberEnd_of_isDecimal
    {c : Char}
    (hDecimal : isDecimal c = true) :
    isNumberEnd c = true := by
  rcases isDecimal_cases hDecimal with
    hDigit | ⟨hBeyond, start, hStart, hLow, hHigh⟩
  · exact IsDigit.isNumberEnd hDigit
  · have hNumerals :
        ∀ start ∈ decimalZeros.toList, ∀ k < 10,
          numerals.contains (start + k) = true := by
      decide +kernel
    have hNumeral := hNumerals start hStart (c.toNat - start) (by omega)
    rw [show start + (c.toNat - start) = c.toNat by omega] at hNumeral
    have hLine : c ≠ '_' := by
      rintro rfl
      exact hBeyond (by decide)
    simp [isNumberEnd, isWordChar, isLetterOrNumeral, hBeyond, hLine,
      hNumeral]

/- A text that ends with a digit is not closed by a number sign. -/
theorem IsExtension.isOpen
    {digits : List Char}
    (hDigits : IsExtension digits)
    (lead : List Char) :
    (lead ++ digits).getLast? ≠ Option.some '#' := by
  rw [List.getLast?_append,
    List.getLast?_eq_some_getLast hDigits.some, Option.some_or]
  intro hMark
  have hLast := hDigits.decimals _ (List.getLast_mem hDigits.some)
  rw [Option.some.inj hMark] at hLast
  exact absurd hLast (by decide)

theorem IsExtension.isNumberEnd_getLast
    {digits : List Char}
    (hDigits : IsExtension digits)
    (lead : List Char) :
    ∀ c ∈ (lead ++ digits).getLast?, isNumberEnd c = true := by
  rw [List.getLast?_append,
    List.getLast?_eq_some_getLast hDigits.some, Option.some_or]
  rintro c hLast
  cases hLast
  exact isNumberEnd_of_isDecimal
    (hDigits.decimals _ (List.getLast_mem hDigits.some))

/-
  Digits after a text are an extension if there are not too many of
  them for what introduces them.
-/
theorem extension?_append
    {lead digits : List Char}
    (hLead : lead.getLast?.any isDecimal = false)
    (hDigits : IsExtension digits) :
    extension? (lead ++ digits) =
      if Introduction.all.any fun kind =>
          digits.length ≤ kind.mostDigits && kind.allowsEnd false &&
            kind.covers lead then
        some digits
      else
        none := by
  have hClosed : ((lead ++ digits).getLast? == some '#') = false :=
    beq_false_of_ne (hDigits.isOpen lead)
  have hFinal : finalDigits (lead ++ digits) = digits := by
    have hAll : ∀ c ∈ digits.reverse, isDecimal c = true :=
      fun c hMember => hDigits.decimals c (List.mem_reverse.mp hMember)
    have hNone : lead.reverse.takeWhile isDecimal = [] := by
      rw [← List.head?_reverse] at hLead
      cases hReverse : lead.reverse with
      | nil => rfl
      | cons c rest =>
          rw [hReverse] at hLead
          have hFirst : isDecimal c = false := hLead
          rw [List.takeWhile, hFirst]
    rw [finalDigits, List.reverse_append,
      List.takeWhile_append_of_pos hAll, hNone, List.append_nil,
      List.reverse_reverse]
  have hBefore : (lead ++ digits).take
      ((lead ++ digits).length - digits.length) = lead := by
    simp
  have hSome : digits.isEmpty = false := by
    simpa using hDigits.some
  unfold extension?
  simp only [hClosed, Bool.false_eq_true, if_false, hFinal, hBefore,
    hSome, Bool.not_false, Bool.true_and]

/- An extension has as many digits as one introduction allows. -/
theorem isExtension_of_extension?
    {cs digits : List Char}
    (hDigits : extension? cs = some digits) :
    IsExtension digits ∧ digits.length ≤ 20 := by
  unfold extension? at hDigits
  rcases Option.ite_none_right_eq_some.mp hDigits with ⟨hFits, hEq⟩
  rw [← Option.some.inj hEq]
  rw [Bool.and_eq_true] at hFits
  rcases hFits with ⟨hSome, hAny⟩
  rcases List.any_eq_true.mp hAny with ⟨kind, -, hKind⟩
  simp only [Bool.and_eq_true, decide_eq_true_eq] at hKind
  have hMost : kind.mostDigits ≤ 20 := by
    cases kind <;> decide
  refine ⟨⟨by simpa using hSome, fun c hMember => ?_⟩, by omega⟩
  exact List.mem_takeWhile_imp (List.mem_reverse.mp hMember)

------------------------------------------------------------
-- Texts without announcement
------------------------------------------------------------

/- The characters of a number, less the blank. -/
def plainChars : List Char :=
  "+-()".toList ++ (List.range 10).map digitChar

theorem mem_plainChars_of_isDigit
    {c : Char}
    (hDigit : IsDigit c) :
    c ∈ plainChars := by
  rcases hDigit with ⟨hLow, hHigh⟩
  refine List.mem_append_right _ (List.mem_map.mpr
    ⟨c.toNat - 48, List.mem_range.mpr (by omega), ?_⟩)
  rw [digitChar, show 48 + (c.toNat - 48) = c.toNat by omega]
  exact Char.ofNat_toNat c

/- A text that goes on with a character of a number after blanks. -/
def Solid (cs : List Char) : Prop :=
  ∀ c ∈ (cs.dropWhile (· == ' ')).head?, c ∈ plainChars

theorem solid_cons_iff
    (c : Char)
    (rest : List Char) :
    Solid (c :: rest) ↔ (c = ' ' ∧ Solid rest) ∨ c ∈ plainChars := by
  by_cases hBlank : c = ' '
  · subst hBlank
    have hNot : ' ' ∉ plainChars := by decide
    simp [Solid, hNot]
  · simp [Solid, List.dropWhile, hBlank, beq_false_of_ne hBlank]

variable {cs lead tail : List Char}

/- What comes first in such a text comes first in a part of it. -/
theorem Solid.of_prefix
    (hSolid : Solid cs)
    (hStart : lead <+: cs) :
    Solid lead := by
  induction lead generalizing cs with
  | nil => exact nofun
  | cons c lead ih =>
      rcases hStart with ⟨rest, rfl⟩
      rw [List.cons_append, solid_cons_iff] at hSolid
      rw [solid_cons_iff]
      rcases hSolid with ⟨hBlank, hLater⟩ | hPlain
      · exact .inl ⟨hBlank, ih hLater ⟨rest, rfl⟩⟩
      · exact .inr hPlain

theorem solid_append
    (hChars : ∀ c ∈ cs, c = ' ' ∨ c ∈ plainChars)
    (hSome : ∃ c ∈ cs, c ≠ ' ')
    (tail : List Char) :
    Solid (cs ++ tail) := by
  induction cs with
  | nil =>
      rcases hSome with ⟨c, hMember, -⟩
      cases hMember
  | cons c rest ih =>
      rw [List.cons_append, solid_cons_iff]
      rcases hChars c (by simp) with rfl | hPlain
      · refine .inl ⟨rfl, ih (fun d hMember =>
          hChars d (by simp [hMember])) ?_⟩
        rcases hSome with ⟨d, hMember, hOther⟩
        exact ⟨d, (List.mem_cons.mp hMember).resolve_left hOther, hOther⟩
      · exact .inr hPlain

/- Blanks can be dropped together with other characters. -/
theorem Solid.head?_dropWhile
    (hSolid : Solid cs)
    {p : Char → Bool}
    (hBlank : p ' ' = true)
    (hPlain : ∀ c ∈ plainChars, p c = false) :
    ∀ c ∈ (cs.dropWhile p).head?, c ∈ plainChars := by
  induction cs with
  | nil => exact nofun
  | cons c rest ih =>
      rcases (solid_cons_iff c rest).mp hSolid with
        ⟨rfl, hLater⟩ | hFirst
      · rw [List.dropWhile, hBlank]
        exact ih hLater
      · rw [List.dropWhile, hPlain c hFirst]
        rintro d hHead
        cases hHead
        exact hFirst

/- Whether a label starts with no character of a number. -/
def isApart : List Char → Bool
  | [] => false
  | d :: _ => plainChars.all fun c => !sameLetter c d

/- Such a label is not found where a number goes on. -/
theorem afterLabel?_eq_none
    {label : List Char}
    (hApart : isApart label = true)
    (hHead : ∀ c ∈ cs.head?, c ∈ plainChars) :
    afterLabel? label cs = none := by
  cases label with
  | nil => cases hApart
  | cons d label =>
      cases cs with
      | nil => rfl
      | cons c rest =>
          have hOther : sameLetter c d = false := by
            simpa using List.all_eq_true.mp hApart c (hHead c rfl)
          rw [afterLabel?, hOther]
          rfl

theorem Solid.isLabelled_eq_false
    (hSolid : Solid cs)
    {labels : List String}
    (hApart : labels.all (isApart ·.toList) = true) :
    isLabelled labels cs = false := by
  have hHead :
      ∀ c ∈ (cs.dropWhile fun c => isGap c || c == ',').head?,
        c ∈ plainChars :=
    hSolid.head?_dropWhile (by decide) (by decide)
  unfold isLabelled
  rw [List.any_eq_false]
  intro label hLabel
  rw [afterLabel?_eq_none (List.all_eq_true.mp hApart label hLabel)
    hHead]
  exact Bool.false_ne_true

/- Such a text introduces an extension at most by its hyphens. -/
theorem Solid.covers_eq_false
    (hSolid : Solid cs)
    {kind : Introduction}
    (hKind : kind ≠ .hyphens) :
    kind.covers cs = false := by
  have hHead :
      ∀ c ∈ (cs.dropWhile isGap).head?, c ∈ plainChars :=
    hSolid.head?_dropWhile (by decide) (by decide)
  have hMarks : ',' ∉ plainChars ∧ ';' ∉ plainChars := by decide
  cases kind with
  | parameter =>
      have hNone :
          ∀ c ∈ ' ' :: plainChars, sameLetter c ';' = false := by
        decide
      cases cs with
      | nil => rfl
      | cons c rest =>
          have hFirst : c ∈ ' ' :: plainChars := by
            rcases (solid_cons_iff c rest).mp hSolid with
              ⟨rfl, -⟩ | hPlain
            · exact .head _
            · exact .tail _ hPlain
          change
            ((if sameLetter c ';' then afterLabel? "ext=".toList rest
              else none) == some []) = false
          rw [hNone c hFirst]
          rfl
  | word => exact hSolid.isLabelled_eq_false (by decide)
  | sign => exact hSolid.isLabelled_eq_false (by decide)
  | hyphens => exact (hKind rfl).elim
  | pause =>
      simp only [Introduction.covers]
      split <;> rename_i hEq
      · exact absurd (hHead ',' (by rw [hEq]; rfl)) hMarks.1
      · exact absurd (hHead ';' (by rw [hEq]; rfl)) hMarks.2
      · rfl
  | commas =>
      simp only [Introduction.covers]
      split <;> rename_i hEq
      · exact absurd (hHead ',' (by rw [hEq]; rfl)) hMarks.1
      · rfl

/- Such a text is no extension unless it is closed. -/
theorem Solid.extension?_eq_none
    (hSolid : Solid cs)
    (hOpen : cs.getLast? ≠ some '#') :
    extension? cs = none := by
  have hClosed : (cs.getLast? == some '#') = false :=
    beq_false_of_ne hOpen
  unfold extension?
  simp only [hClosed, Bool.false_eq_true, if_false,
    ite_eq_right_iff, reduceCtorEq, imp_false, Bool.and_eq_true,
    not_and, Bool.not_eq_true]
  intro _
  rw [List.any_eq_false]
  intro kind _
  by_cases hKind : kind = .hyphens
  · -- hyphens alone need a number sign at the end
    subst hKind
    simp [Introduction.allowsEnd]
  · have hLead := (hSolid.of_prefix (List.take_prefix
      (cs.length - (finalDigits cs).length) cs)).covers_eq_false hKind
    rw [hLead, Bool.and_false]
    exact Bool.false_ne_true

------------------------------------------------------------
-- Numbers before their extensions
------------------------------------------------------------

variable {ds : List Nat} {body digits : List Char}

/- No extension starts within the digits of a number. -/
theorem Spaced.solid_drop
    (hSpaced : Spaced ds body)
    (abroad : Bool)
    {count : Nat}
    (hInside : count < (signed abroad body).length)
    (tail : List Char) :
    Solid ((signed abroad body ++ tail).drop count) := by
  rw [List.drop_append_of_le_length (Nat.le_of_lt hInside)]
  refine solid_append (fun c hMember => ?_) ?_ tail
  · rcases mem_signed (List.mem_of_mem_drop hMember) with rfl | hBody
    · exact .inr (by decide)
    · have hMarks : ∀ c ∈ marks, c = ' ' ∨ c ∈ plainChars := by decide
      rcases hSpaced.chars c hBody with hDigit | hMark
      · exact .inr (mem_plainChars_of_isDigit hDigit)
      · exact hMarks c hMark
  · rcases hSpaced.getLast?_signed abroad with ⟨last, hLast, hDigit⟩
    refine ⟨last, List.mem_of_getLast? ?_, hDigit.ne (by decide)⟩
    rw [List.getLast?_drop, if_neg (Nat.not_le_of_lt hInside), hLast]

theorem splitExtension_of_none
    (hNone : ∀ count, extension? (cs.drop count) = none) :
    splitExtension cs = (cs, none) := by
  have hFound :
      ((List.range (cs.length + 1)).findSome? fun count =>
        (extension? (cs.drop count)).map (cs.take count, ·)) =
        none := by
    rw [List.findSome?_eq_none_iff]
    intro count _
    rw [hNone count]
    rfl
  simp only [splitExtension, hFound]

/- What is split from a number is an extension. -/
theorem isExtension_of_splitExtension
    {digits : List Char}
    (hSplit : (splitExtension cs).2 = some digits) :
    IsExtension digits ∧ digits.length ≤ 20 := by
  unfold splitExtension at hSplit
  dsimp only at hSplit
  split at hSplit
  · rename_i number found hFound
    split at hSplit
    · cases hSplit
      rcases List.exists_of_findSome?_eq_some hFound with
        ⟨count, -, hCount⟩
      rcases Option.map_eq_some_iff.mp hCount with
        ⟨digits, hDigits, hEq⟩
      cases hEq
      exact isExtension_of_extension? hDigits
    · cases hSplit
  · cases hSplit

/- A number by itself has no extension. -/
theorem splitExtension_signed
    (hSpaced : Spaced ds body)
    (abroad : Bool) :
    splitExtension (signed abroad body) = (signed abroad body, none) := by
  refine splitExtension_of_none fun count => ?_
  by_cases hInside : count < (signed abroad body).length
  · have hSolid := hSpaced.solid_drop abroad hInside []
    rw [List.append_nil] at hSolid
    refine hSolid.extension?_eq_none ?_
    rcases hSpaced.getLast?_signed abroad with ⟨last, hLast, hDigit⟩
    rw [List.getLast?_drop, if_neg (Nat.not_le_of_lt hInside), hLast]
    intro hMark
    exact hDigit.ne (by decide) (Option.some.inj hMark)
  · rw [List.drop_eq_nil_of_le (Nat.le_of_not_lt hInside)]
    rfl

/-
  The letter that may announce an extension does so for nine digits
  at most. More of them are digits of the number.
-/
theorem splitExtension_long
    (hSpaced : Spaced ds body)
    (abroad : Bool)
    (hDigits : IsExtension digits)
    (hLong : 9 < digits.length) :
    splitExtension (signed abroad body ++ (" x".toList ++ digits)) =
      (signed abroad body ++ (" x".toList ++ digits), none) := by
  have hMarked
      {lead : List Char}
      (hLead : lead = " x".toList ∨ lead = "x".toList) :
      extension? (lead ++ digits) = none := by
    have hSigns :
        lead.getLast?.any isDecimal = false ∧
          ∀ kind ∈ Introduction.all,
            kind.mostDigits ≤ 9 ∨ kind.covers lead = false := by
      rcases hLead with rfl | rfl <;> decide
    rw [extension?_append hSigns.1 hDigits, if_neg]
    rw [Bool.not_eq_true, List.any_eq_false]
    intro kind hKind
    rcases hSigns.2 kind hKind with hFew | hOther
    · have hMany : ¬ digits.length ≤ kind.mostDigits := by omega
      simp [hMany]
    · simp [hOther]
  refine splitExtension_of_none fun count => ?_
  by_cases hInside : count < (signed abroad body).length
  · refine (hSpaced.solid_drop abroad hInside _).extension?_eq_none ?_
    rw [List.drop_append_of_le_length (Nat.le_of_lt hInside),
      ← List.append_assoc]
    exact hDigits.isOpen _
  · rw [List.drop_append,
      List.drop_eq_nil_of_le (Nat.le_of_not_lt hInside), List.nil_append]
    -- From the mark on, or from its letter on, there are too many
    -- digits; without the letter nothing introduces them.
    match count - (signed abroad body).length with
    | 0 => exact hMarked (.inl rfl)
    | 1 => exact hMarked (.inr rfl)
    | later + 2 =>
        change extension? (digits.drop later) = none
        have hBare : ∀ kind, Introduction.covers kind [] = false := by
          intro kind
          cases kind <;> rfl
        by_cases hSome : digits.drop later = []
        · rw [hSome]
          rfl
        · have hRest : IsExtension (digits.drop later) :=
            ⟨hSome, fun c hMember =>
              hDigits.decimals c (List.mem_of_mem_drop hMember)⟩
          have hNone := @extension?_append [] _ rfl hRest
          simpa [hBare] using hNone

/-
  What may follow a number in a text: nothing, or an extension with
  its mark.
-/
inductive IsTail : List Char → Option (List Char) → Prop where
  | nothing : IsTail [] none
  | marked
      {lead digits : List Char}
      (hMark : ∀ c ∈ lead, c ∉ ";/\\".toList)
      (hDigits : IsExtension digits)
      (hFound : extension? (lead ++ digits) = some digits) :
      IsTail (lead ++ digits) (some digits)

namespace IsTail

variable {extension : Option (List Char)}

theorem not_mem
    (hTail : IsTail tail extension) :
    ∀ c ∈ ";/\\".toList, c ∉ tail := by
  intro c hMark hMember
  cases hTail with
  | nothing => cases hMember
  | marked hOther hDigits =>
      rcases List.mem_append.mp hMember with hLead | hDigit
      · exact hOther c hLead hMark
      · have hNone : ∀ c ∈ ";/\\".toList, isDecimal c = false := by
          decide
        have hDecimal := hDigits.decimals c hDigit
        rw [hNone c hMark] at hDecimal
        cases hDecimal

/- A number may end with what ends such a text. -/
theorem isNumberEnd_getLast
    (hTail : IsTail tail extension) :
    ∀ c ∈ tail.getLast?, isNumberEnd c = true := by
  cases hTail with
  | nothing => exact nofun
  | marked _ hDigits => exact hDigits.isNumberEnd_getLast _

/- What has three digits can be a number, also before an extension. -/
theorem isViable_append
    (hTail : IsTail tail extension)
    (hSpaced : Spaced ds body)
    (hLong : 3 ≤ ds.length)
    (abroad : Bool) :
    isViable (signed abroad body ++ tail) = true := by
  have hEnd : tail = [] ∨ (extension? tail).isSome = true := by
    cases hTail with
    | nothing => exact .inl rfl
    | marked _ _ hFound => exact .inr (by rw [hFound]; rfl)
  have hTaken : body.takeWhile isNumberChar = body :=
    List.takeWhile_eq_self_iff.mpr hSpaced.isNumberChar
  have hCount : body.countP isDecimal = ds.length := by
    rw [← hSpaced.values, List.length_filterMap_eq_countP]
    rfl
  have hBody : isNumberBody (signed abroad body) = true := by
    simp only [isNumberBody, hSpaced.dropWhile_signed, hTaken, hCount,
      Bool.and_eq_true, decide_eq_true_eq, List.all_eq_true]
    refine ⟨hLong, fun c hMember => ?_⟩
    rw [hSpaced.isNumberChar c hMember, Bool.true_or]
  rw [isViable, Bool.or_eq_true]
  refine .inr (List.any_eq_true.mpr
    ⟨(signed abroad body).length, ?_, ?_⟩)
  · rw [List.mem_range, List.length_append]
    omega
  · rw [List.take_left, List.drop_left, hBody, Bool.true_and,
      Bool.or_eq_true, List.isEmpty_iff]
    exact hEnd

/- An extension after a number is split from it. -/
theorem splitExtension_append
    (hTail : IsTail tail extension)
    (hSpaced : Spaced ds body)
    (hLong : 3 ≤ ds.length)
    (abroad : Bool) :
    splitExtension (signed abroad body ++ tail) =
      (signed abroad body, extension) := by
  cases hTail with
  | nothing =>
      rw [List.append_nil]
      exact splitExtension_signed hSpaced abroad
  | @marked lead digits _ hDigits hFound =>
      have hInside :
          ∀ count < (signed abroad body).length,
            extension?
                ((signed abroad body ++ (lead ++ digits)).drop count) =
              none := by
        intro count hCount
        refine (hSpaced.solid_drop abroad hCount _).extension?_eq_none ?_
        rw [List.drop_append_of_le_length (Nat.le_of_lt hCount),
          ← List.append_assoc]
        exact hDigits.isOpen _
      have hFirst :
          ((List.range ((signed abroad body ++ (lead ++ digits)).length +
              1)).findSome? fun count =>
            (extension?
              ((signed abroad body ++ (lead ++ digits)).drop count)).map
              ((signed abroad body ++ (lead ++ digits)).take count, ·)) =
            some (signed abroad body, digits) := by
        rw [List.length_append, Nat.add_assoc, List.range_add,
          List.findSome?_append, List.findSome?_eq_none_iff.mpr]
        · rw [List.range_succ_eq_map, List.map_cons,
            List.findSome?_cons, Nat.add_zero, List.drop_left,
            List.take_left, hFound]
          rfl
        · intro count hMember
          rw [hInside count (List.mem_range.mp hMember)]
          rfl
      have hViable := nothing.isViable_append hSpaced hLong abroad
      rw [List.append_nil] at hViable
      simp only [splitExtension, hFirst, hViable, if_true]

end IsTail

end Phone

end RecordRules
