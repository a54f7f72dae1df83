import RecordRules.Proofs.Amount.Grouping
import RecordRules.Proofs.Amount.Currency
import RecordRules.Proofs.Numeric.DecimalText
import RecordRules.Proofs.Numeric.NearestDecimal
import RecordRules.Proofs.Text.Capitals

/-
  The signs in the texts that are read as numbers.

  Main declarations:
    * `Amount.outerSigns`, the signs of a text outside its exponent
    * `Amount.outerSigns_splitCurrency` and
      `Amount.signsAfter_withoutMarks`, which steps of the reading
      keep them
    * `Amount.IsSignedTwice`
    * `Amount.signs_are_read_once_iff`
-/

namespace RecordRules

open Text Numeric

------------------------------------------------------------
-- Signs of numbers
------------------------------------------------------------

namespace Binary64

/- Whether a number has a minus, as negative zero has. -/
def hasMinus : Binary64 → Bool
  | nan => false
  | infinite negative => negative
  | finite negative .. => negative

theorem hasMinus_ofRatio
    (negative : Bool)
    (num den : Nat) :
    (ofRatio negative num den).hasMinus = negative := by
  unfold ofRatio
  split
  · rfl
  · dsimp only
    split <;> rfl

theorem hasMinus_neg
    {x : Binary64}
    (hFinite : x.isFinite = true) :
    (-x).hasMinus = !x.hasMinus := by
  cases x with
  | nan => cases hFinite
  | infinite negative => cases hFinite
  | finite negative mantissa exponent canonical => rfl

/- What has a minus is not positive. -/
theorem compareInt?_zero_of_hasMinus
    {x : Binary64}
    (hMinus : x.hasMinus = true) :
    x.compareInt? 0 ≠ some .gt := by
  cases x with
  | nan => exact nofun
  | infinite negative =>
      cases hMinus
      exact nofun
  | finite negative mantissa exponent canonical =>
      cases hMinus
      have hUnits : unitsOf true mantissa exponent ≤ 0 := by
        simp only [unitsOf, if_true]
        omega
      rw [compareInt?, compareUnits?, Int.zero_mul, Ne,
        Option.some.injEq, Int.compare_eq_gt]
      omega

end Binary64

theorem Decimal.hasMinus_toBinary64
    (d : Decimal) :
    d.toBinary64.hasMinus = d.negative := by
  unfold toBinary64
  dsimp only
  split
  · rfl
  · split
    · rfl
    · exact Binary64.hasMinus_ofRatio ..

namespace Amount

------------------------------------------------------------
-- Signs of texts
------------------------------------------------------------

/-
  The signs of a text but for those right behind the mark of an
  exponent, after a character that may be such a mark.
-/
def signsAfter (marked : Bool) : List Char → Nat
  | [] => 0
  | c :: rest =>
    (if isSign c && !marked then 1 else 0) +
      signsAfter (isExponentMark c) rest

/- The signs of a text outside its exponent, spaces aside. -/
def outerSigns (cs : List Char) : Nat :=
  signsAfter false (cs.filter (· != ' '))

/- A text without signs. -/
def IsUnsigned (cs : List Char) : Prop :=
  ∀ c ∈ cs, isSign c = false

/-
  A text that changes no signs behind it: it has no signs and no
  spaces, and does not end with an exponent mark.
-/
structure IsMute (cs : List Char) : Prop where
  unsigned : IsUnsigned cs
  solid : ' ' ∉ cs
  unmarked : ∀ c ∈ cs.getLast?, isExponentMark c = false

section Texts

variable {first second cs : List Char}

theorem signsAfter_of_isUnsigned
    (marked : Bool)
    (hUnsigned : IsUnsigned cs) :
    signsAfter marked cs = 0 := by
  induction cs generalizing marked with
  | nil => rfl
  | cons c rest ih =>
      rcases List.forall_mem_cons.mp hUnsigned with ⟨hFirst, hRest⟩
      rw [signsAfter, hFirst, ih _ hRest]
      rfl

/- A text without signs changes none before it. -/
theorem signsAfter_append
    (marked : Bool)
    (first : List Char)
    (hUnsigned : IsUnsigned second) :
    signsAfter marked (first ++ second) = signsAfter marked first := by
  induction first generalizing marked with
  | nil => exact signsAfter_of_isUnsigned marked hUnsigned
  | cons c rest ih => rw [List.cons_append, signsAfter, signsAfter, ih]

/- Of a text without signs the last character counts. -/
theorem signsAfter_unsigned_append
    (marked : Bool)
    (hUnsigned : IsUnsigned first)
    (second : List Char) :
    signsAfter marked (first ++ second) =
      signsAfter (first.getLast?.elim marked isExponentMark) second := by
  induction first generalizing marked with
  | nil => rfl
  | cons c rest ih =>
      rcases List.forall_mem_cons.mp hUnsigned with ⟨hFirst, hRest⟩
      rw [List.cons_append, signsAfter, hFirst, ih _ hRest,
        List.getLast?_cons]
      cases rest.getLast? <;> simp

theorem signsAfter_mute_append
    (hMute : IsMute first)
    (second : List Char) :
    signsAfter false (first ++ second) = signsAfter false second := by
  rw [signsAfter_unsigned_append false hMute.unsigned]
  cases hLast : first.getLast? with
  | none => rfl
  | some c => rw [Option.elim_some, hMute.unmarked c hLast]

/- Where there are no exponent marks, all signs count. -/
theorem signsAfter_unmarked_append
    (hUnmarked : ∀ c ∈ first, isExponentMark c = false)
    (second : List Char) :
    signsAfter false (first ++ second) =
      first.countP isSign + signsAfter false second := by
  induction first with
  | nil => simp
  | cons c rest ih =>
      rcases List.forall_mem_cons.mp hUnmarked with ⟨hFirst, hRest⟩
      rw [List.cons_append, signsAfter, hFirst, ih hRest,
        List.countP_cons]
      simp only [Bool.not_false, Bool.and_true]
      omega

/- Spaces are passed over. -/
theorem IsUnsigned.filter
    (hUnsigned : IsUnsigned cs)
    (keep : Char → Bool) :
    IsUnsigned (cs.filter keep) :=
  fun c hMember => hUnsigned c (List.mem_of_mem_filter hMember)

theorem outerSigns_append
    (first : List Char)
    (hUnsigned : IsUnsigned second) :
    outerSigns (first ++ second) = outerSigns first := by
  rw [outerSigns, List.filter_append,
    signsAfter_append false _ (hUnsigned.filter _), outerSigns]

theorem outerSigns_mute_append
    (hMute : IsMute first)
    (second : List Char) :
    outerSigns (first ++ second) = outerSigns second := by
  have hKept : first.filter (· != ' ') = first :=
    filter_of_not_mem hMute.solid
  rw [outerSigns, List.filter_append, hKept,
    signsAfter_mute_append hMute, outerSigns]

/- A minus counts, and what follows it is counted by itself. -/
theorem outerSigns_minus_cons
    (cs : List Char) :
    outerSigns ('-' :: cs) = outerSigns cs + 1 := by
  rw [outerSigns, outerSigns, Nat.add_comm]
  rfl

end Texts

------------------------------------------------------------
-- Blanks
------------------------------------------------------------

/- Blanks around a text are no signs. -/
theorem outerSigns_strip
    (cs : List Char) :
    outerSigns (strip cs) = outerSigns cs := by
  rcases exists_blanks_around cs with ⟨lead, tail, hSplit, hLead, hTail⟩
  have hMute : IsMute (lead.filter (· != ' ')) := by
    refine ⟨fun c hMember => ?_, fun hMember => ?_, fun c hLast => ?_⟩
    · exact not_isSign_of_isBlank
        (hLead c (List.mem_of_mem_filter hMember))
    · exact absurd (List.mem_filter.mp hMember).2 (by decide)
    · exact not_isExponentMark_of_isBlank
        (hLead c (List.mem_of_mem_filter (List.mem_of_getLast? hLast)))
  have hUnsigned : IsUnsigned tail :=
    fun c hMember => not_isSign_of_isBlank (hTail c hMember)
  have hWhole : outerSigns cs = outerSigns (strip cs ++ tail) := by
    conv_lhs => rw [hSplit]
    rw [outerSigns, List.filter_append, signsAfter_mute_append hMute,
      outerSigns]
  rw [hWhole, outerSigns_append _ hUnsigned]

------------------------------------------------------------
-- Currencies
------------------------------------------------------------

/- A mark at an end of a text, in the characters that are there. -/
structure IsSpelt (mark seen cs : List Char) : Prop where
  lead :
    mark <+: seen →
      ∃ front rest, cs = front ++ rest ∧ front.length = mark.length ∧
        IsMute front
  tail :
    mark <:+ seen →
      ∃ rest back, cs = rest ++ back ∧ back.length = mark.length ∧
        IsUnsigned back

variable {mark seen cs rest : List Char} {code : String}

/- A mark that is taken away takes no signs with it. -/
theorem outerSigns_of_withoutMark?
    (hSpelt : IsSpelt mark seen cs)
    (hFound : withoutMark? mark seen cs = some rest) :
    outerSigns rest = outerSigns cs := by
  unfold withoutMark? at hFound
  split at hFound
  · rename_i hStart
    rcases hSpelt.lead (List.isPrefixOf_iff_prefix.mp hStart) with
      ⟨front, others, rfl, hLength, hMute⟩
    rw [← Option.some.inj hFound, ← hLength, List.drop_left,
      outerSigns_strip, outerSigns_mute_append hMute]
  · split at hFound
    · rename_i hEnd
      rcases hSpelt.tail (List.isSuffixOf_iff_suffix.mp hEnd) with
        ⟨others, back, rfl, hLength, hUnsigned⟩
      rw [← Option.some.inj hFound, ← hLength, List.length_append,
        Nat.add_sub_cancel, List.take_left, outerSigns_strip,
        outerSigns_append _ hUnsigned]
    · cases hFound

theorem isMute_symbol :
    ∀ entry ∈ currencySymbols, IsMute entry.1.toList := by
  have hSymbols :
      ∀ entry ∈ currencySymbols,
        (∀ c ∈ entry.1.toList, isSign c = false) ∧
          ' ' ∉ entry.1.toList ∧
          ∀ c ∈ entry.1.toList.getLast?, isExponentMark c = false := by
    decide
  intro entry hEntry
  rcases hSymbols entry hEntry with ⟨hUnsigned, hSolid, hLast⟩
  exact ⟨hUnsigned, hSolid, hLast⟩

theorem outerSigns_of_splitSymbol?
    (hFound : splitSymbol? cs = some (code, rest)) :
    outerSigns rest = outerSigns cs := by
  rcases List.exists_of_findSome?_eq_some hFound with
    ⟨entry, hEntry, hMark⟩
  rcases Option.map_eq_some_iff.mp hMark with ⟨left, hLeft, hPair⟩
  cases hPair
  have hMute := isMute_symbol entry hEntry
  refine outerSigns_of_withoutMark? ⟨?_, ?_⟩ hLeft
  · rintro ⟨others, hSplit⟩
    exact ⟨entry.1.toList, others, hSplit.symm, rfl, hMute⟩
  · rintro ⟨others, hSplit⟩
    exact ⟨others, entry.1.toList, hSplit.symm, rfl, hMute.unsigned⟩

/- The letters of a code are not in one capital side by side. -/
theorem codes_isChain :
    ∀ code ∈ currencyCodes, code.toList.IsChain NeverTogether := by
  have hWords :
      ∀ code ∈ currencyCodes,
        code.toList.IsChain fun a b =>
          ∀ entry ∈ upperWords.toList,
            ¬ [a, b] <:+: entry.2.map Char.ofNat := by
    decide +kernel
  exact fun code hCode =>
    (hWords code hCode).imp fun a b => neverTogether_of_words

/- What spells a currency code, in letters of any case, is mute. -/
theorem isMute_of_spells
    {spelt : List Char}
    (hCode : code ∈ currencyCodes)
    (hSpells : Spells code.toList spelt) :
    IsMute spelt := by
  have hCodes :
      ∀ code ∈ currencyCodes,
        (∀ a ∈ code.toList, isSign a = false ∧ a ≠ ' ') ∧
          ∀ a ∈ code.toList.getLast?, a ≠ 'E' := by
    decide
  rcases hCodes code hCode with ⟨hLetters, hLast⟩
  have hOther
      {c : Char}
      (hSame : upperChar c = [c])
      (hMember : c ∈ spelt) :
      isSign c = false ∧ c ≠ ' ' := by
    rcases hSpells.exists_of_mem hMember with ⟨a, hWord, hCapital⟩
    rw [hSame, List.mem_singleton] at hCapital
    exact hCapital ▸ hLetters a hWord
  refine ⟨fun c hMember => ?_, ?_, fun c hEnd => ?_⟩
  · cases hSign : isSign c with
    | false => rfl
    | true =>
        have hSame : upperChar c = [c] := by
          rw [isSign, Bool.or_eq_true, beq_iff_eq, beq_iff_eq] at hSign
          rcases hSign with rfl | rfl <;> rfl
        rw [(hOther hSame hMember).1] at hSign
        cases hSign
  · exact fun hMember => (hOther rfl hMember).2 rfl
  · rcases hSpells.exists_of_getLast? hEnd with ⟨a, hWord, hCapital⟩
    cases hMark : isExponentMark c with
    | false => rfl
    | true =>
        have hSame : upperChar c = ['E'] := by
          rw [isExponentMark, Bool.or_eq_true, beq_iff_eq, beq_iff_eq]
            at hMark
          rcases hMark with rfl | rfl <;> rfl
        rw [hSame, List.mem_singleton] at hCapital
        exact (hLast a hWord hCapital).elim

theorem outerSigns_of_splitCode?
    (hFound : splitCode? cs = some (code, rest)) :
    outerSigns rest = outerSigns cs := by
  rcases List.exists_of_findSome?_eq_some hFound with
    ⟨found, hCode, hMark⟩
  rcases Option.map_eq_some_iff.mp hMark with ⟨left, hLeft, hPair⟩
  cases hPair
  have hChain := codes_isChain code hCode
  refine outerSigns_of_withoutMark? ⟨fun hStart => ?_, fun hEnd => ?_⟩
    hLeft
  · rcases exists_of_prefix_upper hChain hStart with
      ⟨front, others, hSplit, hSpells⟩
    exact
      ⟨front, others, hSplit, hSpells.length_eq.symm,
        isMute_of_spells hCode hSpells⟩
  · rcases exists_of_suffix_upper hChain hEnd with
      ⟨others, back, hSplit, hSpells⟩
    exact
      ⟨others, back, hSplit, hSpells.length_eq.symm,
        (isMute_of_spells hCode hSpells).unsigned⟩

/- The currency of a text has no signs. -/
theorem outerSigns_splitCurrency
    (cs : List Char) :
    outerSigns (splitCurrency cs).2 = outerSigns cs := by
  rw [← outerSigns_strip cs, splitCurrency]
  split
  · rename_i code rest hFound
    rcases Option.or_eq_some_iff.mp hFound with hSymbol | ⟨-, hCode⟩
    · exact outerSigns_of_splitSymbol? hSymbol
    · exact outerSigns_of_splitCode? hCode
  · rfl

------------------------------------------------------------
-- Groups and decimal marks
------------------------------------------------------------

/- A comma that goes has a digit before it, not an exponent mark. -/
theorem signsAfter_joinGroup
    (marked : Bool)
    (c : Char)
    (cs : List Char) :
    signsAfter marked (joinGroup c cs) = signsAfter marked (c :: cs) := by
  unfold joinGroup
  split
  · rename_i rest
    split
    · rename_i hGroup
      have hDigit := (Bool.and_eq_true_iff.mp hGroup).1
      have hComma : isSign ',' = false := rfl
      have hNext : isExponentMark ',' = false := rfl
      simp only [signsAfter, not_isExponentMark_of_isDecimal hDigit,
        hComma, hNext]
      simp
    · rfl
  · rfl

theorem signsAfter_ungroup
    (marked : Bool)
    (cs : List Char) :
    signsAfter marked (ungroup cs) = signsAfter marked cs := by
  induction cs generalizing marked with
  | nil => rfl
  | cons c rest ih =>
      have hRest (next : Bool) :
          signsAfter next (rest.foldr joinGroup []) =
            signsAfter next rest :=
        ih next
      rw [ungroup, List.foldr_cons, signsAfter_joinGroup, signsAfter,
        signsAfter, hRest]

/- Points and commas are no signs. -/
theorem countP_withDecimalPoint
    (cs : List Char) :
    (withDecimalPoint cs).countP isSign = cs.countP isSign := by
  have hMapped :
      (isSign ∘ fun c => if c == ',' then '.' else c) = isSign := by
    funext c
    by_cases hComma : c = ','
    · subst hComma
      rfl
    · simp [hComma]
  have hFiltered (c : Char) :
      (isSign c && c != '.') = isSign c := by
    by_cases hPoint : c = '.'
    · subst hPoint
      rfl
    · simp [hPoint]
  rw [withDecimalPoint, List.countP_map, hMapped, List.countP_filter]
  simp only [hFiltered]

/- Exponent marks are left when points are put for commas. -/
theorem mem_withDecimalPoint
    {c : Char}
    (hMark : isExponentMark c = true)
    (hMember : c ∈ cs) :
    c ∈ withDecimalPoint cs := by
  have hPoint : c ≠ '.' := by
    rintro rfl
    cases hMark
  have hComma : c ≠ ',' := by
    rintro rfl
    cases hMark
  rw [withDecimalPoint, List.mem_map]
  exact ⟨c, by simp [hMember, hPoint], by simp [hComma]⟩

/-
  What is read as a decimal has the signs of the text that its groups
  and points are taken from. A point that goes could leave a sign
  right behind an exponent mark, but then the decimal point that
  comes later would stand in the exponent.
-/
theorem signsAfter_withoutMarks
    {d : Decimal}
    (hRead : Decimal.read? (withoutMarks cs) = some d) :
    signsAfter false (withoutMarks cs) = signsAfter false cs := by
  unfold withoutMarks at hRead ⊢
  cases hComma : hasDecimalComma cs with
  | false =>
      simp only [Bool.false_eq_true, if_false]
      exact signsAfter_ungroup false cs
  | true =>
      rcases exists_of_hasDecimalComma hComma with
        ⟨first, second, rfl, hPoint, hOther⟩
      rw [hComma, if_pos rfl, withDecimalPoint_append hPoint hOther]
        at hRead
      have hMarks := Decimal.not_isExponentMark_of_read? hRead
      have hUnmarked : ∀ c ∈ first, isExponentMark c = false := by
        intro c hMember
        cases hMark : isExponentMark c with
        | false => rfl
        | true =>
            rw [hMarks c (mem_withDecimalPoint hMark hMember)] at hMark
            cases hMark
      rw [if_pos rfl, withDecimalPoint_append hPoint hOther,
        signsAfter_unmarked_append hMarks,
        signsAfter_unmarked_append hUnmarked, countP_withDecimalPoint]
      rfl

------------------------------------------------------------
-- Decimals
------------------------------------------------------------

/- Whether a text starts with a sign. -/
def startsSigned (cs : List Char) : Bool :=
  cs.head?.any isSign

theorem IsUnsigned.of_digits
    (hDigits : ∀ c ∈ cs, isDecimal c = true) :
    IsUnsigned cs :=
  fun c hMember => not_isSign_of_isDecimal (hDigits c hMember)

/- Only the sign of an exponent comes after its mark. -/
theorem signsAfter_of_isExponentText
    (hExponent : IsExponentText cs) :
    signsAfter false cs = 0 := by
  cases hExponent with
  | none => rfl
  | some mark rest hMark hDigits =>
      have hNone : isSign mark = false := by
        cases hSign : isSign mark with
        | false => rfl
        | true =>
            rw [not_isExponentMark_of_isSign hSign] at hMark
            cases hMark
      have hUnsigned := IsUnsigned.of_digits hDigits
      rw [signsAfter, hNone, hMark]
      rcases takeSign_cases rest with
        ⟨hTaken, -⟩ | ⟨c, more, rfl, -, hTaken⟩
      · rw [hTaken] at hUnsigned
        rw [signsAfter_of_isUnsigned true hUnsigned]
        rfl
      · rw [hTaken] at hUnsigned
        rw [signsAfter, signsAfter_of_isUnsigned _ hUnsigned,
          Bool.not_true, Bool.and_false]
        rfl

/-
  A decimal has one sign outside its exponent at most, which stands in
  front of it.
-/
theorem signsAfter_of_read?
    {d : Decimal}
    (hRead : Decimal.read? cs = some d) :
    signsAfter false cs = (startsSigned cs).toNat ∧
      d.negative = (cs.head? == some '-') := by
  rcases Decimal.exists_parts_of_read? hRead with
    ⟨hNegative, body, exponent, hSplit, hBody, hExponent⟩
  have hRest : signsAfter false (takeSign cs).2 = 0 := by
    have hNone : body.countP isSign = 0 :=
      List.countP_eq_zero.mpr fun c hMember => by
        simp [hBody.not_isSign c hMember]
    rw [hSplit, signsAfter_unmarked_append hBody.not_isExponentMark,
      hNone, signsAfter_of_isExponentText hExponent]
  rw [hNegative]
  rcases takeSign_cases cs with
    ⟨hTaken, hHead⟩ | ⟨c, rest, rfl, hSign, hTaken⟩
  · rw [hTaken] at hRest ⊢
    rw [hRest, startsSigned]
    cases cs with
    | nil => exact ⟨rfl, rfl⟩
    | cons c rest =>
        have hFirst : isSign c = false := hHead c rfl
        have hOther : c ≠ '-' := by
          rintro rfl
          cases hFirst
        refine ⟨?_, ?_⟩
        · rw [List.head?_cons, Option.any_some, hFirst]
          rfl
        · simpa using hOther
  · rw [hTaken] at hRest ⊢
    refine ⟨?_, rfl⟩
    rw [signsAfter, hSign, not_isExponentMark_of_isSign hSign, hRest,
      startsSigned, List.head?_cons, Option.any_some, hSign]
    rfl

------------------------------------------------------------
-- Readings
------------------------------------------------------------

section Readings

variable {x : Binary64}

/- A text without a minus in front of it all has one sign at most. -/
theorem signs_of_readUnsigned?
    (hRead : readUnsigned? cs = some x) :
    outerSigns cs = (startsSigned (plain cs)).toNat ∧
      x.isFinite = true ∧
      x.hasMinus = ((plain cs).head? == some '-') := by
  unfold readUnsigned? at hRead
  rcases Option.bind_eq_some_iff.mp hRead with ⟨d, hDecimal, hFinite⟩
  have hNumber : d.toBinary64.isFinite = true ∧ d.toBinary64 = x := by
    unfold finite? at hFinite
    split at hFinite
    · rename_i hKind
      exact ⟨hKind, Option.some.inj hFinite⟩
    · cases hFinite
  rcases hNumber with ⟨hKind, rfl⟩
  rcases signsAfter_of_read? hDecimal with ⟨hSigns, hMinus⟩
  refine ⟨?_, hKind, ?_⟩
  · rw [← hSigns, plain, signsAfter_withoutMarks hDecimal,
      ← outerSigns_splitCurrency cs, outerSigns]
  · rw [Decimal.hasMinus_toBinary64, hMinus]

/- What a minus in front of it all adds to the signs of a text. -/
theorem signs_of_read?
    (hRead : Amount.read? cs = some x) :
    (∃ rest, strip cs = '-' :: rest ∧
        outerSigns cs = (startsSigned (plain (strip rest))).toNat + 1 ∧
        x.hasMinus = !((plain (strip rest)).head? == some '-')) ∨
      ((strip cs).head? ≠ some '-' ∧ outerSigns cs ≤ 1) := by
  unfold Amount.read? at hRead
  split at hRead
  · cases hRead
  · rename_i rest hStrip
    rcases Option.map_eq_some_iff.mp hRead with ⟨y, hUnsigned, rfl⟩
    rcases signs_of_readUnsigned? hUnsigned with
      ⟨hSigns, hFinite, hMinus⟩
    refine .inl ⟨rest, hStrip, ?_, ?_⟩
    · rw [← outerSigns_strip cs, hStrip, outerSigns_minus_cons,
        ← outerSigns_strip rest, hSigns]
    · rw [Binary64.hasMinus_neg hFinite, hMinus]
  · rename_i text hNone hOther
    rcases signs_of_readUnsigned? hRead with ⟨hSigns, -, -⟩
    refine .inr ⟨?_, ?_⟩
    · intro hHead
      rcases List.head?_eq_some_iff.mp hHead with ⟨rest, hStrip⟩
      exact hOther rest hStrip
    · rw [← outerSigns_strip cs, hSigns]
      exact Bool.toNat_le _

/-
  A text with a minus in front of it all, and with a sign in front of
  the number that is behind it once the currency, the spaces and the
  marks are taken out.
-/
def IsSignedTwice (sign : Char) (cs : List Char) : Prop :=
  ∃ rest, strip cs = '-' :: rest ∧
    (plain (strip rest)).head? = some sign ∧ isSign sign = true

/-
  The signs of a text that is read as a number are read once, and one
  that starts with a minus is not positive, exactly if the text is not
  signed twice. A text that is signed twice has two signs outside its
  exponent, and the number gets a minus only if the second is a plus.
-/
theorem signs_are_read_once_iff
    {s : String}
    (hRead : parse (.text s) = .ok (some x)) :
    ((outerSigns s.toList ≤ 1 ∧
          ((strip s.toList).head? = some '-' →
            x.compareInt? 0 ≠ some .gt)) ↔
        ¬ ∃ sign, IsSignedTwice sign s.toList) ∧
      ∀ sign, IsSignedTwice sign s.toList →
        outerSigns s.toList = 2 ∧ x.hasMinus = (sign == '+') := by
  have hText : Amount.read? s.toList = some x := Except.ok.inj hRead
  have hTwice (sign : Char) (hSigned : IsSignedTwice sign s.toList) :
      outerSigns s.toList = 2 ∧ x.hasMinus = (sign == '+') := by
    rcases hSigned with ⟨rest, hStrip, hHead, hSign⟩
    rcases signs_of_read? hText with
      ⟨others, hSame, hSigns, hMinus⟩ | ⟨hNone, -⟩
    · rw [hStrip] at hSame
      cases hSame
      refine ⟨?_, ?_⟩
      · rw [hSigns, startsSigned, hHead, Option.any_some, hSign]
        rfl
      · rw [hMinus, hHead]
        rw [isSign, Bool.or_eq_true, beq_iff_eq, beq_iff_eq] at hSign
        rcases hSign with rfl | rfl <;> rfl
    · rw [hStrip] at hNone
      exact (hNone rfl).elim
  refine ⟨⟨?_, fun hOnce => ?_⟩, hTwice⟩
  · rintro ⟨hSigns, -⟩ ⟨sign, hSigned⟩
    rw [(hTwice sign hSigned).1] at hSigns
    omega
  · rcases signs_of_read? hText with
      ⟨rest, hStrip, hSigns, hMinus⟩ | ⟨hNone, hSigns⟩
    · have hOwn (c : Char) (hHead : (plain (strip rest)).head? = some c) :
          isSign c = false := by
        cases hSign : isSign c with
        | false => rfl
        | true => exact (hOnce ⟨c, rest, hStrip, hHead, hSign⟩).elim
      have hUnsigned : startsSigned (plain (strip rest)) = false := by
        rw [startsSigned]
        cases hHead : (plain (strip rest)).head? with
        | none => rfl
        | some c => exact hOwn c hHead
      have hNoMinus : (plain (strip rest)).head? ≠ some '-' :=
        fun hHead => absurd (hOwn '-' hHead) (by decide)
      refine ⟨?_, fun _ => ?_⟩
      · rw [hSigns, hUnsigned]
        rfl
      · refine Binary64.compareInt?_zero_of_hasMinus ?_
        rw [hMinus, beq_eq_false_iff_ne.mpr hNoMinus]
        rfl
    · exact ⟨hSigns, fun hHead => (hNone hHead).elim⟩

/-
  The text of two minuses and a digit is read as a positive number.
-/
theorem two_minuses_are_read :
    parse (.text "--5") = .ok (some (.ofInt 5)) ∧
      outerSigns "--5".toList = 2 ∧
      (strip "--5".toList).head? = some '-' ∧
      (Binary64.ofInt 5).compareInt? 0 = some .gt := by
  have hRead : parse (.text "--5") = .ok (some (.ofInt 5)) := by
    decide +kernel
  have hTwice : IsSignedTwice '-' "--5".toList :=
    ⟨['-', '5'], by decide +kernel, by decide +kernel, rfl⟩
  exact
    ⟨hRead, ((signs_are_read_once_iff hRead).2 '-' hTwice).1,
      by decide +kernel, by decide +kernel⟩

end Readings

end Amount

end RecordRules
