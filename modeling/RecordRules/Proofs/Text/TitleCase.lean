import RecordRules.Proofs.Text.Ascii
import RecordRules.Proofs.Text.SmallForms

/-
  Words of ASCII texts with a capital at their start.

  Main declarations:
    * `Text.capital`, and the forms of single ASCII characters
    * `Text.titledFrom`, a text read character by character, with
      `Text.toTitleCase_eq`
    * `Text.titledFrom_congr`, texts that are the same up to case
    * `Text.IsChunk` and `Text.IsTitled`
    * `Text.toTitleCase_of_isAscii`
-/

namespace RecordRules

namespace Text

------------------------------------------------------------
-- Single characters
------------------------------------------------------------

/- What holds of the first code points holds of ASCII characters. -/
theorem forall_ascii
    (P : Char → Prop)
    (hAll : ∀ n : Fin 128, P (Char.ofNat n))
    {c : Char}
    (hAscii : c.toNat < 128) :
    P c := by
  have hPoint := hAll ⟨c.toNat, hAscii⟩
  rwa [Char.ofNat_toNat] at hPoint

/- The capital of an ASCII character. -/
def capital (c : Char) : Char :=
  if 97 ≤ c.toNat ∧ c.toNat ≤ 122 then Char.ofNat (c.toNat - 32) else c

/- A capital letter of ASCII. -/
def IsCapital (c : Char) : Prop :=
  65 ≤ c.toNat ∧ c.toNat ≤ 90

instance (c : Char) : Decidable (IsCapital c) := by
  unfold IsCapital
  infer_instance

section Characters

variable {c : Char} (hAscii : c.toNat < 128)

include hAscii

theorem upperChar_eq_capital :
    upperChar c = [capital c] := by
  rw [upperChar, if_pos hAscii, capital]
  split <;> rfl

theorem lowerChar_isAscii :
    (lowerChar c).toNat < 128 :=
  forall_ascii (fun c => (lowerChar c).toNat < 128) (by decide) hAscii

theorem capital_isAscii :
    (capital c).toNat < 128 :=
  forall_ascii (fun c => (capital c).toNat < 128) (by decide) hAscii

theorem lowerChar_lowerChar :
    lowerChar (lowerChar c) = lowerChar c :=
  forall_ascii (fun c => lowerChar (lowerChar c) = lowerChar c)
    (by decide) hAscii

theorem lowerChar_capital :
    lowerChar (capital c) = lowerChar c :=
  forall_ascii (fun c => lowerChar (capital c) = lowerChar c)
    (by decide) hAscii

theorem capital_lowerChar :
    capital (lowerChar c) = capital c :=
  forall_ascii (fun c => capital (lowerChar c) = capital c)
    (by decide) hAscii

theorem isBlank_lowerChar :
    isBlank (lowerChar c) = isBlank c :=
  forall_ascii (fun c => isBlank (lowerChar c) = isBlank c)
    (by decide) hAscii

theorem isWordChar_lowerChar :
    isWordChar (lowerChar c) = isWordChar c :=
  forall_ascii (fun c => isWordChar (lowerChar c) = isWordChar c)
    (by decide) hAscii

/- Only word characters have two forms. -/
theorem forms_of_not_isWordChar
    (hOther : isWordChar c = false) :
    lowerChar c = c ∧ capital c = c :=
  forall_ascii
    (fun c => isWordChar c = false → lowerChar c = c ∧ capital c = c)
    (by decide) hAscii hOther

theorem isWordChar_of_isBlank
    (hBlank : isBlank c = true) :
    isWordChar c = false :=
  forall_ascii (fun c => isBlank c = true → isWordChar c = false)
    (by decide) hAscii hBlank

/- A character is a capital if it is the capital of a letter. -/
theorem isCapital_capital_iff :
    IsCapital (capital c) ↔ IsLatin (capital c) :=
  forall_ascii (fun c => IsCapital (capital c) ↔ IsLatin (capital c))
    (by decide) hAscii

theorem not_isCapital_lowerChar :
    ¬ IsCapital (lowerChar c) :=
  forall_ascii (fun c => ¬ IsCapital (lowerChar c)) (by decide) hAscii

end Characters

------------------------------------------------------------
-- Texts read character by character
------------------------------------------------------------

/-
  Whether a word goes on after a character: it starts at a word
  character and ends before a blank.
-/
def goesOn (inWord : Bool) (c : Char) : Bool :=
  !isBlank c && (inWord || isWordChar c)

/- The form of a character in a word, or outside of one. -/
def titledChar (inWord : Bool) (c : Char) : Char :=
  if inWord then lowerChar c else capital c

/- A text with capitals, from inside of a word or from outside. -/
def titledFrom (inWord : Bool) : List Char → List Char
  | [] => []
  | c :: rest => titledChar inWord c :: titledFrom (goesOn inWord c) rest

theorem length_titledFrom
    (inWord : Bool)
    (cs : List Char) :
    (titledFrom inWord cs).length = cs.length := by
  induction cs generalizing inWord with
  | nil => rfl
  | cons c rest ih =>
      rw [titledFrom, List.length_cons, ih, List.length_cons]

theorem titledFrom_append
    (inWord : Bool)
    (front back : List Char) :
    titledFrom inWord (front ++ back) =
      titledFrom inWord front ++
        titledFrom (front.foldl goesOn inWord) back := by
  induction front generalizing inWord with
  | nil => rfl
  | cons c front ih =>
      rw [List.cons_append, titledFrom, ih, titledFrom,
        List.cons_append, List.foldl_cons]

/- No word goes on after a blank. -/
theorem foldl_goesOn_of_getLast?
    {front : List Char}
    (hLast : ∀ c ∈ front.getLast?, isBlank c = true) :
    front.foldl goesOn false = false := by
  rcases List.eq_nil_or_concat' front with rfl | ⟨before, c, rfl⟩
  · rfl
  · have hBlank : isBlank c = true := hLast c (by simp)
    rw [List.foldl_concat, goesOn, hBlank]
    rfl

section Forms

variable {cs : List Char} (hAscii : IsAscii cs)

include hAscii

theorem upper_of_isAscii :
    upper cs = cs.map capital := by
  rw [upper, ← List.flatMap_pure_eq_map]
  refine List.flatMap_congr fun c hMember => ?_
  exact upperChar_eq_capital (hAscii c hMember)

/- A text in another case is still one of ASCII. -/
theorem map_isAscii
    {f : Char → Char}
    (hForm : ∀ {c : Char}, c.toNat < 128 → (f c).toNat < 128) :
    IsAscii (cs.map f) := by
  intro d hMember
  rcases List.mem_map.mp hMember with ⟨c, hSource, rfl⟩
  exact hForm (hAscii c hSource)

theorem titledFrom_isAscii
    (inWord : Bool) :
    IsAscii (titledFrom inWord cs) := by
  induction cs generalizing inWord with
  | nil => exact hAscii
  | cons c rest ih =>
      rw [IsAscii, List.forall_mem_cons] at hAscii
      rw [titledFrom, IsAscii, List.forall_mem_cons]
      refine ⟨?_, ih hAscii.2 _⟩
      cases inWord with
      | true => exact lowerChar_isAscii hAscii.1
      | false => exact capital_isAscii hAscii.1

/- Only the case of letters changes. -/
theorem map_lowerChar_titledFrom
    (inWord : Bool) :
    (titledFrom inWord cs).map lowerChar = cs.map lowerChar := by
  induction cs generalizing inWord with
  | nil => rfl
  | cons c rest ih =>
      rw [IsAscii, List.forall_mem_cons] at hAscii
      rw [titledFrom, List.map_cons, ih hAscii.2, List.map_cons]
      cases inWord with
      | true => rw [titledChar, if_pos rfl, lowerChar_lowerChar hAscii.1]
      | false =>
          rw [titledChar, if_neg Bool.false_ne_true,
            lowerChar_capital hAscii.1]

/- The case of a text does not matter. -/
theorem titledFrom_map_lowerChar
    (inWord : Bool) :
    titledFrom inWord (cs.map lowerChar) = titledFrom inWord cs := by
  induction cs generalizing inWord with
  | nil => rfl
  | cons c rest ih =>
      rw [IsAscii, List.forall_mem_cons] at hAscii
      have hForm :
          titledChar inWord (lowerChar c) = titledChar inWord c := by
        cases inWord with
        | true => exact lowerChar_lowerChar hAscii.1
        | false => exact capital_lowerChar hAscii.1
      have hState : goesOn inWord (lowerChar c) = goesOn inWord c := by
        rw [goesOn, isBlank_lowerChar hAscii.1,
          isWordChar_lowerChar hAscii.1, goesOn]
      rw [List.map_cons, titledFrom, hForm, hState, ih hAscii.2,
        titledFrom]

theorem titledFrom_congr
    {ds : List Char}
    (hOther : IsAscii ds)
    (hSame : ds.map lowerChar = cs.map lowerChar)
    (inWord : Bool) :
    titledFrom inWord ds = titledFrom inWord cs := by
  rw [← titledFrom_map_lowerChar hOther, hSame,
    titledFrom_map_lowerChar hAscii]

/- The rest of a word is in small letters up to the next blank. -/
theorem titledFrom_true :
    titledFrom true cs =
      (cs.takeWhile (!isBlank ·)).map lowerChar ++
        titledFrom false (cs.dropWhile (!isBlank ·)) := by
  induction cs with
  | nil => rfl
  | cons c rest ih =>
      rw [IsAscii, List.forall_mem_cons] at hAscii
      cases hBlank : isBlank c with
      | true =>
          have hForms :=
            forms_of_not_isWordChar hAscii.1
              (isWordChar_of_isBlank hAscii.1 hBlank)
          simp [titledFrom, titledChar, goesOn, hBlank, hForms]
      | false =>
          simp [titledFrom, titledChar, goesOn, hBlank, ih hAscii.2]

/- Words with a capital come from reading character by character. -/
theorem toTitleCase_eq :
    toTitleCase cs = titledFrom false cs := by
  induction cs using toTitleCase.induct with
  | case1 => rw [toTitleCase, titledFrom]
  | case2 c rest hWord ih =>
      rw [IsAscii, List.forall_mem_cons] at hAscii
      have hTaken : IsAscii (rest.takeWhile (!isBlank ·)) :=
        fun d hMember =>
          hAscii.2 d ((List.takeWhile_prefix _).subset hMember)
      have hDropped : IsAscii (rest.dropWhile (!isBlank ·)) :=
        fun d hMember =>
          hAscii.2 d ((List.dropWhile_suffix _).subset hMember)
      have hSolid : isBlank c = false := by
        cases hBlank : isBlank c with
        | false => rfl
        | true =>
            rw [isWordChar_of_isBlank hAscii.1 hBlank] at hWord
            cases hWord
      rw [toTitleCase, if_pos hWord, upperChar_eq_capital hAscii.1,
        lower_of_isAscii hTaken, ih hDropped, titledFrom, goesOn, hWord,
        hSolid, List.append_assoc, ← titledFrom_true hAscii.2]
      rfl
  | case3 c rest hOther ih =>
      rw [IsAscii, List.forall_mem_cons] at hAscii
      rw [Bool.not_eq_true] at hOther
      have hForms := forms_of_not_isWordChar hAscii.1 hOther
      rw [toTitleCase, hOther, if_neg Bool.false_ne_true, ih hAscii.2,
        titledFrom, goesOn, hOther, titledChar,
        if_neg Bool.false_ne_true, hForms.2, Bool.or_false,
        Bool.and_false]

end Forms

------------------------------------------------------------
-- Chunks between blanks
------------------------------------------------------------

/- A stretch of a text from one blank, or an end, to the next. -/
structure IsChunk (cs front chunk back : List Char) : Prop where
  whole : cs = front ++ (chunk ++ back)
  solid : ∀ c ∈ chunk, isBlank c = false
  before : ∀ c ∈ front.getLast?, isBlank c = true
  after : ∀ c ∈ back.head?, isBlank c = true

/-
  A chunk whose one capital, if any, is its first word character:
  that is a capital if it is a letter, and nothing else is.
-/
def IsTitled (chunk : List Char) : Prop :=
  ∀ before c after, chunk = before ++ c :: after →
    (IsCapital c ↔ IsLatin c ∧ ∀ d ∈ before, isWordChar d = false)

/- Without blanks all that follows in a word is in small letters. -/
theorem titledFrom_true_of_solid
    {cs : List Char}
    (hAscii : IsAscii cs)
    (hSolid : ∀ c ∈ cs, isBlank c = false) :
    titledFrom true cs = cs.map lowerChar := by
  have hAll : ∀ c ∈ cs, (!isBlank c) = true := by
    simpa using hSolid
  rw [titledFrom_true hAscii, List.takeWhile_eq_self_iff.mpr hAll,
    List.dropWhile_eq_nil_iff.mpr hAll, titledFrom, List.append_nil]

/-
  A chunk that is left as it is has its capital at its start. The
  induction is on the chunk as long as no word character has come;
  after the first one all characters are small.
-/
theorem isTitled_of_titledFrom_eq
    {chunk : List Char}
    (hAscii : IsAscii chunk)
    (hSolid : ∀ c ∈ chunk, isBlank c = false)
    (hKept : titledFrom false chunk = chunk) :
    IsTitled chunk := by
  induction chunk with
  | nil =>
      intro before c after hSplit
      simp at hSplit
  | cons c rest ih =>
      rw [IsAscii, List.forall_mem_cons] at hAscii
      rw [List.forall_mem_cons] at hSolid
      rw [titledFrom, List.cons.injEq] at hKept
      rcases hKept with ⟨hFirst, hRest⟩
      have hCapital : capital c = c := hFirst
      intro before d after hSplit
      cases before with
      | nil =>
          cases hSplit
          have hHere := isCapital_capital_iff hAscii.1
          rw [hCapital] at hHere
          simpa using hHere
      | cons first before =>
          rw [List.cons_append, List.cons.injEq] at hSplit
          rcases hSplit with ⟨rfl, hLater⟩
          rw [List.forall_mem_cons]
          cases hWord : isWordChar c with
          | false =>
              have hOutside : titledFrom false rest = rest := by
                simpa [goesOn, hWord] using hRest
              have hInner :=
                ih hAscii.2 hSolid.2 hOutside before d after hLater
              simpa using hInner
          | true =>
              have hSmall : titledFrom true rest = rest := by
                simpa [goesOn, hWord, hSolid.1] using hRest
              rw [titledFrom_true_of_solid hAscii.2 hSolid.2] at hSmall
              have hMember : d ∈ rest.map lowerChar := by
                rw [hSmall, hLater]
                simp
              rcases List.mem_map.mp hMember with ⟨e, hSource, rfl⟩
              have hNot := not_isCapital_lowerChar (hAscii.2 e hSource)
              simpa using hNot

/- In title case every chunk has its capital at its start. -/
theorem isTitled_of_isChunk
    {cs front chunk back : List Char}
    (hAscii : IsAscii cs)
    (hKept : titledFrom false cs = cs)
    (hChunk : IsChunk cs front chunk back) :
    IsTitled chunk := by
  have hWhole := hChunk.whole
  have hOwn : IsAscii chunk := fun c hMember =>
    hAscii c (by simp [hWhole, hMember])
  refine isTitled_of_titledFrom_eq hOwn hChunk.solid ?_
  rw [hWhole, titledFrom_append,
    foldl_goesOn_of_getLast? hChunk.before, titledFrom_append] at hKept
  have hRest :=
    (List.append_inj hKept (length_titledFrom false front)).2
  exact (List.append_inj hRest (length_titledFrom false chunk)).1

------------------------------------------------------------
-- Title case
------------------------------------------------------------

/-
  Title case of an ASCII text changes the case of letters only, and
  depends on nothing but the text up to case; so it is repeated
  without effect. Every chunk of the result has a capital at its
  first word character, if that is a letter, and nowhere else.
-/
theorem toTitleCase_of_isAscii
    {cs : List Char}
    (hAscii : IsAscii cs) :
    (toTitleCase cs).length = cs.length ∧
    lower (toTitleCase cs) = lower cs ∧
    toTitleCase (toTitleCase cs) = toTitleCase cs ∧
    toTitleCase (upper cs) = toTitleCase cs ∧
    toTitleCase (lower cs) = toTitleCase cs ∧
    ∀ front chunk back,
      IsChunk (toTitleCase cs) front chunk back → IsTitled chunk := by
  have hTitled := titledFrom_isAscii hAscii false
  have hCase := map_lowerChar_titledFrom hAscii false
  have hAgain :
      titledFrom false (titledFrom false cs) = titledFrom false cs :=
    titledFrom_congr hAscii hTitled hCase false
  have hUpper : IsAscii (cs.map capital) :=
    map_isAscii hAscii capital_isAscii
  have hLower : IsAscii (cs.map lowerChar) :=
    map_isAscii hAscii lowerChar_isAscii
  have hSame : (cs.map capital).map lowerChar = cs.map lowerChar := by
    rw [List.map_map]
    refine List.map_congr_left fun c hMember => ?_
    exact lowerChar_capital (hAscii c hMember)
  rw [toTitleCase_eq hAscii, toTitleCase_eq hTitled,
    upper_of_isAscii hAscii, toTitleCase_eq hUpper,
    lower_of_isAscii hAscii, toTitleCase_eq hLower,
    lower_of_isAscii hTitled]
  refine
    ⟨length_titledFrom false cs, hCase, hAgain,
      titledFrom_congr hAscii hUpper hSame false,
      titledFrom_map_lowerChar hAscii false, ?_⟩
  intro front chunk back hChunk
  exact isTitled_of_isChunk hTitled hAgain hChunk

/- A name in brackets, and a word that starts with a digit. -/
theorem bracketed_name_is_titled :
    IsAscii "(mcDONALD) 3RD".toList ∧
      toTitleCase "(mcDONALD) 3RD".toList = "(Mcdonald) 3rd".toList ∧
      toTitleCase "(Mcdonald) 3rd".toList = "(Mcdonald) 3rd".toList ∧
      IsChunk "(Mcdonald) 3rd".toList [] "(Mcdonald)".toList
        " 3rd".toList ∧
      IsTitled "(Mcdonald)".toList := by
  have hAscii : IsAscii "(mcDONALD) 3RD".toList := by
    decide
  have hResult :
      toTitleCase "(mcDONALD) 3RD".toList = "(Mcdonald) 3rd".toList := by
    rw [toTitleCase_eq hAscii]
    decide
  have hChunk :
      IsChunk "(Mcdonald) 3rd".toList [] "(Mcdonald)".toList
        " 3rd".toList :=
    ⟨by decide, by decide, by decide, by decide⟩
  rcases toTitleCase_of_isAscii hAscii with
    ⟨-, -, hAgain, -, -, hChunks⟩
  rw [hResult] at hAgain hChunks
  exact ⟨hAscii, hResult, hAgain, hChunk, hChunks _ _ _ hChunk⟩

end Text

end RecordRules
