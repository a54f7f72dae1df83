import Mathlib.Data.List.Chain
import Mathlib.Data.List.Forall2
import Mathlib.Data.List.Infix
import RecordRules.Text.Case

/-
  Texts that are seen at an end of a text in capitals.

  Main declarations:
    * `Text.upperChar_ne_nil`
    * `Text.NeverTogether`, two characters that are not in one capital
    * `Text.Spells`, characters whose capitals have those of a word
    * `Text.exists_of_prefix_upper` and `Text.exists_of_suffix_upper`,
      the characters that spell a word at an end of a text
-/

namespace RecordRules

namespace Text

------------------------------------------------------------
-- Capitals of several characters
------------------------------------------------------------

/- A capital is one character, or it is in the table. -/
theorem upperChar_cases
    (c : Char) :
    (∃ d, upperChar c = [d]) ∨
      ∃ entry ∈ upperWords, upperChar c = entry.2.map Char.ofNat := by
  unfold upperChar
  split
  · split
    · exact .inl ⟨_, rfl⟩
    · exact .inl ⟨_, rfl⟩
  · split
    · rename_i entry hFound
      exact .inr ⟨entry, Array.mem_of_find?_eq_some hFound, rfl⟩
    · split
      · exact .inl ⟨_, rfl⟩
      · exact .inl ⟨_, rfl⟩

theorem upperWords_ne_nil :
    ∀ entry ∈ upperWords.toList, entry.2 ≠ [] := by
  decide

theorem upperChar_ne_nil
    (c : Char) :
    upperChar c ≠ [] := by
  rcases upperChar_cases c with ⟨d, hOne⟩ | ⟨entry, hEntry, hSeveral⟩
  · rw [hOne]
    exact List.cons_ne_nil _ _
  · have hSome :=
      upperWords_ne_nil entry (Array.mem_toList_iff.mpr hEntry)
    rw [hSeveral, Ne, List.map_eq_nil_iff]
    exact hSome

/- Two characters that no capital has side by side. -/
def NeverTogether (a b : Char) : Prop :=
  ∀ c, ¬ [a, b] <:+: upperChar c

/- Only the table has capitals of several characters. -/
theorem neverTogether_of_words
    {a b : Char}
    (hWords :
      ∀ entry ∈ upperWords.toList,
        ¬ [a, b] <:+: entry.2.map Char.ofNat) :
    NeverTogether a b := by
  intro c hInfix
  rcases upperChar_cases c with ⟨d, hOne⟩ | ⟨entry, hEntry, hSeveral⟩
  · rw [hOne] at hInfix
    have hLength := hInfix.length_le
    simp at hLength
  · rw [hSeveral] at hInfix
    exact hWords entry (Array.mem_toList_iff.mpr hEntry) hInfix

------------------------------------------------------------
-- Images at the start of a text
------------------------------------------------------------

/-
  A text at the start of the images of characters, no two neighbours
  of which are in one image, comes from as many characters. The
  induction is on the text: what is left after one character starts
  the images of the others.
-/
theorem exists_of_prefix_flatMap
    {f : Char → List Char}
    (hSome : ∀ c, f c ≠ [])
    {word : List Char}
    (hChain : word.IsChain fun a b => ∀ c, ¬ [a, b] <:+: f c)
    {cs : List Char}
    (hStart : word <+: cs.flatMap f) :
    ∃ front rest, cs = front ++ rest ∧
      List.Forall₂ (fun a c => a ∈ f c) word front := by
  induction word generalizing cs with
  | nil => exact ⟨[], cs, rfl, .nil⟩
  | cons a word ih =>
      cases cs with
      | nil => exact absurd (List.prefix_nil.mp hStart) nofun
      | cons c cs =>
          rcases List.exists_cons_of_ne_nil (hSome c) with
            ⟨b, more, hImage⟩
          rw [List.flatMap_cons, hImage, List.cons_append,
            List.cons_prefix_cons] at hStart
          rcases hStart with ⟨rfl, hStart⟩
          have hMember : a ∈ f c := by simp [hImage]
          cases word with
          | nil => exact ⟨[c], cs, rfl, .cons hMember .nil⟩
          | cons b word =>
              rcases List.isChain_cons_cons.mp hChain with
                ⟨hApart, hRest⟩
              have hOne : more = [] := by
                cases more with
                | nil => rfl
                | cons d more =>
                    rw [List.cons_append, List.cons_prefix_cons]
                      at hStart
                    rcases hStart with ⟨rfl, -⟩
                    refine (hApart c ?_).elim
                    rw [hImage]
                    exact ⟨[], more, rfl⟩
              rw [hOne, List.nil_append] at hStart
              rcases ih hRest hStart with ⟨front, rest, rfl, hFront⟩
              exact ⟨c :: front, rest, rfl, .cons hMember hFront⟩

------------------------------------------------------------
-- Spellings of a word
------------------------------------------------------------

/- As many characters as a word has, each with one of its own. -/
def Spells (word cs : List Char) : Prop :=
  List.Forall₂ (fun a c => a ∈ upperChar c) word cs

section Words

variable {word cs : List Char}

theorem Spells.exists_of_mem
    (hSpells : Spells word cs)
    {c : Char}
    (hMember : c ∈ cs) :
    ∃ a ∈ word, a ∈ upperChar c := by
  induction hSpells with
  | nil => cases hMember
  | cons hFirst hRest ih =>
      rcases List.mem_cons.mp hMember with rfl | hLater
      · exact ⟨_, List.mem_cons_self, hFirst⟩
      · rcases ih hLater with ⟨a, hWord, hCapital⟩
        exact ⟨a, List.mem_cons_of_mem _ hWord, hCapital⟩

/- The last character has the last one of the word. -/
theorem Spells.exists_of_getLast?
    (hSpells : Spells word cs)
    {c : Char}
    (hLast : cs.getLast? = some c) :
    ∃ a, word.getLast? = some a ∧ a ∈ upperChar c := by
  rw [← List.head?_reverse] at hLast ⊢
  rcases List.head?_eq_some_iff.mp hLast with ⟨rest, hReverse⟩
  rw [Spells, ← List.forall₂_reverse_iff, hReverse,
    List.forall₂_cons_right_iff] at hSpells
  rcases hSpells with ⟨a, others, hCapital, -, hWord⟩
  exact ⟨a, by rw [hWord, List.head?_cons], hCapital⟩

/- What spells a word at the start of a text. -/
theorem exists_of_prefix_upper
    (hChain : word.IsChain NeverTogether)
    (hStart : word <+: upper cs) :
    ∃ front rest, cs = front ++ rest ∧ Spells word front :=
  exists_of_prefix_flatMap upperChar_ne_nil hChain hStart

/- What spells a word at the end of a text. -/
theorem exists_of_suffix_upper
    (hChain : word.IsChain NeverTogether)
    (hEnd : word <:+ upper cs) :
    ∃ rest back, cs = rest ++ back ∧ Spells word back := by
  -- the text is read from its end, with every capital reversed
  let f (c : Char) : List Char := (upperChar c).reverse
  have hSome (c : Char) : f c ≠ [] := by
    simpa [f] using upperChar_ne_nil c
  have hReversed :
      word.reverse.IsChain fun a b => ∀ c, ¬ [a, b] <:+: f c := by
    rw [List.isChain_reverse]
    refine hChain.imp fun a b hApart c hInfix => hApart c ?_
    rw [← List.reverse_infix]
    exact hInfix
  have hImages : cs.reverse.flatMap f = (upper cs).reverse := by
    rw [upper, List.reverse_flatMap]
    rfl
  have hStart : word.reverse <+: cs.reverse.flatMap f := by
    rw [hImages, List.reverse_prefix]
    exact hEnd
  rcases exists_of_prefix_flatMap hSome hReversed hStart with
    ⟨front, rest, hSplit, hFront⟩
  refine ⟨rest.reverse, front.reverse, ?_, ?_⟩
  · rw [← List.reverse_append, ← hSplit, List.reverse_reverse]
  · rw [Spells, ← List.forall₂_reverse_iff, List.reverse_reverse]
    exact hFront.imp fun a c hMember => by simpa [f] using hMember

end Words

end Text

end RecordRules
