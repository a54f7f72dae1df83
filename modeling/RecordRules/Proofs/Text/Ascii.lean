import Mathlib.Data.List.Basic
import Mathlib.Data.List.Infix
import Mathlib.Data.List.TakeWhile
import RecordRules.Numeric.Decimal
import RecordRules.Text.Case

/-
  ASCII texts: digits, letters, and their small forms.

  Main declarations:
    * `Text.IsAscii`, and `Text.lower_of_isAscii`
    * `Text.prefix_of_prefix_append`, what starts a text before a
      character, and `Text.suffix_of_suffix_append`
    * `Text.strip_of_ends`, a text without blanks at its ends, and
      `Text.exists_blanks_around`, any text
    * `Text.IsDigit`, and what the classes of characters say of it
    * `Text.IsNumeral`, one digit or more
    * `Text.StopsDigits`, and `Text.takeDigits_append`
    * `Text.natDigits_isNumeral`, `Text.paddedDigits_isNumeral`
    * `Text.numeralValue`, and `Text.numeralValue_paddedDigits`
-/

namespace RecordRules

namespace Text

open Numeric

------------------------------------------------------------
-- ASCII texts
------------------------------------------------------------

/-
  A condition on the characters of a text is decided along the text;
  there are too many characters to go through all of them.
-/
instance decidableForallMem
    (cs : List Char)
    (P : Char → Prop)
    [DecidablePred P] :
    Decidable (∀ c ∈ cs, P c) :=
  List.decidableBAll P cs

/- The same for a character that may be there. -/
instance decidableForallMemOption
    (first : Option Char)
    (P : Char → Prop)
    [DecidablePred P] :
    Decidable (∀ c ∈ first, P c) :=
  Option.decidableForallMem first

/- A text of ASCII characters. -/
def IsAscii (cs : List Char) : Prop :=
  ∀ c ∈ cs, c.toNat < 128

instance (cs : List Char) : Decidable (IsAscii cs) := by
  unfold IsAscii
  infer_instance

/-
  Most characters have small forms one by one: only the capital sigma
  and the dotted capital I do not.
-/
theorem lowerAfter_eq_map
    (before : List Char)
    {cs : List Char}
    (hPlain : ∀ c ∈ cs, c.toNat ≠ 0x3a3 ∧ c.toNat ≠ 0x130) :
    lowerAfter before cs = cs.map lowerChar := by
  induction cs generalizing before with
  | nil => rfl
  | cons c rest ih =>
      rw [List.forall_mem_cons] at hPlain
      rcases hPlain with ⟨⟨hSigma, hDotted⟩, hRest⟩
      simp [lowerAfter, hSigma, hDotted, ih (c :: before) hRest]

theorem lower_eq_map
    {cs : List Char}
    (hPlain : ∀ c ∈ cs, c.toNat ≠ 0x3a3 ∧ c.toNat ≠ 0x130) :
    lower cs = cs.map lowerChar :=
  lowerAfter_eq_map [] hPlain

/- ASCII characters have small forms one by one. -/
theorem lower_of_isAscii
    {cs : List Char}
    (hAscii : IsAscii cs) :
    lower cs = cs.map lowerChar := by
  refine lower_eq_map fun c hMember => ?_
  have hSmall := hAscii c hMember
  omega

------------------------------------------------------------
-- Starts and ends
------------------------------------------------------------

/- A start of a text that stops before a certain character. -/
theorem prefix_of_prefix_append
    {mark other rest : List Char}
    {c : Char}
    (hStart : mark <+: other ++ rest)
    (hHead : rest.head? = some c)
    (hApart : c ∉ mark) :
    mark <+: other := by
  rcases hStart with ⟨more, hEq⟩
  rcases List.append_eq_append_iff.mp hEq with
    ⟨between, hOther, -⟩ | ⟨between, hMark, hRest⟩
  · exact ⟨between, hOther.symm⟩
  · cases between with
    | nil =>
        rw [List.append_nil] at hMark
        exact hMark ▸ List.prefix_refl _
    | cons d between =>
        rw [hRest] at hHead
        cases hHead
        exact (hApart (by simp [hMark])).elim

/- An end of a text that stops after a certain character. -/
theorem suffix_of_suffix_append
    {mark rest other : List Char}
    {c : Char}
    (hEnd : mark <:+ rest ++ other)
    (hLast : rest.getLast? = some c)
    (hApart : c ∉ mark) :
    mark <:+ other := by
  have hReverse : mark.reverse <+: other.reverse ++ rest.reverse := by
    rw [← List.reverse_append, List.reverse_prefix]
    exact hEnd
  have hHead : rest.reverse.head? = some c := by
    rw [List.head?_reverse, hLast]
  rw [← List.reverse_prefix]
  exact prefix_of_prefix_append hReverse hHead
    (by rwa [List.mem_reverse])

------------------------------------------------------------
-- Blanks
------------------------------------------------------------

theorem dropWhile_of_head
    {cs : List Char}
    (hHead : ∀ c ∈ cs.head?, isBlank c = false) :
    cs.dropWhile isBlank = cs := by
  rcases cs with _ | ⟨c, rest⟩
  · rfl
  · have hFirst : isBlank c = false := hHead c rfl
    simp [List.dropWhile, hFirst]

/- A text that neither starts nor ends blank is left as it is. -/
theorem strip_of_ends
    {cs : List Char}
    (hHead : ∀ c ∈ cs.head?, isBlank c = false)
    (hLast : ∀ c ∈ cs.getLast?, isBlank c = false) :
    strip cs = cs := by
  have hReverse : ∀ c ∈ cs.reverse.head?, isBlank c = false := by
    rw [List.head?_reverse]
    exact hLast
  rw [strip, stripStart, dropWhile_of_head hHead, stripEnd,
    dropWhile_of_head hReverse, List.reverse_reverse]

/- A text is a stripped text with blanks around it. -/
theorem exists_blanks_around
    (cs : List Char) :
    ∃ lead tail, cs = lead ++ (strip cs ++ tail) ∧
      (∀ c ∈ lead, isBlank c = true) ∧ ∀ c ∈ tail, isBlank c = true := by
  let seen : List Char := cs.dropWhile isBlank
  refine
    ⟨cs.takeWhile isBlank, (seen.reverse.takeWhile isBlank).reverse,
      ?_, fun c hMember => List.mem_takeWhile_imp hMember,
      fun c hMember =>
        List.mem_takeWhile_imp (List.mem_reverse.mp hMember)⟩
  have hEnd :
      stripEnd seen ++ (seen.reverse.takeWhile isBlank).reverse =
        seen := by
    rw [stripEnd, ← List.reverse_append,
      List.takeWhile_append_dropWhile, List.reverse_reverse]
  rw [strip, stripStart, hEnd, List.takeWhile_append_dropWhile]

------------------------------------------------------------
-- Digits
------------------------------------------------------------

/- An ASCII digit. -/
def IsDigit (c : Char) : Prop :=
  48 ≤ c.toNat ∧ c.toNat ≤ 57

instance (c : Char) : Decidable (IsDigit c) := by
  unfold IsDigit
  infer_instance

namespace IsDigit

variable {c : Char}

theorem digitValue?_eq
    (hDigit : IsDigit c) :
    digitValue? c = some (c.toNat - 48) := by
  have hAscii : c.toNat < 128 := by
    have := hDigit.2
    omega
  simp [digitValue?, asciiDigit?, hAscii, hDigit.1, hDigit.2]

theorem isDecimal
    (hDigit : IsDigit c) :
    Text.isDecimal c = true := by
  rw [Text.isDecimal, hDigit.digitValue?_eq]
  rfl

theorem isDigitForm
    (hDigit : IsDigit c) :
    Text.isDigitForm c = true := by
  have hAscii : c.toNat < 128 := by
    have := hDigit.2
    omega
  simp [Text.isDigitForm, asciiDigit?, hAscii, hDigit.1, hDigit.2]

theorem isAsciiLetter
    (hDigit : IsDigit c) :
    Text.isAsciiLetter c = false := by
  rcases hDigit with ⟨hLow, hHigh⟩
  have hCapital : ¬ 65 ≤ c.toNat := by omega
  have hSmall : ¬ 97 ≤ c.toNat := by omega
  simp [Text.isAsciiLetter, hCapital, hSmall]

theorem isLetter
    (hDigit : IsDigit c) :
    Text.isLetter c = false := by
  have hAscii : c.toNat < 128 := by
    have := hDigit.2
    omega
  rw [Text.isLetter, if_pos hAscii, hDigit.isAsciiLetter]

theorem isBlank
    (hDigit : IsDigit c) :
    Text.isBlank c = false := by
  rcases hDigit with ⟨hLow, hHigh⟩
  simp only [Text.isBlank, Bool.or_eq_false_iff,
    Bool.and_eq_false_iff, decide_eq_false_iff_not,
    beq_eq_false_iff_ne]
  omega

theorem lowerChar_eq
    (hDigit : IsDigit c) :
    lowerChar c = c := by
  rcases hDigit with ⟨hLow, hHigh⟩
  have hAscii : c.toNat < 128 := by omega
  have hCapital : ¬ 65 ≤ c.toNat := by omega
  simp [lowerChar, hAscii, hCapital]

/- A digit is none of the other characters. -/
theorem ne
    (hDigit : IsDigit c)
    {d : Char}
    (hOther : ¬ IsDigit d) :
    c ≠ d := by
  intro hEq
  exact hOther (hEq ▸ hDigit)

end IsDigit

theorem asciiDigit?_lt_ten
    {c : Char}
    {d : Nat}
    (hValue : asciiDigit? c = some d) :
    d < 10 := by
  unfold asciiDigit? at hValue
  split at hValue
  · rename_i hRange
    cases hValue
    omega
  · cases hValue

/- A decimal digit of any script has a value below ten. -/
theorem digitValue?_lt_ten
    {c : Char}
    {d : Nat}
    (hValue : digitValue? c = some d) :
    d < 10 := by
  unfold digitValue? at hValue
  split at hValue
  · exact asciiDigit?_lt_ten hValue
  · rcases Option.map_eq_some_iff.mp hValue with
      ⟨start, hFound, hDistance⟩
    have hRun := Array.find?_some hFound
    simp only [Bool.and_eq_true, decide_eq_true_eq] at hRun
    omega

------------------------------------------------------------
-- Numerals
------------------------------------------------------------

/- One ASCII digit or more. -/
def IsNumeral (cs : List Char) : Prop :=
  cs ≠ [] ∧ ∀ c ∈ cs, IsDigit c

/- The number that a text of digits stands for. -/
def numeralValue (cs : List Char) : Nat :=
  digitsValue (cs.map fun c => c.toNat - 48)

/- A text that does not start with a digit of any script. -/
def StopsDigits (cs : List Char) : Prop :=
  ∀ c ∈ cs.head?, isDecimal c = false

/- Digits are taken up to a text that starts with none. -/
theorem takeDigits_append_of_isDecimal
    {digits rest : List Char}
    (hDigits : ∀ c ∈ digits, isDecimal c = true)
    (hStops : StopsDigits rest) :
    takeDigits (digits ++ rest) =
      (digits.filterMap digitValue?, rest) := by
  induction digits with
  | nil =>
      cases rest with
      | nil => rfl
      | cons c rest =>
          have hNone : digitValue? c = none := by
            simpa [isDecimal] using hStops c rfl
          simp [takeDigits, hNone]
  | cons c digits ih =>
      rw [List.forall_mem_cons] at hDigits
      rcases Option.isSome_iff_exists.mp hDigits.1 with ⟨d, hValue⟩
      simp [takeDigits, hValue, ih hDigits.2]

/- The values of ASCII digits are read off their characters. -/
theorem takeDigits_append
    {digits rest : List Char}
    (hDigits : ∀ c ∈ digits, IsDigit c)
    (hStops : StopsDigits rest) :
    takeDigits (digits ++ rest) =
      (digits.map fun c => c.toNat - 48, rest) := by
  have hValues (c : Char) (hMember : c ∈ digits) :
      digitValue? c = some (c.toNat - 48) :=
    (hDigits c hMember).digitValue?_eq
  rw [takeDigits_append_of_isDecimal
      (fun c hMember => (hDigits c hMember).isDecimal) hStops,
    List.filterMap_congr hValues, List.filterMap_eq_map']

theorem isDigit_of_mem_replicate
    {count : Nat}
    {c : Char}
    (hMember : c ∈ List.replicate count '0') :
    IsDigit c := by
  rw [(List.mem_replicate.mp hMember).2]
  decide

namespace IsNumeral

variable {cs : List Char}

theorem isAscii
    (hNumeral : IsNumeral cs) :
    IsAscii cs := by
  intro c hMember
  have := (hNumeral.2 c hMember).2
  omega

theorem lower_eq
    (hNumeral : IsNumeral cs) :
    lower cs = cs := by
  rw [lower_of_isAscii hNumeral.isAscii]
  have hSame : ∀ c ∈ cs, lowerChar c = id c := by
    intro c hMember
    exact (hNumeral.2 c hMember).lowerChar_eq
  rw [List.map_congr_left hSame, List.map_id]

theorem takeDigits_eq
    (hNumeral : IsNumeral cs) :
    takeDigits cs = (cs.map fun c => c.toNat - 48, []) := by
  have hStops : StopsDigits [] := nofun
  have hTaken := takeDigits_append hNumeral.2 hStops
  rwa [List.append_nil] at hTaken

theorem mapM_digitValue?
    (hNumeral : IsNumeral cs) :
    cs.mapM digitValue? = some (cs.map fun c => c.toNat - 48) := by
  have hDigits := hNumeral.2
  clear hNumeral
  induction cs with
  | nil => rfl
  | cons c rest ih =>
      have hFirst := (hDigits c (by simp)).digitValue?_eq
      have hRest := ih fun d hMember => hDigits d (by simp [hMember])
      simp [hFirst, hRest]

theorem take
    (hNumeral : IsNumeral cs)
    {count : Nat}
    (hSome : 0 < count) :
    IsNumeral (cs.take count) := by
  refine ⟨?_, fun c hMember =>
    hNumeral.2 c (List.mem_of_mem_take hMember)⟩
  rw [Ne, List.take_eq_nil_iff, not_or]
  exact ⟨Nat.ne_of_gt hSome, hNumeral.1⟩

/- Zeros on either side of digits. -/
theorem zeros_append
    (hNumeral : IsNumeral cs)
    (count : Nat) :
    IsNumeral (List.replicate count '0' ++ cs) := by
  refine ⟨by simp [hNumeral.1], fun c hMember => ?_⟩
  rcases List.mem_append.mp hMember with hZero | hDigit
  · exact isDigit_of_mem_replicate hZero
  · exact hNumeral.2 c hDigit

theorem append_zeros
    (hNumeral : IsNumeral cs)
    (count : Nat) :
    IsNumeral (cs ++ List.replicate count '0') := by
  refine ⟨by simp [hNumeral.1], fun c hMember => ?_⟩
  rcases List.mem_append.mp hMember with hDigit | hZero
  · exact hNumeral.2 c hDigit
  · exact isDigit_of_mem_replicate hZero

end IsNumeral

------------------------------------------------------------
-- Decimal texts of numbers
------------------------------------------------------------

theorem natDigits_isNumeral
    (n : Nat) :
    IsNumeral (natDigits n) := by
  refine ⟨Nat.toDigits_ne_nil, ?_⟩
  intro c hMember
  have hDigit : c.isDigit = true :=
    Nat.isDigit_of_mem_toDigits (by decide) (by decide) hMember
  exact Char.isDigit_iff_toNat.mp hDigit

theorem paddedDigits_isNumeral
    (width n : Nat) :
    IsNumeral (paddedDigits width n) :=
  (natDigits_isNumeral n).zeros_append _

theorem numeralValue_append_single
    (cs : List Char)
    (c : Char) :
    numeralValue (cs ++ [c]) =
      10 * numeralValue cs + (c.toNat - 48) := by
  simp [numeralValue, digitsValue, List.foldl_append]

theorem numeralValue_natDigits
    (n : Nat) :
    numeralValue (natDigits n) = n := by
  induction n using Nat.strongRecOn with
  | _ n ih =>
      rw [natDigits, Nat.toDigits_eq_if (by decide)]
      split
      · rename_i hSmall
        simp [numeralValue, digitsValue,
          Nat.toNat_digitChar_of_lt_ten hSmall]
      · rename_i hLarge
        have hDigit : n % 10 < 10 := by omega
        have hShorter := ih (n / 10) (by omega)
        rw [numeralValue_append_single,
          Nat.toNat_digitChar_of_lt_ten hDigit]
        rw [natDigits] at hShorter
        omega

theorem numeralValue_zeros_append
    (count : Nat)
    (cs : List Char) :
    numeralValue (List.replicate count '0' ++ cs) =
      numeralValue cs := by
  induction count with
  | zero => rfl
  | succ count ih =>
      simp only [numeralValue, digitsValue, List.replicate_succ,
        List.cons_append, List.map_cons, List.foldl_cons] at ih ⊢
      exact ih

/- Zeros after digits count as powers of ten. -/
theorem numeralValue_append_zeros
    (cs : List Char)
    (count : Nat) :
    numeralValue (cs ++ List.replicate count '0') =
      numeralValue cs * tenPow count := by
  induction count with
  | zero => simp
  | succ count ih =>
      rw [List.replicate_succ', ← List.append_assoc,
        numeralValue_append_single, ih, Nat.mul_comm 10, Nat.mul_assoc]
      rfl

/- Zeros in front do not change a number. -/
theorem numeralValue_paddedDigits
    (width n : Nat) :
    numeralValue (paddedDigits width n) = n := by
  rw [paddedDigits, numeralValue_zeros_append,
    numeralValue_natDigits]

end Text

end RecordRules
