import Mathlib.Tactic.SplitIfs
import RecordRules.Proofs.Edit.Outcome
import RecordRules.TextFormat

/-
  The parts of a text in a format, and its length.

  Main declarations:
    * `Text.truncated_of_pos`
    * `TextFormat.filling`, what fills a text up to a width, with
      `TextFormat.repeatsFiller_filling`
    * `TextFormat.eq_of_padded`, one filling on either side
    * `TextFormat.eq_of_apply`, all parts of a text
    * `TextFormat.parts_and_length_of_apply`
-/

namespace RecordRules

open Text

/- A text is cut to a length that is not zero. -/
theorem Text.truncated_of_pos
    {length : Int}
    (hSome : 0 < length)
    (cs : List Char) :
    truncated length cs = cs.take length.toNat := by
  rw [truncated, if_neg (Int.ne_of_gt hSome),
    if_neg (Int.not_lt.mpr (Int.le_of_lt hSome))]

namespace TextFormat

------------------------------------------------------------
-- Options that may be absent
------------------------------------------------------------

variable (format : TextFormat)

/- The affixes, of which an absent one is empty. -/
def leadText : List Char :=
  (format.lead.getD "").toList

def tailText : List Char :=
  (format.tail.getD "").toList

/- The text that gives the character to fill with. -/
def fillerText : List Char :=
  (format.padChar.getD "").toList

/- The widths, of which an absent one is zero. -/
def startWidth : Nat :=
  (format.padStart.getD 0).toNat

def endWidth : Nat :=
  (format.padEnd.getD 0).toNat

/- As many characters of a text as the format leaves. -/
def excerpt (base : List Char) : List Char :=
  match format.truncate with
  | none => base
  | some length => base.take length.toNat

/- The width that fillings bring a text of a given length to. -/
def filledLength (length : Nat) : Nat :=
  if format.fillerText = [] then
    length
  else
    max length (max format.startWidth format.endWidth)

theorem truncated_eq_excerpt
    (hTruncate : ∀ length ∈ format.truncate, 0 < length)
    (base : List Char) :
    truncated (format.truncate.getD 0) base = format.excerpt base := by
  unfold excerpt
  cases hLength : format.truncate with
  | none => rfl
  | some length => exact truncated_of_pos (hTruncate length hLength) base

------------------------------------------------------------
-- Fillings
------------------------------------------------------------

/- What brings a text of a given length up to a width. -/
def filling (width length : Nat) : List Char :=
  match format.fillerText with
  | [] => []
  | c :: _ => List.replicate (width - length) c

/- Characters that are all the first one of the filler. -/
def RepeatsFiller (cs : List Char) : Prop :=
  ∀ c ∈ cs, format.fillerText.head? = some c

theorem repeatsFiller_filling
    (width length : Nat) :
    format.RepeatsFiller (format.filling width length) := by
  intro c hMember
  unfold filling at hMember
  split at hMember
  · cases hMember
  · rename_i first rest hFiller
    rw [List.eq_of_mem_replicate hMember, hFiller, List.head?_cons]

theorem filling_of_no_filler
    (hNone : format.fillerText = [])
    (width length : Nat) :
    format.filling width length = [] := by
  rw [filling, hNone]

theorem length_filling
    (hSome : format.fillerText ≠ [])
    (width length : Nat) :
    (format.filling width length).length = width - length := by
  rcases List.exists_cons_of_ne_nil hSome with ⟨c, rest, hFiller⟩
  rw [filling, hFiller, List.length_replicate]

variable {format}

/-
  A text that has been filled has its filling put on. A filling is
  put on by `place`, and its length is the width less that of the
  text.
-/
theorem eq_of_padded
    (place : List Char → List Char → List Char)
    {pad : Int → Char → List Char → List Char}
    (hPad :
      ∀ width c cs,
        pad width c cs =
          place (List.replicate (width - cs.length).toNat c) cs)
    (hEmpty : ∀ cs, place [] cs = cs)
    {width : Option Int}
    {cs text : List Char}
    (hText : padded pad width format.padChar cs = .ok text) :
    text = place (format.filling (width.getD 0).toNat cs.length) cs := by
  unfold padded at hText
  unfold filling fillerText
  cases hFiller : (format.padChar.getD "").toList with
  | nil =>
      rw [hFiller] at hText
      cases width <;> cases hText <;> rw [hEmpty]
  | cons c rest =>
      rw [hFiller] at hText
      cases width with
      | none =>
          cases hText
          simp [hEmpty]
      | some width =>
          simp only at hText
          split_ifs at hText with hOutside
          cases hText
          have hCount :
              (width - cs.length).toNat = width.toNat - cs.length := by
            omega
          rw [hPad, hCount, Option.getD_some]

------------------------------------------------------------
-- Whole texts
------------------------------------------------------------

/- The text in a format, part by part. -/
theorem eq_of_apply
    {cs result : List Char}
    (hTruncate : ∀ length ∈ format.truncate, 0 < length)
    (hResult : format.apply cs = .ok result) :
    ∃ base, format.edited cs = .ok base ∧
      result =
        format.leadText ++
          format.filling format.startWidth (format.excerpt base).length ++
          format.excerpt base ++
          format.filling format.endWidth
            (format.filling format.startWidth
                (format.excerpt base).length ++
              format.excerpt base).length ++
          format.tailText := by
  rcases Failure.exists_of_bind hResult with ⟨base, hBase, hFilled⟩
  rcases Failure.exists_of_bind hFilled with ⟨left, hLeft, hRest⟩
  rcases Failure.exists_of_bind hRest with ⟨both, hBoth, hWhole⟩
  rw [format.truncated_eq_excerpt hTruncate] at hLeft
  have hStart :=
    eq_of_padded (fun fill text => fill ++ text) (fun _ _ _ => rfl)
      List.nil_append hLeft
  have hEnd :=
    eq_of_padded (fun fill text => text ++ fill) (fun _ _ _ => rfl)
      List.append_nil hBoth
  refine ⟨base, hBase, ?_⟩
  cases hWhole
  rw [hEnd, hStart]
  simp only [leadText, tailText, startWidth, endWidth,
    List.append_assoc]

/- The fillings bring a text to the larger of the two widths. -/
theorem length_filled
    (length : Nat) :
    (format.filling format.startWidth length).length + length +
        (format.filling format.endWidth
          ((format.filling format.startWidth length).length +
            length)).length =
      format.filledLength length := by
  unfold filledLength
  split_ifs with hNone
  · simp [format.filling_of_no_filler hNone]
  · rw [format.length_filling hNone, format.length_filling hNone]
    omega

/-
  A text in a format is what trimming, case and replacement give,
  cut to its length, between two fillings and the affixes. The
  fillings repeat the first character of the filler, and with one
  they bring the text to the larger width if it is shorter.
-/
theorem parts_and_length_of_apply
    {cs result : List Char}
    (hTruncate : ∀ length ∈ format.truncate, 0 < length)
    (hResult : format.apply cs = .ok result) :
    ∃ base left right,
      format.edited cs = .ok base ∧
      result =
        format.leadText ++ left ++ format.excerpt base ++ right ++
          format.tailText ∧
      format.RepeatsFiller left ∧
      format.RepeatsFiller right ∧
      result.length =
        format.leadText.length +
          format.filledLength (format.excerpt base).length +
          format.tailText.length := by
  rcases eq_of_apply hTruncate hResult with ⟨base, hBase, hParts⟩
  refine
    ⟨base, _, _, hBase, hParts, format.repeatsFiller_filling _ _,
      format.repeatsFiller_filling _ _, ?_⟩
  rw [← length_filled, hParts]
  simp only [List.length_append]
  omega

/- A greeting is trimmed, put in capitals, cut, filled and framed. -/
theorem greeting_is_cut_and_filled :
    let format : TextFormat :=
      { letterCase := some "upper", trim := true, padStart := some 5
        padEnd := some 7, padChar := some "*-", truncate := some 3
        lead := some "<", tail := some ">" }
    (∀ length ∈ format.truncate, 0 < length) ∧
      format.apply " hello ".toList = .ok "<**HEL**>".toList ∧
      format.edited " hello ".toList = .ok "HELLO".toList ∧
      "<**HEL**>".toList.length =
        format.leadText.length +
          format.filledLength (format.excerpt "HELLO".toList).length +
          format.tailText.length := by
  intro format
  have hTruncate : ∀ length ∈ format.truncate, 0 < length := by
    decide
  have hBase : format.edited " hello ".toList = .ok "HELLO".toList := by
    rfl
  have hLimit : widthLimit = 9223372036854775808 := by
    decide
  have hResult :
      format.apply " hello ".toList = .ok "<**HEL**>".toList := by
    simp only [apply, hBase, padded, hLimit, format]
    rfl
  rcases parts_and_length_of_apply hTruncate hResult with
    ⟨base, left, right, hEdited, -, -, -, hLength⟩
  rw [hBase] at hEdited
  cases hEdited
  exact ⟨hTruncate, hResult, hBase, hLength⟩

end TextFormat

end RecordRules
