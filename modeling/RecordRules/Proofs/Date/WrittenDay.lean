import RecordRules.Proofs.Date.Writing

/-
  Days in a format as writings.

  Main declarations:
    * `Date.Component.piece`, a part of a day as a piece
    * `Date.Layout.properties_of_ofFormat?`
    * `Date.isoWriting` and `Date.outline`
    * `Date.exists_writing_of_format`, a day in any format
    * `Date.readBack?`, `Date.parse_of_format` and
      `Date.resolveValue_of_format`
-/

namespace RecordRules

open Text Numeric

------------------------------------------------------------
-- Bounds
------------------------------------------------------------

theorem Calendar.monthLength_le
    (year month : Nat) :
    monthLength year month ≤ 31 := by
  unfold monthLength
  split <;> try split
  all_goals omega

theorem Day.day_le
    (d : Day) :
    d.day ≤ 31 :=
  Nat.le_trans d.valid.2.2.2.2.2
    (Calendar.monthLength_le d.year d.month)

theorem Day.month_bounds
    (d : Day) :
    1 ≤ d.month ∧ d.month ≤ 12 :=
  ⟨d.valid.2.2.1, d.valid.2.2.2.1⟩

theorem Day.of?_self
    (d : Day) :
    Day.of? d.year d.month d.day = some d := by
  rw [Day.of?, dif_pos d.valid]

namespace Text

theorem length_natDigits_le
    {n k : Nat}
    (hSome : 0 < k)
    (hSmall : n < tenPow k) :
    (natDigits n).length ≤ k :=
  (Nat.length_toDigits_le_iff (by decide) hSome).mpr hSmall

theorem length_paddedDigits
    {n k : Nat}
    (hSome : 0 < k)
    (hSmall : n < tenPow k) :
    (paddedDigits k n).length = k := by
  have hDigits := length_natDigits_le hSome hSmall
  simp only [paddedDigits, List.length_append,
    List.length_replicate]
  omega

end Text

namespace Date

------------------------------------------------------------
-- Parts of a day as pieces
------------------------------------------------------------

/- A number as a piece. -/
def Piece.plain
    (n : Nat)
    (hSmall : n < tenPow 4) : Piece :=
  .numeral (natDigits n) (natDigits_isNumeral n)
    (length_natDigits_le (by decide) hSmall)

/- A number with a given count of digits as a piece. -/
def Piece.padded
    (width n : Nat)
    (hSome : 0 < width)
    (hWidth : width ≤ 4)
    (hSmall : n < tenPow width) : Piece :=
  .numeral (paddedDigits width n) (paddedDigits_isNumeral width n)
    ((length_paddedDigits hSome hSmall).symm ▸ hWidth)

theorem year_lt
    (d : Day) :
    d.year < tenPow 4 :=
  Nat.lt_of_le_of_lt d.valid.2.1 (by decide)

theorem month_lt
    (d : Day) :
    d.month < tenPow 2 :=
  Nat.lt_of_le_of_lt d.month_bounds.2 (by decide)

theorem day_lt
    (d : Day) :
    d.day < tenPow 2 :=
  Nat.lt_of_le_of_lt d.day_le (by decide)

/- The last two digits of a year, or its only one. -/
def Piece.lastTwo
    (n : Nat) : Piece :=
  .numeral ((natDigits n).drop ((natDigits n).length - 2))
    (by
      have hDigits := natDigits_isNumeral n
      have hLength : 0 < (natDigits n).length :=
        List.length_pos_iff.mpr hDigits.1
      refine ⟨?_, ?_⟩
      · intro hNone
        have hAll := List.drop_eq_nil_iff.mp hNone
        omega
      · intro c hMember
        exact hDigits.2 c (List.mem_of_mem_drop hMember))
    (by
      rw [List.length_drop]
      omega)

namespace Component

/- A part of a day as the piece that a component writes. -/
def piece
    (d : Day) : Component → Piece
  | fullYear | plainYear => .plain d.year (year_lt d)
  | shortYear => .lastTwo d.year
  | monthName => .name d.month d.month_bounds false
  | shortMonthName => .name d.month d.month_bounds true
  | paddedMonth =>
    .padded 2 d.month (by decide) (by decide) (month_lt d)
  | plainMonth =>
    .plain d.month (Nat.lt_trans (month_lt d) (by decide))
  | paddedDay => .padded 2 d.day (by decide) (by decide) (day_lt d)
  | plainDay =>
    .plain d.day (Nat.lt_trans (day_lt d) (by decide))

theorem text_piece
    (d : Day)
    (c : Component) :
    (c.piece d).text = c.render d := by
  cases c <;> rfl

theorem isNumber_piece
    (d : Day)
    {c : Component}
    (hNumber : c.isName = false) :
    (c.piece d).IsNumber := by
  cases c <;> trivial

end Component

------------------------------------------------------------
-- Layouts
------------------------------------------------------------

namespace Layout

/- Only between numerals is the delimiter a mark. -/
theorem delimiterOf_fits
    (tokens : List FormatToken) :
    delimiterOf tokens = ' ' ∨
      isDateMark [delimiterOf tokens] = true ∧
        ∀ c ∈ Date.components tokens, c.isName = false := by
  unfold delimiterOf
  split
  · exact .inl rfl
  · rename_i hNames
    cases hFind :
        ['/', '-', '.'].find? fun c =>
          tokens.contains (.literal c) with
    | none => exact .inl rfl
    | some mark =>
        have hMarks :
            ∀ c ∈ ['/', '-', '.'], isDateMark [c] = true := by
          decide
        refine
          .inr ⟨hMarks mark (List.mem_of_find?_eq_some hFind), ?_⟩
        simpa using hNames

/- A complete list of components has three of them. -/
theorem exists_of_isComplete
    {parts : List Component}
    (hComplete : isComplete parts = true) :
    ∃ a b c, parts = [a, b, c] := by
  simp only [isComplete, Bool.and_eq_true, beq_iff_eq] at hComplete
  exact List.length_eq_three.mp hComplete.1

/- The layout of a format is complete, and its delimiter fits. -/
theorem properties_of_ofFormat?
    {format : List Char}
    {layout : Layout}
    (hFormat : ofFormat? format = some layout) :
    isComplete layout.components = true ∧
      (layout.delimiter = ' ' ∨
        isDateMark [layout.delimiter] = true ∧
          ∀ c ∈ layout.components, c.isName = false) := by
  simp only [ofFormat?] at hFormat
  split at hFormat
  · rename_i hProper
    rw [Bool.and_eq_true] at hProper
    cases hFormat
    exact ⟨hProper.1, delimiterOf_fits (tokenize format)⟩
  · cases hFormat

/- A day in the layout of a format is a writing. -/
theorem exists_writing
    {format : List Char}
    {layout : Layout}
    (hFormat : ofFormat? format = some layout)
    (d : Day) :
    ∃ w : Writing,
      w.pieces = layout.components.map (·.piece d) ∧
        w.delimiter = layout.delimiter := by
  rcases properties_of_ofFormat? hFormat with ⟨hComplete, hFits⟩
  rcases exists_of_isComplete hComplete with ⟨a, b, c, hParts⟩
  rw [hParts] at hFits ⊢
  refine
    ⟨⟨a.piece d, b.piece d, c.piece d, layout.delimiter, ?_⟩, rfl,
      rfl⟩
  rcases hFits with hSpace | ⟨hMark, hNumbers⟩
  · exact .inl hSpace
  · exact
      .inr
        ⟨hMark, Component.isNumber_piece d (hNumbers a (by simp)),
          Component.isNumber_piece d (hNumbers b (by simp)),
          Component.isNumber_piece d (hNumbers c (by simp))⟩

end Layout

------------------------------------------------------------
-- Formats
------------------------------------------------------------

/- A day in the international notation as a writing. -/
def isoWriting (d : Day) : Writing where
  first := .padded 4 d.year (by decide) (by decide) (year_lt d)
  second := .padded 2 d.month (by decide) (by decide) (month_lt d)
  third := .padded 2 d.day (by decide) (by decide) (day_lt d)
  delimiter := '-'
  fits := .inr ⟨by decide, trivial, trivial, trivial⟩

theorem text_isoWriting
    (d : Day) :
    (isoWriting d).text = d.isoText := by
  simp [Writing.text_eq, isoWriting, Piece.padded, Piece.text,
    Day.isoText]

/- The pieces of a day in a format, with their delimiter. -/
def outline
    (pattern : String)
    (d : Day) : List Piece × Char :=
  match Layout.ofFormat? pattern.toList with
  | some layout =>
    (layout.components.map (·.piece d), layout.delimiter)
  | none => ((isoWriting d).pieces, '-')

/- A day in a format is a writing. -/
theorem exists_writing_of_format
    {pattern : String}
    (hPattern : pattern ≠ "")
    (d : Day) :
    ∃ w : Writing,
      w.text = format d (some pattern) ∧
        (w.pieces, w.delimiter) = outline pattern d := by
  have hProper : (pattern == "") = false := by
    simpa using hPattern
  simp only [format, outline, hProper, Bool.false_eq_true, if_false]
  cases hFormat : Layout.ofFormat? pattern.toList with
  | some layout =>
      rcases Layout.exists_writing hFormat d with
        ⟨w, hPieces, hDelimiter⟩
      refine ⟨w, ?_, by rw [hPieces, hDelimiter]⟩
      simp only [Writing.text, hPieces, hDelimiter, Layout.render,
        List.map_map]
      congr 2
      funext c
      exact c.text_piece d
  | none => exact ⟨isoWriting d, text_isoWriting d, rfl⟩

------------------------------------------------------------
-- Reading back
------------------------------------------------------------

/- The day that a day in a format is read back as, if any. -/
def readBack?
    (context : Context)
    (pattern : String)
    (d : Day) : Option Day :=
  Piece.dayOf? ((outline pattern d).2 == ' ')
    context.clock.day.year context.dayFirst (outline pattern d).1

theorem day?_eq_readBack?
    {w : Writing}
    {pattern : String}
    {d : Day}
    (hOutline : (w.pieces, w.delimiter) = outline pattern d)
    (context : Context) :
    w.day? context.clock.day.year context.dayFirst =
      readBack? context pattern d := by
  rw [Writing.day?, readBack?, ← hOutline]

/- As a natural date, a written day is the one it is read as. -/
theorem parse_of_format
    (context : Context)
    {pattern : String}
    (hPattern : pattern ≠ "")
    (d : Day) :
    parse context
        (.text (String.ofList (format d (some pattern)))) =
      .ok ((readBack? context pattern d).map Instant.midnight) := by
  rcases exists_writing_of_format hPattern d with
    ⟨w, hText, hOutline⟩
  rw [← hText, w.parse_text context, day?_eq_readBack? hOutline]

/- As a field of a rule, a written day is the one it is read as. -/
theorem resolveValue_of_format
    (context : Context)
    {pattern : String}
    (hPattern : pattern ≠ "")
    (d : Day) :
    resolveValue context
        (.text (String.ofList (format d (some pattern)))) =
      .ok ((readBack? context pattern d).map Instant.midnight) := by
  rcases exists_writing_of_format hPattern d with
    ⟨w, hText, hOutline⟩
  rw [← hText, w.resolveValue_text context,
    day?_eq_readBack? hOutline]

/- A text that a day is written as is read as what it is read back. -/
theorem resolveValue_of_readBack?
    {context : Context}
    {text : String}
    {e : Day}
    (pattern : String)
    (d : Day)
    (hPattern : pattern ≠ "")
    (hText : String.ofList (format d (some pattern)) = text)
    (hBack : readBack? context pattern d = some e) :
    resolveValue context (.text text) =
      .ok (some (.midnight e)) := by
  rw [← hText, resolveValue_of_format context hPattern, hBack]
  rfl

end Date

end RecordRules
