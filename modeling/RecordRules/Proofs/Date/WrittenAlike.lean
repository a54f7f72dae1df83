import Mathlib.Data.List.Nodup
import RecordRules.Proofs.Date.Exchange

/-
  Days that are written alike.

  Main declarations:
    * `Date.Component.render_eq_iff`, components that write two days
      alike
    * `Date.render_shortYear_eq_iff`, the same for the last two digits
      of a year
    * `Date.texts_eq_iff`, the parts that a text is made of
    * `Date.WritesShortYear` and `Date.SameButCentury`
    * `Date.format_eq_iff_same_day`
-/

namespace RecordRules

open Text Numeric

------------------------------------------------------------
-- Numbers
------------------------------------------------------------

namespace Text

theorem natDigits_inj
    {m n : Nat} :
    natDigits m = natDigits n ↔ m = n := by
  constructor
  · intro hText
    rw [← numeralValue_natDigits m, hText, numeralValue_natDigits]
  · rintro rfl
    rfl

theorem paddedDigits_inj
    (width : Nat)
    {m n : Nat} :
    paddedDigits width m = paddedDigits width n ↔ m = n := by
  constructor
  · intro hText
    rw [← numeralValue_paddedDigits width m, hText,
      numeralValue_paddedDigits]
  · rintro rfl
    rfl

theorem natDigits_of_lt
    {n : Nat}
    (hSmall : n < 10) :
    natDigits n = [Nat.digitChar n] := by
  rw [natDigits, Nat.toDigits_eq_if (by decide), if_pos hSmall]

theorem natDigits_of_le
    {n : Nat}
    (hLarge : 10 ≤ n) :
    natDigits n = natDigits (n / 10) ++ [Nat.digitChar (n % 10)] := by
  rw [natDigits, Nat.toDigits_eq_if (by decide),
    if_neg (Nat.not_lt.mpr hLarge), natDigits]

theorem digitChar_inj
    {m n : Nat}
    (hFirst : m < 10)
    (hSecond : n < 10) :
    Nat.digitChar m = Nat.digitChar n ↔ m = n := by
  constructor
  · intro hDigit
    have hValue := congrArg Char.toNat hDigit
    rw [Nat.toNat_digitChar_of_lt_ten hFirst,
      Nat.toNat_digitChar_of_lt_ten hSecond] at hValue
    omega
  · rintro rfl
    rfl

end Text

/- A day is told by its year, its month and its day. -/
theorem Day.eq_of_parts
    {d e : Day}
    (hYear : d.year = e.year)
    (hMonth : d.month = e.month)
    (hDay : d.day = e.day) :
    d = e := by
  cases d
  cases e
  simp_all

namespace Date

------------------------------------------------------------
-- Years without their century
------------------------------------------------------------

variable {d e : Day}

/- Years from 10 on are cut to their last two digits. -/
theorem render_shortYear_of_le
    (hLarge : 10 ≤ d.year) :
    Component.shortYear.render d =
      [Nat.digitChar (d.year / 10 % 10),
        Nat.digitChar (d.year % 10)] := by
  have hFront :
      ∃ front, natDigits d.year = front ++
        [Nat.digitChar (d.year / 10 % 10),
          Nat.digitChar (d.year % 10)] := by
    rw [natDigits_of_le hLarge]
    rcases Nat.lt_or_ge (d.year / 10) 10 with hShort | hLong
    · refine ⟨[], ?_⟩
      rw [natDigits_of_lt hShort, Nat.mod_eq_of_lt hShort]
      rfl
    · refine ⟨natDigits (d.year / 10 / 10), ?_⟩
      rw [natDigits_of_le hLong, List.append_assoc]
      rfl
  rcases hFront with ⟨front, hDigits⟩
  simp [Component.render, hDigits]

theorem render_shortYear_of_lt
    (hSmall : d.year < 10) :
    Component.shortYear.render d = [Nat.digitChar d.year] := by
  simp [Component.render, natDigits_of_lt hSmall]

/- The last two digits of years that are alike. -/
theorem render_shortYear_eq_iff :
    Component.shortYear.render d = Component.shortYear.render e ↔
      d.year % 100 = e.year % 100 ∧ (d.year < 10 ↔ e.year < 10) := by
  rcases Nat.lt_or_ge d.year 10 with hFirst | hFirst
  · rcases Nat.lt_or_ge e.year 10 with hSecond | hSecond
    · rw [render_shortYear_of_lt hFirst, render_shortYear_of_lt hSecond,
        List.cons.injEq, digitChar_inj hFirst hSecond]
      simp only [and_true]
      omega
    · rw [render_shortYear_of_lt hFirst, render_shortYear_of_le hSecond]
      simp
      omega
  · rcases Nat.lt_or_ge e.year 10 with hSecond | hSecond
    · rw [render_shortYear_of_le hFirst, render_shortYear_of_lt hSecond]
      simp
      omega
    · rw [render_shortYear_of_le hFirst, render_shortYear_of_le hSecond,
        List.cons.injEq, List.cons.injEq,
        digitChar_inj (by omega) (by omega),
        digitChar_inj (by omega) (by omega)]
      simp only [and_true]
      omega

------------------------------------------------------------
-- Components
------------------------------------------------------------

/- The names of months, whole or cut, tell them apart. -/
theorem nameText_inj
    {m n : Nat}
    (hFirst : 1 ≤ m ∧ m ≤ 12)
    (hSecond : 1 ≤ n ∧ n ≤ 12)
    (cut : Bool) :
    Piece.nameText m cut = Piece.nameText n cut ↔ m = n := by
  have hNamed (month : Nat) (hMonth : 1 ≤ month ∧ month ≤ 12) :
      month? (Piece.nameText month cut) = some month :=
    Piece.forall_nameText
      (P := fun month text => month? text = some month) (by decide)
      hMonth cut
  constructor
  · intro hText
    have hMonth := hNamed m hFirst
    rw [hText, hNamed n hSecond] at hMonth
    exact (Option.some.inj hMonth).symm
  · rintro rfl
    rfl

/- Only short years are written alike for different numbers. -/
theorem Component.render_eq_iff
    {c : Component}
    (hFull : c ≠ .shortYear) :
    c.render d = c.render e ↔ c.value d = c.value e := by
  cases c with
  | fullYear | plainYear | plainMonth | plainDay => exact natDigits_inj
  | shortYear => exact absurd rfl hFull
  | monthName =>
      exact nameText_inj d.month_bounds e.month_bounds false
  | shortMonthName =>
      exact nameText_inj d.month_bounds e.month_bounds true
  | paddedMonth | paddedDay => exact paddedDigits_inj 2

------------------------------------------------------------
-- Formats
------------------------------------------------------------

/- Whether a format has a layout that writes the year short. -/
def WritesShortYear (pattern : Option String) : Prop :=
  ∃ text ∈ pattern, ∃ layout ∈ Layout.ofFormat? text.toList,
    .shortYear ∈ layout.components

/-
  Days that differ in the century of their year at most. A year
  below 10 is written with one digit, so it is alike to no other.
-/
structure SameButCentury (d e : Day) : Prop where
  month_eq : d.month = e.month
  day_eq : d.day = e.day
  year_mod_eq : d.year % 100 = e.year % 100
  isSmall_iff : d.year < 10 ↔ e.year < 10

/- Without a format a day is written as in this one. -/
theorem format_of_empty
    {pattern : Option String}
    (hEmpty : ∀ text ∈ pattern, text = "")
    (d : Day) :
    format d pattern = format d (some "mm/dd/y") := by
  have hLayout :
      Layout.ofFormat? "mm/dd/y".toList = some defaultLayout := by
    decide
  have hProper : ("mm/dd/y" == "") = false := by decide
  have hDefault : format d pattern = defaultLayout.render d := by
    cases pattern with
    | none => rfl
    | some text =>
        rw [hEmpty text rfl]
        rfl
  rw [hDefault]
  simp only [format, hProper, Bool.false_eq_true, if_false, hLayout]

theorem not_writesShortYear_of_empty
    {pattern : Option String}
    (hEmpty : ∀ text ∈ pattern, text = "") :
    ¬ WritesShortYear pattern := by
  rintro ⟨text, hText, layout, hLayout, -⟩
  rw [hEmpty text hText] at hLayout
  cases hLayout

------------------------------------------------------------
-- Texts and their parts
------------------------------------------------------------

variable {pattern : String}

/- Texts in one format are the same if all of their pieces are. -/
theorem format_eq_iff_pieces
    (hPattern : pattern ≠ "") :
    format d (some pattern) = format e (some pattern) ↔
      (outline pattern d).1.map Piece.text =
        (outline pattern e).1.map Piece.text := by
  rcases exists_writing_of_format hPattern d with
    ⟨w, hFirst, hOutline⟩
  rcases exists_writing_of_format hPattern e with
    ⟨u, hSecond, hOther⟩
  have hMark : (outline pattern d).2 = (outline pattern e).2 := by
    unfold outline
    cases Layout.ofFormat? pattern.toList <;> rfl
  rw [← hFirst, ← hSecond, ← hOutline, ← hOther]
  rw [← hOutline, ← hOther] at hMark
  constructor
  · exact Writing.pieces_of_text
  · intro hPieces
    have hDelimiter : w.delimiter = u.delimiter := hMark
    rw [Writing.text, Writing.text, hPieces, hDelimiter]

/- The components that a layout has for every part of a day. -/
theorem Component.exists_of_isComplete
    {parts : List Component}
    (hComplete : Layout.isComplete parts = true)
    (p : Part) :
    ∃ c ∈ parts, c.part = p := by
  have hAll := (Bool.and_eq_true_iff.mp hComplete).2
  have hPart := List.all_eq_true.mp hAll p (by cases p <;> simp)
  rcases List.any_eq_true.mp hPart with ⟨c, hMember, hSame⟩
  exact ⟨c, hMember, eq_of_beq hSame⟩

/-
  A year, a month and a day, each written once, are written alike
  for one day only, but for the century of a short year.
-/
theorem Component.forall_render_eq_iff
    {parts : List Component}
    (hComplete : Layout.isComplete parts = true) :
    (∀ c ∈ parts, c.render d = c.render e) ↔
      d = e ∨ .shortYear ∈ parts ∧ SameButCentury d e := by
  constructor
  · intro hTexts
    have hValue {c : Component} (hMember : c ∈ parts)
        (hFull : c ≠ .shortYear) : c.value d = c.value e :=
      (render_eq_iff hFull).mp (hTexts c hMember)
    have hMonth : d.month = e.month := by
      rcases exists_of_isComplete hComplete .month with
        ⟨c, hMember, hPart⟩
      have hSame := hValue hMember (by rintro rfl; cases hPart)
      simpa [value, hPart] using hSame
    have hDay : d.day = e.day := by
      rcases exists_of_isComplete hComplete .day with
        ⟨c, hMember, hPart⟩
      have hSame := hValue hMember (by rintro rfl; cases hPart)
      simpa [value, hPart] using hSame
    rcases exists_of_isComplete hComplete .year with
      ⟨c, hMember, hPart⟩
    by_cases hShort : c = .shortYear
    · subst hShort
      rcases render_shortYear_eq_iff.mp (hTexts _ hMember) with
        ⟨hYear, hSmall⟩
      exact .inr ⟨hMember, hMonth, hDay, hYear, hSmall⟩
    · have hSame := hValue hMember hShort
      simp only [value, hPart] at hSame
      exact .inl (Day.eq_of_parts hSame hMonth hDay)
  · rintro (rfl | ⟨hShort, hSame⟩) c hMember
    · rfl
    · by_cases hYear : c = .shortYear
      · subst hYear
        exact
          render_shortYear_eq_iff.mpr
            ⟨hSame.year_mod_eq, hSame.isSmall_iff⟩
      · -- the year is written once, so this is another part
        have hPart : c.part ≠ .year := by
          intro hPart
          exact hYear
            (List.inj_on_of_nodup_map (nodup_of_isComplete hComplete)
              hMember hShort hPart)
        rw [render_eq_iff hYear, value, value]
        cases hKind : c.part with
        | year => exact absurd hKind hPart
        | month => exact hSame.month_eq
        | day => exact hSame.day_eq

/- In the international notation all days are written differently. -/
theorem isoText_eq_iff :
    d.isoText = e.isoText ↔ d = e := by
  constructor
  · intro hText
    rw [← text_isoWriting d, ← text_isoWriting e] at hText
    have hPieces := Writing.pieces_of_text hText
    simp only [Writing.pieces, isoWriting, Piece.padded, Piece.text,
      List.map_cons, List.map_nil, List.cons.injEq, and_true,
      paddedDigits_inj] at hPieces
    exact Day.eq_of_parts hPieces.1 hPieces.2.1 hPieces.2.2
  · rintro rfl
    rfl

/- Days that are written alike in a format that is not empty. -/
theorem format_some_eq_iff
    (hPattern : pattern ≠ "") :
    format d (some pattern) = format e (some pattern) ↔
      d = e ∨ WritesShortYear (some pattern) ∧ SameButCentury d e := by
  cases hFormat : Layout.ofFormat? pattern.toList with
  | some layout =>
      have hComplete := (Layout.properties_of_ofFormat? hFormat).1
      have hShort :
          WritesShortYear (some pattern) ↔
            .shortYear ∈ layout.components := by
        simp [WritesShortYear, hFormat]
      rw [format_eq_iff_pieces hPattern, hShort,
        ← Component.forall_render_eq_iff hComplete]
      simp only [outline, hFormat, List.map_map, List.map_inj_left,
        Function.comp_apply, Component.text_piece]
  | none =>
      have hIso (f : Day) : format f (some pattern) = f.isoText := by
        simp [format, hPattern, hFormat]
      have hFull : ¬ WritesShortYear (some pattern) := by
        simp [WritesShortYear, hFormat]
      rw [hIso, hIso, isoText_eq_iff]
      simp only [hFull, false_and, or_false]

------------------------------------------------------------
-- Instants that are written alike
------------------------------------------------------------

/-
  Whatever the format, instants are written alike only if they are
  of one day. The one exception is a format with a layout in which
  the year is short: there the century of the year may differ.
-/
theorem format_eq_iff_same_day
    (pattern : Option String)
    (s t : Instant) :
    format s.day pattern = format t.day pattern ↔
      s.day = t.day ∨
        WritesShortYear pattern ∧ SameButCentury s.day t.day := by
  by_cases hEmpty : ∀ text ∈ pattern, text = ""
  · have hFull : ¬ WritesShortYear (some "mm/dd/y") := by
      rintro ⟨text, hText, layout, hLayout, hShort⟩
      cases hText
      revert hShort
      cases hLayout
      decide
    rw [format_of_empty hEmpty, format_of_empty hEmpty,
      format_some_eq_iff (by decide)]
    simp only [hFull, not_writesShortYear_of_empty hEmpty, false_and]
  · cases pattern with
    | none => exact absurd nofun hEmpty
    | some text =>
        exact format_some_eq_iff fun hNone => hEmpty (by simp [hNone])

/- The same day of another century is written alike. -/
example :
    format ⟨1924, 2, 29, by decide⟩ (some "d.m.yy") =
      format ⟨2024, 2, 29, by decide⟩ (some "d.m.yy") := by
  decide

end Date

end RecordRules
