import RecordRules.Proofs.Phone.WrittenNumber

/-
  Digits laid out as the plan of a region says.

  Main declarations:
    * `Phone.Layout.spaced_spread`, groups of digits are spaced out
    * `Phone.Number.exists_spaced_laidOut`
    * `Phone.Number.length_laidOut_le`
    * `Phone.Number.region_eq_of_laidOut`, within the country a
      number shows to which one it belongs
-/

namespace RecordRules

namespace Phone

open Text Numeric

------------------------------------------------------------
-- Groups of digits
------------------------------------------------------------

namespace Layout

variable {ds : List Nat} {groups : List DigitGroup}

/- Groups of at least one digit each, with marks in front of them. -/
def AreGroups (groups : List DigitGroup) : Prop :=
  groups ≠ [] ∧
    ∀ g ∈ groups, 0 < g.size ∧ ∀ c ∈ g.lead.toList, c ∈ marks

instance (groups : List DigitGroup) : Decidable (AreGroups groups) := by
  unfold AreGroups
  infer_instance

/- Digits in groups are spaced out by what is in front of these. -/
theorem spaced_spread
    (hGroups : AreGroups groups)
    (hDigits : AreDigits ds)
    (hLong : total (groups.map DigitGroup.size) ≤ ds.length) :
    Spaced ds (spread groups ds) := by
  rcases hGroups with ⟨hSome, hEach⟩
  induction groups generalizing ds with
  | nil => exact (hSome rfl).elim
  | cons g rest ih =>
      rcases hEach g (by simp) with ⟨hSize, hLead⟩
      have hRest : ∀ g ∈ rest, 0 < g.size ∧
          ∀ c ∈ g.lead.toList, c ∈ marks :=
        fun other hMember => hEach other (by simp [hMember])
      rw [List.map_cons, total] at hLong
      cases rest with
      | nil =>
          have hThere : ds ≠ [] := by
            rw [← List.length_pos_iff]
            omega
          have hText := (Spaced.digitText hDigits hThere).append
            fun c hMember => .inr (hLead c hMember)
          rwa [filterMap_marks hLead] at hText
      | cons h others =>
          have hLater :
              Spaced (ds.drop g.size)
                (spread (h :: others) (ds.drop g.size)) := by
            refine ih (hDigits.drop _) ?_ nofun hRest
            rw [List.length_drop]
            omega
          have hTaken : AreDigits (ds.take g.size) :=
            fun d hMember => hDigits d (List.mem_of_mem_take hMember)
          have hThere : ds.take g.size ≠ [] := by
            rw [← List.length_pos_iff, List.length_take]
            omega
          have hGroup := Spaced.digitText hTaken hThere
          have hFront :
              ∀ c ∈ g.lead.toList ++ digitText (ds.take g.size),
                IsDigit c ∨ c ∈ marks := by
            intro c hMember
            rcases List.mem_append.mp hMember with hMark | hDigit
            · exact .inr (hLead c hMark)
            · exact hGroup.chars c hDigit
          have hText := hLater.append hFront
          rwa [List.filterMap_append, filterMap_marks hLead,
            hGroup.values, List.nil_append, List.take_append_drop]
            at hText

/- A text in front of the digits of the first group. -/
theorem spread_withLead
    (lead : String)
    (g : DigitGroup)
    (rest : List DigitGroup)
    (ds : List Nat) :
    spread (withLead lead (g :: rest)) ds =
      (g.lead.toList ++ lead.toList) ++
        spread (⟨"", g.size⟩ :: rest) ds := by
  cases rest <;> simp [withLead, spread]

theorem length_spread_le
    (groups : List DigitGroup)
    (ds : List Nat) :
    (spread groups ds).length ≤
      total (groups.map (·.lead.length)) + ds.length := by
  induction groups generalizing ds with
  | nil => exact Nat.zero_le _
  | cons g rest ih =>
      rw [List.map_cons, total]
      cases rest with
      | nil => simp [spread, digitText, total, String.length_toList]
      | cons h others =>
          have hLater := ih (ds.drop g.size)
          change (g.lead.toList ++ digitText (ds.take g.size) ++
            spread (h :: others) (ds.drop g.size)).length ≤ _
          simp only [List.length_append, String.length_toList,
            digitText, List.length_map, List.length_take]
          rw [List.length_drop] at hLater
          omega

/-
  The digits that a layout puts in front of a number within its
  country.
-/
def trunk
    (layout : Layout)
    (national : Bool) : List Nat :=
  if national then
    layout.nationalLead.toList.filterMap digitValue?
  else
    []

/- What a layout is made of. -/
structure IsProper (layout : Layout) : Prop where
  groups : AreGroups layout.groups
  lead : ∀ c ∈ layout.nationalLead.toList, IsDigit c ∨ c ∈ marks
  leads :
    total (layout.groups.map (·.lead.length)) +
      layout.nationalLead.length ≤ 6

variable {layout : Layout}

/- Digits in a layout are spaced out, with others in front of them. -/
theorem IsProper.spaced_render
    (hProper : layout.IsProper)
    (hDigits : AreDigits ds)
    (hLong : layout.size ≤ ds.length)
    (national : Bool) :
    Spaced (layout.trunk national ++ ds) (layout.render national ds) := by
  cases national with
  | false => exact spaced_spread hProper.groups hDigits hLong
  | true =>
      rcases layout with ⟨start, groups, slack, lead⟩
      rcases hProper with ⟨⟨hSome, hEach⟩, hLead, -⟩
      cases groups with
      | nil => exact (hSome rfl).elim
      | cons g rest =>
          have hMarks := (hEach g (by simp)).2
          have hText : Spaced ds (spread (⟨"", g.size⟩ :: rest) ds) := by
            refine spaced_spread ⟨nofun, ?_⟩ hDigits hLong
            intro other hMember
            rcases List.mem_cons.mp hMember with rfl | hLater
            · exact ⟨(hEach g (by simp)).1, nofun⟩
            · exact hEach other (by simp [hLater])
          have hFront :
              ∀ c ∈ g.lead.toList ++ lead.toList,
                IsDigit c ∨ c ∈ marks := by
            intro c hMember
            rcases List.mem_append.mp hMember with hMark | hOther
            · exact .inr (hMarks c hMark)
            · exact hLead c hOther
          have hWhole := hText.append hFront
          rw [List.filterMap_append, filterMap_marks hMarks,
            List.nil_append] at hWhole
          rw [render, if_pos rfl, spread_withLead]
          exact hWhole

/- The marks and the digits in front of a number are few. -/
theorem IsProper.length_render_le
    (hProper : layout.IsProper)
    (national : Bool)
    (ds : List Nat) :
    (layout.render national ds).length ≤ 6 + ds.length := by
  have hLeads := hProper.leads
  cases national with
  | false =>
      have hLength := length_spread_le layout.groups ds
      rw [render, if_neg Bool.false_ne_true]
      omega
  | true =>
      rcases layout with ⟨start, groups, slack, lead⟩
      cases groups with
      | nil => exact (hProper.groups.1 rfl).elim
      | cons g rest =>
          have hLength := length_spread_le (⟨"", g.size⟩ :: rest) ds
          rw [render, if_pos rfl, spread_withLead]
          simp only [List.map_cons, total, String.length_empty,
            List.length_append, String.length_toList] at hLeads hLength ⊢
          omega

end Layout

------------------------------------------------------------
-- Numbers
------------------------------------------------------------

variable {r : Region} {n m : Number}

/- The layouts of a region for numbers within the country or not. -/
def Region.layouts
    (r : Region)
    (national : Bool) : List Layout :=
  if national then r.plan.layouts else r.plan.abroadLayouts

/- The layouts of every plan are proper, and their leading digits. -/
theorem Region.layouts_proper
    {layout : Layout}
    {national : Bool}
    (hMember : layout ∈ r.layouts national) :
    layout.IsProper ∧ IsTrunk r (layout.trunk true) := by
  have hEach :
      ∀ layout ∈ r.plan.layouts ++ r.plan.abroadLayouts,
        Layout.AreGroups layout.groups ∧
          (∀ c ∈ layout.nationalLead.toList, IsDigit c ∨ c ∈ marks) ∧
          total (layout.groups.map (·.lead.length)) +
            layout.nationalLead.length ≤ 6 ∧
          (layout.trunk true = [] ∨
            layout.trunk true = [0] ∧ r ≠ .unitedStates) := by
    cases r <;> decide
  have hPart : layout ∈ r.plan.layouts ++ r.plan.abroadLayouts := by
    rw [List.mem_append]
    cases national with
    | true => exact .inl hMember
    | false => exact .inr hMember
  rcases hEach layout hPart with ⟨hGroups, hLead, hLeads, hTrunk⟩
  exact ⟨⟨hGroups, hLead, hLeads⟩, hTrunk⟩

namespace Number

theorem laidOut_eq
    (n : Number)
    (national : Bool) :
    n.laidOut national =
      match (n.region.layouts national).find? (·.suits n.digits) with
      | some layout => layout.render national n.digits
      | none => Layout.digitText n.digits :=
  rfl

/-
  The digits of a number are spaced out, within the country after
  digits that may come before them there.
-/
theorem exists_spaced_laidOut
    (hDigits : AreDigits n.digits)
    (hSome : n.digits ≠ [])
    (national : Bool) :
    ∃ trunk, IsTrunk n.region trunk ∧ (national = false → trunk = []) ∧
      Spaced (trunk ++ n.digits) (n.laidOut national) := by
  rw [laidOut_eq]
  split
  · rename_i layout hFound
    have hSuits := List.find?_some hFound
    have hProper :=
      Region.layouts_proper (List.mem_of_find?_eq_some hFound)
    simp only [Layout.suits, Bool.and_eq_true, decide_eq_true_eq]
      at hSuits
    refine ⟨layout.trunk national, ?_, ?_,
      hProper.1.spaced_render hDigits hSuits.1.2 national⟩
    · cases national with
      | true => exact hProper.2
      | false => exact .inl rfl
    · rintro rfl
      rfl
  · exact ⟨[], .inl rfl, fun _ => rfl, Spaced.digitText hDigits hSome⟩

theorem length_laidOut_le
    (n : Number)
    (national : Bool) :
    (n.laidOut national).length ≤ 6 + n.digits.length := by
  rw [laidOut_eq]
  split
  · rename_i layout hFound
    have hProper :=
      Region.layouts_proper (List.mem_of_find?_eq_some hFound)
    exact hProper.1.length_render_le national n.digits
  · rw [Layout.digitText, List.length_map]
    omega

end Number

------------------------------------------------------------
-- Shapes
------------------------------------------------------------

/- A character, with a zero for every digit. -/
def shapeOf (c : Char) : Char :=
  if IsDigit c then '0' else c

theorem map_shapeOf_digitText
    {ds : List Nat}
    (hDigits : AreDigits ds) :
    (Layout.digitText ds).map shapeOf =
      Layout.digitText (List.replicate ds.length 0) := by
  have hEach : ∀ d < 10, (shapeOf ∘ digitChar) d = '0' := by decide
  rw [Layout.digitText, Layout.digitText, List.map_map,
    List.map_replicate,
    List.map_congr_left fun d hMember => hEach d (hDigits d hMember),
    List.map_const']
  rfl

/- Digits in groups look the same whatever digits they are. -/
theorem Layout.map_shapeOf_spread
    {groups : List DigitGroup}
    {ds : List Nat}
    (hLeads : ∀ g ∈ groups, ∀ c ∈ g.lead.toList, shapeOf c = c)
    (hDigits : AreDigits ds) :
    (spread groups ds).map shapeOf =
      spread groups (List.replicate ds.length 0) := by
  have hLead
      {lead : List Char}
      (hSame : ∀ c ∈ lead, shapeOf c = c) :
      lead.map shapeOf = lead := by
    rw [List.map_congr_left hSame, List.map_id']
  induction groups generalizing ds with
  | nil => rfl
  | cons g rest ih =>
      have hFirst := hLead (hLeads g (by simp))
      have hRest : ∀ g ∈ rest, ∀ c ∈ g.lead.toList, shapeOf c = c :=
        fun other hMember => hLeads other (by simp [hMember])
      cases rest with
      | nil =>
          change (g.lead.toList ++ digitText ds).map shapeOf = _
          rw [List.map_append, hFirst, map_shapeOf_digitText hDigits]
          rfl
      | cons h others =>
          have hTaken : AreDigits (ds.take g.size) :=
            fun d hMember => hDigits d (List.mem_of_mem_take hMember)
          change (g.lead.toList ++ digitText (ds.take g.size) ++
            spread (h :: others) (ds.drop g.size)).map shapeOf = _
          rw [List.map_append, List.map_append, hFirst,
            map_shapeOf_digitText hTaken, ih hRest (hDigits.drop _), List.length_take,
            List.length_drop, ← List.take_replicate,
            ← List.drop_replicate]
          rfl

/- The first mark among the first three characters of a text. -/
def opening (cs : List Char) : Option Char :=
  ((cs.map shapeOf).take 3).find? (· != '0')

/- What numbers of a region start with within the country. -/
def Region.opening : Region → Option Char
  | unitedStates => some '('
  | unitedKingdom => none
  | france => some ' '

theorem opening_append
    {cs : List Char}
    (hLong : 3 ≤ cs.length)
    (rest : List Char) :
    opening (cs ++ rest) = opening cs := by
  rw [opening, opening, List.map_append,
    List.take_append_of_le_length (by rwa [List.length_map])]

/- The layouts that suit numbers of a region open like these. -/
theorem Region.opening_render
    {layout : Layout}
    {ds : List Nat}
    (hMember : layout ∈ r.layouts true)
    (hSuits : layout.suits ds = true)
    (hDigits : AreDigits ds)
    (hContains : r.plan.general.contains ds = true) :
    Phone.opening (layout.render true ds) = r.opening := by
  have hEach :
      ∀ layout ∈ r.plan.layouts,
        (∀ g ∈ Layout.withLead layout.nationalLead layout.groups,
          ∀ c ∈ g.lead.toList, shapeOf c = c) ∧
        ∀ n ∈ r.plan.general.lengths,
          layout.size ≤ n → n ≤ layout.size + layout.slack →
            ((layout.render true (List.replicate n 0)).take 3).find?
              (· != '0') = r.opening := by
    cases r <;> decide
  have hLength :=
    List.contains_iff_mem.mp (Bool.and_eq_true_iff.mp hContains).1
  simp only [Layout.suits, Bool.and_eq_true, decide_eq_true_eq]
    at hSuits
  rcases hEach layout hMember with ⟨hLeads, hOpening⟩
  rw [Phone.opening, Layout.render, if_pos rfl,
    Layout.map_shapeOf_spread hLeads hDigits]
  exact hOpening _ hLength hSuits.1.2 hSuits.2

theorem DigitPattern.startsIn_of
    {allowed : List Nat}
    {d : Nat}
    (hAllowed : d ∈ allowed)
    (rest : List Nat) :
    (DigitPattern.of allowed).startsIn (d :: rest) = true := by
  rw [startsIn, rests, if_pos (List.contains_iff_mem.mpr hAllowed)]
  rfl

/- A layout suits numbers of its size that start as it says. -/
theorem Layout.suits_of_size
    {layout : Layout}
    {ds : List Nat}
    (hStart : layout.start.startsIn ds = true)
    (hSize : layout.size = ds.length) :
    layout.suits ds = true := by
  simp [suits, hStart, hSize]

/- Outside the United Kingdom there is a layout for every number. -/
theorem Region.exists_suits
    {ds : List Nat}
    (hRegion : r ≠ .unitedKingdom)
    (hDigits : AreDigits ds)
    (hContains : r.plan.general.contains ds = true) :
    ∃ layout ∈ r.layouts true, layout.suits ds = true := by
  rcases Bool.and_eq_true_iff.mp hContains with ⟨hLength, hFits⟩
  rw [List.contains_iff_mem] at hLength
  cases ds with
  | nil => cases r <;> cases hFits
  | cons d rest =>
      have hDigit : d < 10 := hDigits d (by simp)
      cases r with
      | unitedStates =>
          have hTen := List.mem_singleton.mp hLength
          have hOthers :
              ∀ d < 10, d ≠ 0 → d ≠ 1 →
                d ∈ [2, 3, 4, 5, 6, 7, 8, 9] := by
            decide
          refine ⟨UnitedStates.layouts[2], List.getElem_mem _,
            Layout.suits_of_size
              (DigitPattern.startsIn_of (hOthers d hDigit ?_ ?_) rest)
              hTen.symm⟩
          · rintro rfl
            cases hFits
          · rintro rfl
            cases hFits
      | unitedKingdom => exact (hRegion rfl).elim
      | france =>
          have hNine := List.mem_singleton.mp hLength
          have hOthers :
              ∀ d < 10, d ≠ 0 → d ≠ 8 →
                d ∈ [1, 2, 3, 4, 5, 6, 7, 9] := by
            decide
          by_cases hEight : d = 8
          · subst hEight
            exact ⟨France.layouts[2], List.getElem_mem _,
              Layout.suits_of_size rfl hNine.symm⟩
          · refine ⟨France.layouts[3], List.getElem_mem _,
              Layout.suits_of_size
                (DigitPattern.startsIn_of
                  (hOthers d hDigit ?_ hEight) rest)
                hNine.symm⟩
            rintro rfl
            cases hFits

namespace Number

/- Valid numbers open as those of their region do. -/
theorem opening_laidOut
    (hDigits : AreDigits n.digits)
    (hValid : n.isValid = true) :
    opening (n.laidOut true) = n.region.opening := by
  have hContains := (Bool.and_eq_true_iff.mp hValid).1
  rw [laidOut_eq]
  split
  · rename_i layout hFound
    have hSuits := List.find?_some hFound
    exact Region.opening_render (List.mem_of_find?_eq_some hFound)
      hSuits hDigits hContains
  · rename_i hNone
    rw [List.find?_eq_none] at hNone
    by_cases hRegion : n.region = .unitedKingdom
    · -- without a layout there are digits only
      rw [hRegion]
      rw [opening, map_shapeOf_digitText hDigits, Layout.digitText,
        List.map_replicate, List.take_replicate, List.find?_replicate]
      split <;> rfl
    · rcases Region.exists_suits hRegion hDigits hContains with
        ⟨layout, hMember, hSuits⟩
      exact (hNone layout hMember hSuits).elim

/- Numbers that are written alike in their countries share them. -/
theorem region_eq_of_laidOut
    {first second : List Char}
    (hDigits : AreDigits n.digits)
    (hValid : n.isValid = true)
    (hOther : AreDigits m.digits)
    (hOtherValid : m.isValid = true)
    (hSame : n.laidOut true ++ first = m.laidOut true ++ second) :
    n.region = m.region := by
  have hLong
      {k : Number}
      (hDigits : AreDigits k.digits)
      (hValid : k.isValid = true) :
      3 ≤ (k.laidOut true).length := by
    have hSeven :=
      (Region.length_of_contains (Bool.and_eq_true_iff.mp hValid).1).1
    have hSome : k.digits ≠ [] := by
      rw [← List.length_pos_iff]
      omega
    rcases exists_spaced_laidOut hDigits hSome true with
      ⟨trunk, -, -, hSpaced⟩
    have hFew := List.length_filterMap_le digitValue? (k.laidOut true)
    rw [hSpaced.values, List.length_append] at hFew
    omega
  have hInjective :
      ∀ r s : Region, r.opening = s.opening → r = s := by
    intro r s
    cases r <;> cases s <;> decide
  apply hInjective
  rw [← opening_laidOut hDigits hValid,
    ← opening_laidOut hOther hOtherValid,
    ← opening_append (hLong hDigits hValid) first, hSame,
    opening_append (hLong hOther hOtherValid)]

end Number

end Phone

end RecordRules
