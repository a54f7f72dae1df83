import RecordRules.Phone.Plan

/-
  The numbering plan of France.

  Main declaration:
    * `Phone.France.plan`
-/

namespace RecordRules

namespace Phone

namespace France

------------------------------------------------------------
-- Classes of numbers
------------------------------------------------------------

/- Numbers of every kind. -/
def general : NumberClass :=
  { lengths := [9]
    pattern :=
      .all [.of [1, 2, 3, 4, 5, 6, 7, 8, 9], .free 8] }

/- Fixed lines. -/
def fixed : NumberClass :=
  { lengths := [9]
    pattern :=
      .anyOf
        [ .all
          [ .anyOf
            [ .all [.word [2, 6], .of [0, 1, 3, 4, 5, 6, 7, 8, 9]]
            , .all [.word [5, 9], .of [1, 2, 3, 5, 6, 7, 8, 9]] ]
          , .free 6 ]
        , .all
          [ .anyOf
            [ .all [.of [1, 3], .free 1]
            , .all [.word [2], .of [0, 1, 2, 3, 4, 5, 7, 8, 9]]
            , .all [.word [4], .of [1, 2, 3, 4, 5, 6, 7, 8, 9]]
            , .all [.word [5], .of [0, 1, 2, 3, 4, 5, 6, 7, 8]] ]
          , .free 7 ] ] }

/- Mobile phones. -/
def mobile : NumberClass :=
  { lengths := [9]
    pattern :=
      .all
        [ .anyOf
          [ .all
            [ .word [6]
            , .anyOf
              [ .all [.of [0, 1, 2, 4, 5, 6, 7, 8], .free 1]
              , .all [.word [3], .of [0, 1, 2, 3, 4, 5, 6, 7, 8]]
              , .all [.word [9], .of [5, 8, 9]] ] ]
          , .all [.word [7], .of [3, 4, 5, 6, 7, 8, 9], .free 1] ]
        , .free 6 ] }

/- Numbers free for the caller. -/
def tollFree : NumberClass :=
  { lengths := [9]
    pattern :=
      .all [.word [8, 0], .of [0, 1, 2, 3, 4, 5], .free 6] }

/- Numbers at a premium rate. -/
def premium : NumberClass :=
  { lengths := [9]
    pattern :=
      .anyOf
        [ .all
          [ .word [8, 3, 6]
          , .anyOf
            [ .all [.word [0], .of [0, 1, 2, 3, 6, 7, 8, 9]]
            , .all [.of [1, 2, 3, 4, 5, 6, 7, 8, 9], .free 1] ]
          , .free 4 ]
        , .all
          [ .word [8]
          , .anyOf
            [ .all [.word [1], .of [2, 3, 4, 5, 6, 7, 8, 9]]
            , .all [.word [2], .of [2, 3, 4, 7, 8, 9]]
            , .all [.word [3], .of [0, 1, 2, 3, 4, 5, 7, 8, 9]]
            , .all [.of [5, 6, 9], .free 1]
            , .all [.word [8], .of [0, 1, 2, 3, 5, 6, 7, 8, 9]] ]
          , .free 6 ] ] }

/- Numbers at a shared cost. -/
def sharedCost : NumberClass :=
  { lengths := [9]
    pattern :=
      .all
        [ .word [8]
        , .anyOf
          [ .all [.word [1], .of [0, 1]]
          , .all [.word [2], .of [0, 1, 5, 6]]
          , .all [.word [4], .of [0, 2, 4]], .word [8, 4] ]
        , .free 6 ] }

/- Phones over data networks. -/
def voip : NumberClass :=
  { lengths := [9]
    pattern :=
      .all [.word [9], .free 8] }

/- Numbers for whole companies. -/
def company : NumberClass :=
  { lengths := [9]
    pattern :=
      .all [.word [8, 0], .of [6, 7, 8, 9], .free 6] }

------------------------------------------------------------
-- Layouts
------------------------------------------------------------

/- How numbers are written. -/
def layouts : List Layout :=
  [ { start := .word [1, 0]
      groups := [⟨"", 4⟩] }
  , { start := .word [1]
      groups := [⟨"", 3⟩, ⟨" ", 3⟩] }
  , { start := .word [8]
      groups := [⟨"", 3⟩, ⟨" ", 2⟩, ⟨" ", 2⟩, ⟨" ", 2⟩]
      nationalLead := "0 " }
  , { start := .of [1, 2, 3, 4, 5, 6, 7, 9]
      groups := [⟨"", 1⟩, ⟨" ", 2⟩, ⟨" ", 2⟩, ⟨" ", 2⟩, ⟨" ", 2⟩]
      nationalLead := "0" } ]

/- How numbers are written with their calling code. -/
def abroadLayouts : List Layout :=
  [ { start := .word [8]
      groups := [⟨"", 3⟩, ⟨" ", 2⟩, ⟨" ", 2⟩, ⟨" ", 2⟩] }
  , { start := .of [1, 2, 3, 4, 5, 6, 7, 9]
      groups := [⟨"", 1⟩, ⟨" ", 2⟩, ⟨" ", 2⟩, ⟨" ", 2⟩, ⟨" ", 2⟩] } ]

------------------------------------------------------------
-- The plan
------------------------------------------------------------

/- The numbering plan of France. -/
def plan : Plan :=
  { region := "FR"
    callingCode := [3, 3]
    exitDigits := [0, 0]
    trunkDigits := [[0]]
    general := general
    localLengths := []
    classes :=
      [ fixed, mobile, tollFree, premium, sharedCost, voip, company ]
    layouts := layouts
    abroadLayouts := abroadLayouts
    extensionMark := " ext. " }

end France

end Phone

end RecordRules
