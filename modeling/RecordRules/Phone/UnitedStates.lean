import RecordRules.Phone.Plan

/-
  The numbering plan of the United States.

  Main declaration:
    * `Phone.UnitedStates.plan`
-/

namespace RecordRules

namespace Phone

namespace UnitedStates

------------------------------------------------------------
-- Classes of numbers
------------------------------------------------------------

/- Numbers of every kind. -/
def general : NumberClass :=
  { lengths := [10]
    pattern :=
      .anyOf
        [ .all [.of [2, 3, 4, 5, 6, 7, 8, 9], .free 9]
        , .all [.word [3], .free 6] ] }

/- Fixed lines and mobile phones. -/
def geographic : NumberClass :=
  { lengths := [10]
    pattern :=
      .anyOf
        [ .all [.word [9, 8, 3], .of [2, 3, 4, 5, 7, 8, 9], .free 6]
        , .all
          [ .anyOf
            [ .all
              [ .word [2]
              , .anyOf
                [ .all [.word [0], .of [1, 2, 3, 5, 6, 7, 8, 9]]
                , .all [.word [1], .of [0, 2, 3, 4, 5, 6, 7, 8, 9]]
                , .all [.word [2], .of [0, 3, 4, 5, 7, 8, 9]]
                , .all [.word [3], .of [1, 4, 5, 9]]
                , .all [.word [4], .of [0, 8]]
                , .all [.word [5], .of [1, 2, 3, 4, 6]]
                , .all [.word [6], .of [0, 2, 7, 9]]
                , .all [.word [7], .of [0, 2, 4, 6, 9]]
                , .all [.word [8], .of [1, 3]] ] ]
            , .all
              [ .word [3]
              , .anyOf
                [ .all [.word [0], .of [1, 2, 3, 4, 5, 7, 8, 9]]
                , .all [.word [1], .of [0, 2, 3, 4, 5, 6, 7, 8, 9]]
                , .all [.word [2], .of [0, 1, 3, 4, 5, 6, 7, 9]]
                , .all [.word [3], .of [0, 1, 2, 4, 6, 7, 9]]
                , .all [.word [4], .of [1, 6, 7]]
                , .all [.word [5], .of [0, 1, 2, 3]]
                , .all [.word [6], .of [0, 1, 3, 4, 9]]
                , .all [.word [8], .of [0, 5, 6]] ] ]
            , .all
              [ .word [4]
              , .anyOf
                [ .all [.word [0], .of [1, 2, 4, 5, 6, 7, 8, 9]]
                , .all [.word [1], .of [0, 2, 3, 4, 5, 7, 9]]
                , .all [.word [2], .of [3, 4, 5]]
                , .all [.word [3], .of [0, 2, 4, 5]]
                , .all [.word [4], .of [0, 2, 3, 5, 7, 8]], .word [5, 8]
                , .all [.word [6], .of [3, 4, 9]]
                , .all [.word [7], .of [0, 2, 5, 8, 9]]
                , .all [.word [8], .of [0, 4]] ] ]
            , .all
              [ .word [5]
              , .anyOf
                [ .all [.word [0], .of [1, 2, 3, 4, 5, 7, 8, 9]]
                , .all [.word [1], .of [0, 2, 3, 5, 6, 7, 8]]
                , .word [2, 0], .all [.word [3], .of [0, 1, 4, 9]]
                , .all [.word [4], .of [0, 1]]
                , .all [.word [5], .of [1, 7, 9]]
                , .all [.word [6], .of [1, 2, 3, 4, 7]]
                , .all [.word [7], .of [0, 1, 2, 3, 4, 5]]
                , .all [.word [8], .of [0, 2, 5, 6]] ] ]
            , .all
              [ .word [6]
              , .anyOf
                [ .all [.word [0], .of [1, 2, 3, 5, 6, 7, 8, 9]]
                , .all [.word [1], .of [0, 2, 4, 5, 6, 7, 8, 9]]
                , .all [.word [2], .of [0, 3, 6, 8, 9]]
                , .all [.word [3], .of [0, 1, 6]]
                , .all [.word [4], .of [0, 1, 5, 6]]
                , .all [.word [5], .of [0, 1, 6, 7, 9]]
                , .all [.word [6], .of [0, 1, 2, 7, 9]], .word [7, 8]
                , .all [.word [8], .of [0, 1, 2, 6, 9]] ] ]
            , .all
              [ .word [7]
              , .anyOf
                [ .all [.word [0], .of [1, 2, 3, 4, 6, 7, 8]]
                , .all [.word [1], .of [2, 3, 4, 5, 6, 7, 8, 9]]
                , .all [.word [2], .of [0, 4, 5, 6, 7, 8]]
                , .all [.word [3], .of [0, 1, 2, 4, 7, 8]]
                , .all [.word [4], .of [0, 3, 7, 8]]
                , .all [.word [5], .of [4, 7]]
                , .all [.word [6], .of [0, 2, 3, 5, 9]]
                , .all [.word [7], .of [0, 1, 2, 3, 4, 5, 9]]
                , .all [.word [8], .of [1, 5, 6]] ] ]
            , .all
              [ .word [8]
              , .anyOf
                [ .all [.word [0], .of [1, 2, 3, 4, 5, 6, 8]]
                , .all [.word [1], .of [0, 2, 3, 4, 5, 6, 7, 8]]
                , .all [.word [2], .of [0, 1, 6, 8]]
                , .all [.word [3], .of [0, 1, 2, 5, 8, 9]]
                , .all [.word [4], .of [0, 3, 5, 7, 8]]
                , .all [.word [5], .of [0, 4, 6, 7, 8, 9]]
                , .all [.word [6], .of [0, 2, 3, 4, 5]]
                , .all [.word [7], .of [0, 2, 8]] ] ]
            , .all
              [ .word [9]
              , .anyOf
                [ .all [.word [0], .of [1, 3, 4, 6, 7, 8, 9]]
                , .all [.word [1], .of [0, 2, 3, 4, 5, 6, 7, 8, 9]]
                , .all [.word [2], .of [0, 5, 8, 9]]
                , .all [.word [3], .of [0, 1, 4, 6, 7, 8]]
                , .all [.word [4], .of [0, 1, 3, 5, 7, 8, 9]]
                , .all [.word [5], .of [1, 2, 4, 6, 9]]
                , .all [.word [7], .of [0, 1, 2, 3, 5, 8, 9]]
                , .all [.word [8], .of [0, 4, 5, 6, 9]] ] ] ]
          , .of [2, 3, 4, 5, 6, 7, 8, 9], .free 6 ] ] }

/- Numbers free for the caller. -/
def tollFree : NumberClass :=
  { lengths := [10]
    pattern :=
      .all
        [ .word [8]
        , .anyOf
          [ .word [0, 0], .word [3, 3], .word [4, 4], .word [5, 5]
          , .word [6, 6], .word [7, 7], .word [8, 8] ]
        , .of [2, 3, 4, 5, 6, 7, 8, 9], .free 6 ] }

/- Numbers at a premium rate. -/
def premium : NumberClass :=
  { lengths := [10]
    pattern :=
      .all [.word [9, 0, 0], .of [2, 3, 4, 5, 6, 7, 8, 9], .free 6] }

/- Personal numbers. -/
def personal : NumberClass :=
  { lengths := [10]
    pattern :=
      .anyOf
        [ .all
          [ .word [5, 2]
          , .anyOf
            [ .all
              [ .word [3]
              , .anyOf
                [ .all
                  [ .of [2, 3, 4, 6, 7, 8, 9]
                  , .of [0, 2, 3, 4, 5, 6, 7, 8, 9], .free 1 ]
                , .all
                  [ .word [5]
                  , .anyOf
                    [ .all [.of [0, 2, 3, 4, 6, 7, 8, 9], .free 1]
                    , .all [.word [5], .of [0, 1, 2, 3, 4, 6, 7, 8, 9]] ] ] ] ]
            , .all
              [ .word [4]
              , .anyOf
                [ .all
                  [ .of [2, 3, 4, 7, 8], .of [0, 2, 3, 4, 5, 6, 7, 8, 9]
                  , .free 1 ]
                , .all
                  [ .word [5]
                  , .anyOf
                    [ .all [.of [0, 3, 4], .free 1]
                    , .all [.word [2], .of [0, 2, 4, 5, 6, 7, 8, 9]]
                    , .all [.word [5], .of [0, 1, 2, 3, 4, 6, 7, 8, 9]] ] ]
                , .all
                  [ .word [6]
                  , .anyOf
                    [ .all [.word [0], .of [1, 2, 3, 4, 5, 6, 7, 8, 9]]
                    , .all [.of [2, 3, 4, 5, 6, 7, 8, 9], .free 1] ] ]
                , .all
                  [ .word [9]
                  , .anyOf
                    [ .all [.of [0, 5, 6, 7, 8, 9], .free 1]
                    , .all [.word [2], .of [0, 1, 2, 3, 4, 5]]
                    , .word [4, 9] ] ] ] ] ]
          , .free 4 ]
        , .all
          [ .word [5, 2], .of [3, 4], .of [2, 3, 4, 5, 6, 7, 8, 9]
          , .word [1], .of [0, 2, 3, 4, 5, 6, 7, 8, 9], .free 4 ]
        , .all
          [ .word [5]
          , .anyOf
            [ .word [0, 0], .all [.word [2], .of [1, 2, 5, 6, 7, 8, 9]]
            , .all [.word [3], .of [2, 3]], .word [4, 4], .word [6, 6]
            , .word [7, 7], .word [8, 8] ]
          , .of [2, 3, 4, 5, 6, 7, 8, 9], .free 6 ] ] }

------------------------------------------------------------
-- Layouts
------------------------------------------------------------

/- How numbers are written. -/
def layouts : List Layout :=
  [ { start := .word [3, 1, 0]
      groups := [⟨"", 3⟩, ⟨"-", 4⟩] }
  , { start := .anyOf
                [ .of [2, 4, 5, 6, 7, 8, 9]
                , .all
                  [ .word [3]
                  , .anyOf
                    [ .of [0, 2, 3, 4, 5, 6, 7, 8, 9]
                    , .all [.word [1], .of [1, 2, 3, 4, 5, 6, 7, 8, 9]] ] ] ]
      groups := [⟨"", 3⟩, ⟨"-", 4⟩] }
  , { start := .of [2, 3, 4, 5, 6, 7, 8, 9]
      groups := [⟨"(", 3⟩, ⟨") ", 3⟩, ⟨"-", 4⟩] } ]

/- How numbers are written with their calling code. -/
def abroadLayouts : List Layout :=
  [ { start := .word [3, 1, 0]
      groups := [⟨"", 3⟩, ⟨"-", 4⟩] }
  , { start := .of [2, 3, 4, 5, 6, 7, 8, 9]
      groups := [⟨"", 3⟩, ⟨"-", 3⟩, ⟨"-", 4⟩] } ]

------------------------------------------------------------
-- The plan
------------------------------------------------------------

/- The numbering plan of the United States. -/
def plan : Plan :=
  { region := "US"
    callingCode := [1]
    exitDigits := [0, 1, 1]
    trunkDigits := [[1]]
    general := general
    localLengths := [7]
    classes :=
      [ geographic, tollFree, premium, personal ]
    layouts := layouts
    abroadLayouts := abroadLayouts
    extensionMark := " ext. " }

end UnitedStates

end Phone

end RecordRules
