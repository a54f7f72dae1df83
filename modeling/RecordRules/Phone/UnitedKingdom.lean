import RecordRules.Phone.Plan

/-
  The numbering plan of the United Kingdom.

  Main declaration:
    * `Phone.UnitedKingdom.plan`
-/

namespace RecordRules

namespace Phone

namespace UnitedKingdom

------------------------------------------------------------
-- Classes of numbers
------------------------------------------------------------

/- Numbers of every kind. -/
def general : NumberClass :=
  { lengths := [7, 9, 10]
    pattern :=
      .anyOf
        [ .all [.of [1, 2, 3, 5, 7, 8, 9], .free 9]
        , .all [.of [1, 8], .free 8], .all [.word [8], .free 6] ] }

/- Fixed lines. -/
def fixed : NumberClass :=
  { lengths := [9, 10]
    pattern :=
      .anyOf
        [ .all
          [ .anyOf
            [ .all
              [ .word [1]
              , .anyOf
                [ .all
                  [ .word [1]
                  , .anyOf
                    [ .all
                      [ .word [3]
                      , .anyOf
                        [ .all [.of [0, 1, 2, 3, 4, 5, 8], .free 2]
                        , .all [.word [7, 3], .of [0, 1, 2, 3, 4, 5]] ] ]
                    , .all
                      [ .word [4]
                      , .anyOf
                        [ .all
                          [ .anyOf
                            [ .all [.of [0, 1, 2, 3, 4, 5], .free 1]
                            , .word [7, 0] ]
                          , .free 1 ]
                        , .all [.word [6, 9], .of [7, 8, 9]] ] ]
                    , .all
                      [ .anyOf
                        [ .all
                          [ .anyOf
                            [ .all [.word [5], .of [0, 1, 2, 6, 7, 8, 9]]
                            , .all [.of [7, 8], .of [0, 1, 2, 3, 4, 9]] ]
                          , .free 1 ]
                        , .all
                          [ .word [6]
                          , .anyOf
                            [ .all [.of [0, 1, 2, 3, 4], .free 1]
                            , .all [.word [5], .of [0, 1]] ] ] ]
                      , .free 1 ] ] ]
                , .all
                  [ .anyOf
                    [ .all
                      [ .word [2]
                      , .anyOf
                        [ .all
                          [ .anyOf
                            [ .all
                              [ .word [0], .of [0, 2, 4, 5, 6, 7, 8, 9] ]
                            , .all [.word [2], .of [3, 4, 5, 6, 7, 8, 9]]
                            , .all [.word [3], .of [3, 4, 5, 6, 7, 9]]
                            , .all
                              [ .word [4], .of [1, 2, 3, 4, 5, 6, 8, 9] ]
                            , .all
                              [ .of [5, 8]
                              , .of [0, 2, 3, 4, 5, 6, 7, 8, 9] ]
                            , .all
                              [ .word [6], .of [0, 1, 2, 3, 4, 7, 8, 9] ]
                            , .all
                              [ .word [7], .of [0, 1, 3, 4, 5, 6, 7, 8, 9] ]
                            , .all [.word [9], .free 1] ]
                          , .free 1 ]
                        , .all
                          [ .word [1]
                          , .anyOf
                            [ .all [.of [0, 1, 2, 3, 4, 5, 6, 7], .free 1]
                            , .all [.word [8], .of [0, 1, 2, 3]] ] ] ] ]
                    , .all
                      [ .anyOf
                        [ .all
                          [ .word [3]
                          , .anyOf
                            [ .all [.word [0], .free 1]
                            , .all
                              [ .word [1], .of [0, 1, 2, 3, 4, 5, 6, 7, 8] ]
                            , .all
                              [ .of [2, 5]
                              , .of [0, 2, 3, 4, 5, 6, 7, 8, 9] ]
                            , .all [.word [3], .of [0, 2, 3, 4, 5, 7, 9]]
                            , .all
                              [ .of [4, 6, 8]
                              , .of [0, 1, 2, 3, 4, 6, 7, 8, 9] ]
                            , .all [.word [7], .of [1, 2, 3, 5, 6, 7, 9]]
                            , .all [.word [9], .of [2, 3, 4, 5, 7, 8]] ] ]
                        , .all
                          [ .word [4]
                          , .anyOf
                            [ .all
                              [ .word [0], .of [0, 3, 4, 5, 6, 7, 8, 9] ]
                            , .all [.of [1, 3, 7], .free 1]
                            , .all
                              [ .of [2, 8], .of [0, 2, 3, 4, 5, 7, 8, 9] ]
                            , .all [.word [4], .of [0, 2, 3, 4, 5, 6, 9]]
                            , .all
                              [ .word [5], .of [0, 1, 2, 3, 4, 5, 6, 7, 8] ]
                            , .all
                              [ .of [6, 9]
                              , .of [0, 1, 2, 3, 4, 5, 6, 7, 9] ] ] ]
                        , .all
                          [ .word [5]
                          , .anyOf
                            [ .all
                              [ .word [0], .of [1, 2, 3, 5, 6, 7, 8, 9] ]
                            , .all [.of [1, 6], .free 1]
                            , .all
                              [ .word [2], .of [0, 2, 4, 5, 6, 7, 8, 9] ]
                            , .all [.word [3], .of [0, 1, 5, 6, 8, 9]]
                            , .all
                              [ .word [4], .of [0, 2, 3, 4, 5, 6, 7, 8, 9] ]
                            , .all
                              [ .word [5], .of [0, 3, 4, 5, 6, 7, 8, 9] ]
                            , .all
                              [ .word [7], .of [0, 1, 2, 3, 5, 6, 7, 8, 9] ]
                            , .all [.word [8], .of [0, 1, 2, 3, 4, 6, 8]]
                            , .all
                              [ .word [9], .of [0, 1, 2, 3, 4, 5, 7, 8, 9] ] ] ]
                        , .all
                          [ .word [6]
                          , .anyOf
                            [ .all [.word [0], .of [0, 3, 4, 6, 8, 9]]
                            , .all [.word [1], .free 1]
                            , .all
                              [ .word [2], .of [0, 1, 2, 3, 5, 6, 8, 9] ]
                            , .all
                              [ .of [3, 8]
                              , .of [0, 1, 3, 4, 5, 6, 7, 8, 9] ]
                            , .all [.word [4], .of [1, 2, 3, 4, 6, 7]]
                            , .all
                              [ .word [5], .of [0, 1, 2, 3, 4, 5, 6, 9] ]
                            , .all
                              [ .word [6], .of [1, 3, 4, 5, 6, 7, 8, 9] ]
                            , .all
                              [ .word [7], .of [0, 1, 2, 3, 4, 5, 6, 7, 8] ]
                            , .all [.word [9], .of [0, 1, 2, 4, 5, 7, 8]] ] ]
                        , .all
                          [ .word [7]
                          , .anyOf
                            [ .all [.word [0], .of [0, 2, 4, 6, 7, 8, 9]]
                            , .all [.word [2], .free 1]
                            , .all [.word [3], .of [0, 2, 3, 6, 7, 8]]
                            , .all
                              [ .word [4], .of [0, 3, 4, 5, 6, 7, 8, 9] ]
                            , .all
                              [ .word [5], .of [0, 1, 2, 3, 4, 6, 7, 8, 9] ]
                            , .all
                              [ .word [6], .of [0, 1, 3, 4, 5, 6, 7, 8, 9] ]
                            , .all
                              [ .word [7], .of [0, 1, 2, 3, 5, 6, 7, 8, 9] ]
                            , .all
                              [ .word [8], .of [0, 2, 4, 5, 6, 7, 8, 9] ]
                            , .all
                              [ .word [9], .of [0, 2, 3, 4, 5, 6, 7, 8, 9] ] ] ]
                        , .all
                          [ .word [8]
                          , .anyOf
                            [ .all [.word [0], .of [3, 5, 6, 7, 8, 9]]
                            , .all
                              [ .word [2], .of [1, 2, 3, 4, 5, 7, 8, 9] ]
                            , .all [.word [3], .of [0, 2, 3, 4, 5, 7, 8]]
                            , .all
                              [ .word [4], .of [0, 1, 2, 3, 4, 5, 7, 8] ]
                            , .all
                              [ .word [5], .of [1, 2, 4, 5, 6, 7, 8, 9] ]
                            , .all [.word [6], .of [2, 3, 4, 5, 6, 9]]
                            , .all [.word [7], .free 1]
                            , .all
                              [ .word [8], .of [0, 2, 3, 4, 5, 6, 7, 8, 9] ]
                            , .all [.word [9], .of [0, 2, 5, 6, 9]] ] ]
                        , .all
                          [ .word [9]
                          , .anyOf
                            [ .all [.word [0], .of [0, 2, 3, 4, 5, 8, 9]]
                            , .all [.of [1, 8], .free 1]
                            , .all
                              [ .word [2], .of [0, 2, 3, 4, 5, 6, 8, 9] ]
                            , .all
                              [ .word [3], .of [1, 2, 3, 4, 5, 7, 8, 9] ]
                            , .all
                              [ .word [4], .of [2, 3, 4, 5, 6, 7, 8, 9] ]
                            , .all
                              [ .word [5], .of [0, 1, 2, 3, 4, 5, 7, 9] ]
                            , .all [.word [6], .of [2, 3, 4, 7, 8, 9]]
                            , .all [.word [7], .of [0, 1, 2, 4, 5, 7, 8]]
                            , .all [.word [9], .of [2, 3, 4, 5, 7]] ] ] ]
                      , .free 1 ] ]
                  , .free 1 ] ] ]
            , .all
              [ .word [2]
              , .anyOf
                [ .all [.word [0], .of [0, 1, 3, 4, 7, 8]]
                , .all [.word [3], .of [0, 1, 8, 9]]
                , .all [.word [4], .of [0, 1, 7]]
                , .all [.word [8], .of [0, 1, 2, 3, 4, 6, 7, 8, 9]]
                , .all [.word [9], .of [0, 1, 2]] ]
              , .free 3 ] ]
          , .free 4 ]
        , .all
          [ .word [1]
          , .anyOf
            [ .all
              [ .word [2]
              , .anyOf
                [ .all
                  [ .word [0]
                  , .anyOf
                    [ .all [.word [4, 6], .of [1, 2, 3, 4]]
                    , .all [.word [8, 7], .of [2, 3, 4, 5, 6, 7, 8, 9]] ] ]
                , .all [.word [5, 4, 5], .of [1, 2, 3, 4, 5, 6, 7, 9]]
                , .all
                  [ .word [7, 6]
                  , .anyOf
                    [ .all [.word [2], .free 1]
                    , .all [.word [3], .of [1, 2, 3, 4, 5, 6, 7, 8]]
                    , .all [.word [6], .of [1, 2, 3, 4, 5, 6]] ] ]
                , .all
                  [ .word [9]
                  , .anyOf
                    [ .all
                      [ .word [7]
                      , .anyOf
                        [ .all [.word [2], .of [0, 1, 2, 3, 4]]
                        , .all [.word [3], .of [2, 3, 4, 5]] ] ]
                    , .all
                      [ .word [8]
                      , .anyOf
                        [ .all [.word [2], .of [2, 3, 4, 5, 6, 7, 8]]
                        , .all [.word [7], .of [0, 1, 2, 3, 4, 7, 8, 9]]
                        , .all [.word [8], .of [3, 4, 5]] ] ] ] ] ] ]
            , .all
              [ .word [3]
              , .anyOf
                [ .all
                  [ .word [6]
                  , .anyOf
                    [ .all [.word [3, 8], .of [2, 3, 4, 5]]
                    , .all [.word [4, 7], .of [2, 3]] ] ]
                , .all
                  [ .word [8]
                  , .anyOf
                    [ .all [.word [4, 7], .of [0, 4, 5, 6, 7, 8, 9]]
                    , .all [.word [6, 4], .of [0, 1, 5, 7, 8, 9]] ] ] ] ]
            , .all
              [ .word [4]
              , .anyOf
                [ .all [.word [0, 4, 4], .of [1, 2, 3, 4, 5, 6, 7]]
                , .all
                  [ .word [2, 0]
                  , .anyOf
                    [ .all [.word [2], .of [2, 3]]
                    , .all [.word [8], .free 1] ] ]
                , .all
                  [ .word [6]
                  , .anyOf
                    [ .all
                      [ .word [0]
                      , .anyOf
                        [ .word [3, 0]
                        , .all [.word [5], .of [2, 3, 4, 5, 7]]
                        , .all [.word [6], .of [1, 2, 3, 4, 5, 6, 7, 8]]
                        , .all [.word [7], .of [2, 3, 4, 5, 6, 7, 8]] ] ]
                    , .word [1, 4, 0] ] ]
                , .all
                  [ .word [8]
                  , .anyOf
                    [ .word [0, 5, 2], .all [.word [8, 7], .of [1, 2, 3]] ] ] ] ]
            , .all
              [ .word [5]
              , .anyOf
                [ .all
                  [ .word [2]
                  , .anyOf
                    [ .all
                      [ .word [4]
                      , .anyOf
                        [ .all [.word [3], .of [2, 3, 4, 5, 6, 7, 9]]
                        , .all [.word [6], .free 1] ] ]
                    , .all [.word [7, 6], .free 1] ] ]
                , .all
                  [ .word [6]
                  , .anyOf
                    [ .all [.word [2, 6], .of [0, 6, 7, 8, 9]]
                    , .word [6, 8, 6] ] ] ] ]
            , .all
              [ .word [6]
              , .anyOf
                [ .all
                  [ .word [0, 6]
                  , .anyOf
                    [ .all [.word [4], .free 1]
                    , .all [.word [7], .of [4, 5, 6, 7, 9]] ] ]
                , .all [.word [2, 9, 5], .of [5, 6, 7]]
                , .all [.word [3, 5], .of [3, 4], .free 1]
                , .all [.word [4, 7], .anyOf [.word [2, 4], .word [6, 1]]]
                , .all
                  [ .word [5, 9]
                  , .anyOf
                    [ .all [.word [5], .of [0, 8]]
                    , .all [.word [6], .of [6, 7]], .word [7, 4] ] ]
                , .all
                  [ .word [9]
                  , .anyOf
                    [ .all [.word [5, 5], .of [0, 1, 2, 3, 4]]
                    , .all [.word [7, 7], .of [2, 3]] ] ] ] ]
            , .all
              [ .word [7]
              , .anyOf
                [ .all
                  [ .word [2, 6]
                  , .anyOf
                    [ .all [.word [6], .of [1, 3, 4, 5, 6, 7, 8, 9]]
                    , .all [.word [7], .of [0, 1, 2, 3, 4, 5, 6, 7]] ] ]
                , .all
                  [ .anyOf [.word [4, 4, 2], .word [6, 8, 8]], .free 1 ]
                , .all
                  [ .word [5, 0]
                  , .anyOf
                    [ .all [.word [2], .of [0, 1, 2, 3]]
                    , .all [.of [3, 4, 5, 6, 8], .word [2]], .word [7, 6] ] ] ] ]
            , .all
              [ .word [8]
              , .anyOf
                [ .all [.word [2, 7], .of [5, 6], .free 1]
                , .all
                  [ .word [3, 7]
                  , .anyOf
                    [ .all [.word [5], .of [2, 3, 4, 5]]
                    , .all [.word [8], .of [2, 3, 9]] ] ]
                , .all [.word [8, 4, 3], .of [2, 3, 4, 5, 8]] ] ]
            , .all
              [ .word [9]
              , .anyOf
                [ .all
                  [ .word [0]
                  , .anyOf
                    [ .all
                      [ .word [0]
                      , .anyOf
                        [ .all [.word [6], .of [1, 2, 3, 4, 5, 6, 7, 8]]
                        , .word [8, 5] ] ]
                    , .all [.word [5, 2], .free 1] ] ]
                , .word [3, 5, 8, 3]
                , .all
                  [ .word [4]
                  , .anyOf
                    [ .all [.word [6, 6], .of [1, 2, 3, 4, 5, 6, 7, 8]]
                    , .all
                      [ .word [9]
                      , .anyOf
                        [ .all [.word [2], .of [0, 1]], .word [8, 1] ] ] ] ]
                , .all
                  [ .word [6, 3]
                  , .anyOf
                    [ .word [2, 3], .all [.word [3], .of [1, 2, 3, 4]] ] ]
                , .word [9, 5, 6, 1] ] ] ]
          , .free 3 ] ] }

/- Mobile phones. -/
def mobile : NumberClass :=
  { lengths := [10]
    pattern :=
      .anyOf
        [ .all
          [ .word [7]
          , .anyOf
            [ .all [.word [4, 5, 7], .of [0, 1, 2, 3, 4, 5, 7, 8, 9]]
            , .all [.word [7, 0, 0], .of [0, 1]]
            , .all [.word [9, 1, 1], .of [0, 2, 8]] ]
          , .free 5 ]
        , .all
          [ .word [7]
          , .anyOf
            [ .all [.of [1, 2, 3], .free 2]
            , .all
              [ .word [4]
              , .anyOf
                [ .all [.of [0, 1, 2, 3, 4, 6, 7, 8, 9], .free 1]
                , .all [.word [5], .of [0, 1, 2, 3, 4, 5, 6, 8, 9]] ] ]
            , .all
              [ .word [5]
              , .anyOf
                [ .all [.word [0], .of [0, 1, 2, 3, 4, 5, 6, 7, 8]]
                , .all [.of [1, 3, 4, 5, 6, 7, 8, 9], .free 1]
                , .all [.word [2], .of [0, 1, 2, 3, 5, 6, 7, 8, 9]] ] ]
            , .all
              [ .word [7]
              , .anyOf
                [ .all [.word [0], .of [1, 2, 3, 4, 5, 6, 7, 8, 9]]
                , .all [.of [1, 2, 3, 4, 5, 6, 7], .free 1]
                , .all [.word [8], .of [0, 2, 3, 4, 5, 6, 7, 8, 9]]
                , .all [.word [9], .of [0, 1, 2, 3, 4, 5, 6, 8, 9]] ] ]
            , .all
              [ .word [8]
              , .anyOf
                [ .all [.of [0, 1, 4, 5, 6, 7, 8, 9], .free 1]
                , .all [.of [2, 3], .of [0, 1, 2, 3, 4, 5, 6, 7, 8]] ] ]
            , .all
              [ .word [9]
              , .anyOf
                [ .all [.of [0, 2, 4, 5, 6, 7, 8, 9], .free 1]
                , .all [.word [1], .of [0, 2, 3, 4, 5, 6, 7, 8, 9]]
                , .all [.word [3], .of [0, 1, 2, 3, 4, 5, 6, 8, 9]] ] ] ]
          , .free 6 ] ] }

/- Numbers free for the caller. -/
def tollFree : NumberClass :=
  { lengths := [7, 9, 10]
    pattern :=
      .anyOf
        [ .all [.word [8, 0], .of [0, 8], .free 7]
        , .all [.word [8, 0, 0], .free 6], .word [8, 0, 0, 1, 1, 1, 1] ] }

/- Numbers at a premium rate. -/
def premium : NumberClass :=
  { lengths := [7, 10]
    pattern :=
      .anyOf
        [ .all
          [ .anyOf
            [ .all
              [ .word [8]
              , .anyOf
                [ .all [.word [4], .of [2, 3, 4, 5]]
                , .all [.word [7], .of [0, 1, 2, 3]] ] ]
            , .all
              [ .word [9]
              , .anyOf
                [ .all [.of [0, 1], .free 1]
                , .all [.word [8], .of [2, 3, 4, 9]] ] ] ]
          , .free 7 ]
        , .all [.word [8, 4, 5, 4, 6, 4], .free 1] ] }

/- Personal numbers. -/
def personal : NumberClass :=
  { lengths := [10]
    pattern :=
      .all [.word [7, 0], .free 8] }

/- Phones over data networks. -/
def voip : NumberClass :=
  { lengths := [10]
    pattern :=
      .all [.word [5, 6], .free 8] }

/- Pagers. -/
def pager : NumberClass :=
  { lengths := [10]
    pattern :=
      .anyOf
        [ .all
          [ .word [7, 6], .anyOf [.word [4, 6, 4], .word [6, 5, 2]]
          , .free 5 ]
        , .all
          [ .word [7, 6]
          , .anyOf
            [ .all [.word [0], .of [0, 1, 2, 8]]
            , .all [.word [2], .of [3, 5, 6]], .word [3, 4]
            , .all [.word [4], .of [0, 1, 3, 4, 7]]
            , .all [.word [5], .of [4, 9]]
            , .all [.word [6], .of [0, 1, 2, 3, 6, 9]], .word [7, 7]
            , .all [.word [8], .of [1, 4]]
            , .all [.word [9], .of [1, 3, 9]] ]
          , .free 6 ] ] }

/- Numbers for whole companies. -/
def company : NumberClass :=
  { lengths := [10]
    pattern :=
      .all
        [ .anyOf [.all [.word [3], .of [0, 3, 4, 7]], .word [5, 5]]
        , .free 8 ] }

------------------------------------------------------------
-- Layouts
------------------------------------------------------------

/- How numbers are written. -/
def layouts : List Layout :=
  [ { start := .word [8, 0, 0, 1, 1, 1, 1]
      groups := [⟨"", 3⟩, ⟨" ", 4⟩]
      nationalLead := "0" }
  , { start := .word [8, 4, 5, 4, 6, 4]
      groups := [⟨"", 3⟩, ⟨" ", 2⟩, ⟨" ", 2⟩]
      nationalLead := "0" }
  , { start := .word [8, 0, 0]
      groups := [⟨"", 3⟩, ⟨" ", 6⟩]
      nationalLead := "0" }
  , { start := .all
                [ .word [1]
                , .anyOf
                  [ .word [3, 8, 7, 3]
                  , .all
                    [ .word [5]
                    , .anyOf
                      [ .word [2, 4, 2]
                      , .all [.word [3, 9], .of [4, 5, 6]] ] ]
                  , .all
                    [ .anyOf [.word [6, 9, 7], .word [7, 6, 8]]
                    , .of [3, 4, 7] ]
                  , .word [9, 4, 6, 7] ] ]
      groups := [⟨"", 5⟩, ⟨" ", 4⟩]
      slack := 1
      nationalLead := "0" }
  , { start := .all
                [ .word [1]
                , .anyOf
                  [ .all
                    [ .of [2, 3, 4, 5, 6, 9]
                    , .of [0, 2, 3, 4, 5, 6, 7, 8, 9] ]
                  , .of [7, 8] ] ]
      groups := [⟨"", 4⟩, ⟨" ", 5⟩]
      slack := 1
      nationalLead := "0" }
  , { start := .anyOf
                [ .of [2, 5]
                , .all
                  [ .word [7]
                  , .anyOf
                    [ .word [0]
                    , .all
                      [ .word [6]
                      , .anyOf
                        [ .of [0, 3, 4, 5, 6, 7, 8, 9]
                        , .all [.word [2], .of [3, 5, 6]] ] ] ] ] ]
      groups := [⟨"", 2⟩, ⟨" ", 4⟩, ⟨" ", 4⟩]
      nationalLead := "0" }
  , { start := .word [7]
      groups := [⟨"", 4⟩, ⟨" ", 6⟩]
      nationalLead := "0" }
  , { start := .of [1, 3, 8, 9]
      groups := [⟨"", 3⟩, ⟨" ", 3⟩, ⟨" ", 4⟩]
      nationalLead := "0" } ]

------------------------------------------------------------
-- The plan
------------------------------------------------------------

/- The numbering plan of the United Kingdom. -/
def plan : Plan :=
  { region := "GB"
    callingCode := [4, 4]
    exitDigits := [0, 0]
    trunkDigits := [[0], [1, 8, 0, 0, 2, 0]]
    general := general
    localLengths := [4, 5, 6, 8]
    classes :=
      [ fixed, mobile, tollFree, premium, personal, voip, pager, company ]
    layouts := layouts
    abroadLayouts := layouts
    extensionMark := " x" }

end UnitedKingdom

end Phone

end RecordRules
