import RecordRules.Pattern.Reader

/-
  Matching a pattern by trying its possibilities in order.

  Main declarations:
    * `Pattern.State`, a position with what the groups have matched
    * `Pattern.Matcher`, what to try given what has to follow
    * `Pattern.Expr.matcher`
    * `Pattern.Match` and `Pattern.Compiled.search?`
-/

namespace RecordRules

namespace Pattern

open Text

------------------------------------------------------------
-- Positions
------------------------------------------------------------

/-
  A position in the text. `starts` and `ends` hold where each
  group was last entered and left.
-/
structure State where
  position : Nat
  starts : Array (Option Nat)
  ends : Array (Option Nat)

/- A position with no group matched. -/
def State.at
    (groups : Nat)
    (position : Nat) : State :=
  { position
    starts := Array.replicate groups none
    ends := Array.replicate groups none }

/- Where a group that has matched starts and ends. -/
def State.span?
    (s : State)
    (index : Nat) : Option (Nat × Nat) := do
  let first ← (s.starts[index - 1]?).join
  let last ← (s.ends[index - 1]?).join
  if first ≤ last then some (first, last) else none

/- Enters a group. -/
def State.enter
    (s : State)
    (index : Nat) : State :=
  { s with
    starts := s.starts.setIfInBounds (index - 1) (some s.position) }

/- Leaves a group. -/
def State.leave
    (s : State)
    (index : Nat) : State :=
  { s with
    ends := s.ends.setIfInBounds (index - 1) (some s.position) }

/- A number of characters further on. -/
def State.advance
    (s : State)
    (count : Nat) : State :=
  { s with position := s.position + count }

------------------------------------------------------------
-- Matchers
------------------------------------------------------------

/- What is to follow a match, and whether it succeeds. -/
abbrev Rest :=
  State → Option State

/- A way to match, given what is to follow. -/
abbrev Matcher :=
  State → Rest → Option State

/- A match on its own, with nothing to follow. -/
def Matcher.alone
    (m : Matcher)
    (s : State) : Option State :=
  m s some

/- Whether a character is a word character at an edge. -/
def isEdgeWord
    (asciiOnly : Bool)
    (c : Option Char) : Bool :=
  c.any (Category.word.holds asciiOnly ·)

/- The character before a position. -/
def previous?
    (text : Array Char)
    (position : Nat) : Option Char :=
  if position = 0 then none else text[position - 1]?

/- Whether the words change at a position. -/
def atWordEdge
    (text : Array Char)
    (asciiOnly : Bool)
    (position : Nat) : Bool :=
  isEdgeWord asciiOnly (previous? text position) !=
    isEdgeWord asciiOnly text[position]?

/- Whether a condition holds at a position. -/
def Anchor.holds
    (text : Array Char)
    (position : Nat) : Anchor → Bool
  | textStart => position == 0
  | lineStart =>
    position == 0 || previous? text position == some '\n'
  | textEnd => position == text.size
  | lastLineEnd =>
    position == text.size ||
      (position + 1 == text.size && text[position]? == some '\n')
  | lineEnd =>
    position == text.size || text[position]? == some '\n'
  | wordEdge asciiOnly =>
    !text.isEmpty && atWordEdge text asciiOnly position
  | noWordEdge asciiOnly =>
    !text.isEmpty && !atWordEdge text asciiOnly position

/- Whether a stretch of the text equals another, up to case. -/
def sameStretch
    (text : Array Char)
    (fold : Fold)
    (first position : Nat) : Nat → Bool
  | 0 => true
  | count + 1 =>
    match text[first]?, text[position]? with
    | some c, some d =>
      fold.key c == fold.key d &&
        sameStretch text fold (first + 1) (position + 1) count
    | _, _ => false

/- How many characters from a position on pass a test. -/
def runLength
    (text : Array Char)
    (test : CharTest)
    (position : Nat) : Nat → Nat
  | 0 => 0
  | fuel + 1 =>
    if text[position]?.any test.accepts then
      runLength text test (position + 1) fuel + 1
    else
      0

/- Tries lengths from the longest down to the least. -/
def tryLonger
    (s : State)
    (rest : Rest)
    (least : Nat) : Nat → Option State
  | 0 => if least = 0 then rest s else none
  | count + 1 =>
    if count + 1 < least then
      none
    else
      match rest (s.advance (count + 1)) with
      | some found => some found
      | none => tryLonger s rest least count

/- Tries lengths from the given one up, `spare` further ones. -/
def tryShorter
    (s : State)
    (rest : Rest)
    (count : Nat) : Nat → Option State
  | 0 => rest (s.advance count)
  | spare + 1 =>
    match rest (s.advance count) with
    | some found => some found
    | none => tryShorter s rest (count + 1) spare

/- A repetition of a test on one character. -/
def repeatOne
    (text : Array Char)
    (test : CharTest)
    (greed : Greed)
    (least : Nat)
    (most : Option Nat) : Matcher :=
  fun s rest =>
    let room := text.size - s.position
    let count :=
      runLength text test s.position (min room (most.getD room))
    if count < least then
      none
    else
      match greed with
      | .greedy => tryLonger s rest least count
      | .lazy => tryShorter s rest least (count - least)
      | .possessive => rest (s.advance count)

/-
  Rounds of a repetition after the required ones. A round is not
  tried where the round before it started, so that empty rounds
  come to an end.
-/
def moreRounds
    (greed : Greed)
    (body : Matcher)
    (rest : Rest)
    (last : Option Nat)
    (left : Option Nat)
    (s : State) : Nat → Option State
  | 0 => rest s
  | fuel + 1 =>
    let open_ := left != some 0 && last != some s.position
    let again (t : State) : Option State :=
      moreRounds greed body rest (some s.position)
        (left.map (· - 1)) t fuel
    match greed with
    | .greedy =>
      if open_ then
        match body s again with
        | some found => some found
        | none => rest s
      else
        rest s
    | .lazy =>
      match rest s with
      | some found => some found
      | none => if open_ then body s again else none
    | .possessive =>
      if open_ then
        match body.alone s with
        | some t => again t
        | none => rest s
      else
        rest s

/- The required rounds of a repetition, and what follows them. -/
def requiredRounds
    (greed : Greed)
    (body : Matcher)
    (after : Rest) : Nat → State → Option State
  | 0, s => after s
  | count + 1, s =>
    match greed with
    | .possessive =>
      match body.alone s with
      | some t => requiredRounds greed body after count t
      | none => none
    | _ => body s (requiredRounds greed body after count)

/- A repetition. -/
def repeatRounds
    (text : Array Char)
    (greed : Greed)
    (body : Matcher)
    (least : Nat)
    (most : Option Nat) : Matcher :=
  fun s rest =>
    requiredRounds greed body
      (fun t =>
        moreRounds greed body rest none (most.map (· - least)) t
          (text.size + 2))
      least s

/- How a pattern matches in a text. -/
def Expr.matcher (text : Array Char) : Expr → Matcher
  | empty => fun s rest => rest s
  | one test => fun s rest =>
    if text[s.position]?.any test.accepts then
      rest (s.advance 1)
    else
      none
  | anchor a => fun s rest =>
    if a.holds text s.position then rest s else none
  | seq p q => fun s rest =>
    p.matcher text s fun t => q.matcher text t rest
  | choice p q => fun s rest =>
    match p.matcher text s rest with
    | some found => some found
    | none => q.matcher text s rest
  | group index p => fun s rest =>
    p.matcher text (s.enter index) fun t => rest (t.leave index)
  | backref index fold => fun s rest =>
    match s.span? index with
    | none => none
    | some (first, last) =>
      if sameStretch text fold first s.position (last - first) then
        rest (s.advance (last - first))
      else
        none
  | repeated greed least most (.one test) =>
    repeatOne text test greed least most
  | repeated greed least most p =>
    repeatRounds text greed (p.matcher text) least most
  | atomic p => fun s rest =>
    match (p.matcher text).alone s with
    | some t => rest t
    | none => none
  | ahead negated p => fun s rest =>
    match (p.matcher text).alone s with
    | some t =>
      if negated then none else rest { t with position := s.position }
    | none => if negated then rest s else none
  | behind negated width p => fun s rest =>
    let found :=
      if s.position < width.least then
        none
      else
        (p.matcher text).alone
          { s with position := s.position - width.least }
    match found with
    | some t =>
      if negated then none else rest { t with position := s.position }
    | none => if negated then rest s else none
  | conditional index yes no => fun s rest =>
    if (s.span? index).isSome then
      yes.matcher text s rest
    else
      no.matcher text s rest

------------------------------------------------------------
-- Searching
------------------------------------------------------------

/- A match: where it starts, and the state in which it ends. -/
structure Match where
  start : Nat
  final : State

/- The first match that starts at or after a position. -/
def Compiled.searchFrom?
    (pattern : Compiled)
    (text : Array Char)
    (start : Nat) : Nat → Option Match
  | 0 => none
  | fuel + 1 =>
    let m := pattern.expr.matcher text
    match m.alone (State.at pattern.groups start) with
    | some final => some ⟨start, final⟩
    | none => pattern.searchFrom? text (start + 1) fuel

/- The first match in a text. -/
def Compiled.search?
    (pattern : Compiled)
    (text : Array Char) : Option Match :=
  pattern.searchFrom? text 0 (text.size + 1)

/-
  The next match after an empty one: at the same position it must
  not be empty again.
-/
def Compiled.searchPast?
    (pattern : Compiled)
    (text : Array Char)
    (start : Nat) : Option Match :=
  let nonempty (s : State) : Option State :=
    if s.position = start then none else some s
  let m := pattern.expr.matcher text
  match m (State.at pattern.groups start) nonempty with
  | some final => some ⟨start, final⟩
  | none => pattern.searchFrom? text (start + 1) (text.size - start)

end Pattern

end RecordRules
