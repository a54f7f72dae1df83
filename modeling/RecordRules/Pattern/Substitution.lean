import RecordRules.Pattern.Matcher

/-
  Replacing every match of a pattern.

  Main declarations:
    * `Pattern.Piece`, a character or a group of a replacement
    * `Pattern.readTemplate`, a replacement for a pattern
    * `Pattern.Compiled.replaceAll`
-/

namespace RecordRules

namespace Pattern

open Text Numeric

------------------------------------------------------------
-- Replacements
------------------------------------------------------------

/- A part of a replacement. -/
inductive Piece where
  | char (c : Char)
  | group (index : Nat)
deriving DecidableEq

/- A reference to a group, refused if there is no such group. -/
def groupPiece
    (groups : Nat)
    (index : Nat)
    (back : Nat) : Reading Piece := do
  if groups < index then
    failBefore (.invalidGroup index) back
  return .group index

/- A reference to a group by name or number between angles. -/
def readNamedPiece (pattern : Compiled) : Reading Piece := do
  if !(← accept '<') then
    failBefore (.missing "<") 0
  let name ← readUntil '>' "group name"
  let back := name.length + 1
  if isIdentifier name then
    match pattern.names.find? (·.1 == name) with
    | some entry => groupPiece pattern.groups entry.2 back
    | none => throw .noSuchGroup
  else
    match readInteger name with
    | .error _ => failBefore (.badGroupName name) back
    | .ok value =>
      if value < 0 then
        failBefore (.badGroupName name) back
      if twoPow 30 ≤ value.toNat then
        failBefore (.invalidGroup value.toNat) back
      groupPiece pattern.groups value.toNat back

/- A reference by one or two digits, or three octal ones. -/
def readNumberPiece
    (groups : Nat)
    (first : Char) : Reading Piece := do
  let mut digits := [first]
  if let some (.plain second) ← peek then
    if isPlainDigit second then
      let _ ← next
      digits := [first, second]
      if isOctal first && isOctal second then
        if let some (.plain third) ← peek then
          if isOctal third then
            let _ ← next
            let value ← octalValue [first, second, third]
            return .char (Char.ofNat value)
  groupPiece groups (valueOf 10 digits) digits.length

/- The parts that a backslash and the character after it give. -/
def readPiece
    (pattern : Compiled)
    (c : Char) : Reading (List Piece) := do
  if c == 'g' then
    return [← readNamedPiece pattern]
  if c == '0' then
    let more ← takeWhileUpTo isOctal 2
    return [.char (Char.ofNat (valueOf 8 more % 256))]
  if isPlainDigit c then
    return [← readNumberPiece pattern.groups c]
  match controlOf? c with
  | some point => return [.char (Char.ofNat point)]
  | none =>
    if isAsciiLetter c then
      failBefore (.badEscape ['\\', c]) 2
    return [.char '\\', .char c]

/- The parts of a replacement, each after those before it. -/
def readPieces (pattern : Compiled) : Nat → Reading (List Piece)
  | 0 => return []
  | fuel + 1 => do
    match ← next with
    | none => return []
    | some (.plain c) =>
      return .char c :: (← readPieces pattern fuel)
    | some (.escaped c) =>
      let pieces ← readPiece pattern c
      return pieces ++ (← readPieces pattern fuel)

/- A replacement for a pattern, or why it cannot be used. -/
def readTemplate
    (pattern : Compiled)
    (source : List Char) : Except Fault (List Piece) :=
  let reading : Reading (List Piece) := do
    checkEscape
    readPieces pattern (source.length + 1)
  (reading.run (Scan.start source)).map (·.1)

------------------------------------------------------------
-- Replacing
------------------------------------------------------------

/- A stretch of a text. -/
def stretch
    (text : Array Char)
    (first last : Nat) : List Char :=
  (text.extract first last).toList

/- The text of a part; a group that has not matched is empty. -/
def Piece.expand
    (text : Array Char)
    (m : Match) : Piece → List Char
  | char c => [c]
  | group 0 => stretch text m.start m.final.position
  | group index =>
    match m.final.span? index with
    | some (first, last) => stretch text first last
    | none => []

/-
  The text from `done` on with every match replaced. The search
  goes on at the end of a match, and past an empty one only with a
  longer match or at a later position.
-/
def Compiled.replaceFrom
    (pattern : Compiled)
    (pieces : List Piece)
    (text : Array Char)
    (done : Nat)
    (wasEmpty : Bool) : Nat → List Char
  | 0 => stretch text done text.size
  | fuel + 1 =>
    let found :=
      if wasEmpty then
        pattern.searchPast? text done
      else
        pattern.searchFrom? text done (text.size + 1 - done)
    match found with
    | none => stretch text done text.size
    | some m =>
      let after := m.final.position
      stretch text done m.start ++ pieces.flatMap (·.expand text m) ++
        pattern.replaceFrom pieces text after (after == m.start) fuel

/- A text with every match of a pattern replaced. -/
def Compiled.replaceAll
    (pattern : Compiled)
    (pieces : List Piece)
    (text : List Char) : List Char :=
  pattern.replaceFrom pieces text.toArray 0 false
    (2 * text.length + 2)

/-
  A text with every match of a pattern replaced, both given by
  their source.
-/
def substitute
    (search replacement : List Char)
    (text : List Char) : Except Fault (List Char) := do
  let pattern ← compile search
  let pieces ← readTemplate pattern replacement
  return pattern.replaceAll pieces text

end Pattern

end RecordRules
