import RecordRules.Text.Blank
import RecordRules.Text.CaseTable
import RecordRules.Text.Letter

/-
  Capital and small letters.

  Main declarations:
    * `Text.lowerChar`, the one-to-one small form of a character
    * `Text.lower` and `Text.upper`, whole texts, where a capital
      may be several characters and a sigma that ends a word has a
      form of its own
    * `Text.toTitleCase`, capitals at the start of every word
-/

namespace RecordRules

namespace Text

/- The change of case that the runs give a code point, if any. -/
def CaseRun.search
    (runs : Array CaseRun)
    (point : Nat)
    (low high : Nat) : Option Nat :=
  if _h : low < high then
    let middle := (low + high) / 2
    match runs[middle]? with
    | none => none
    | some run =>
      if point < run.first then
        CaseRun.search runs point low middle
      else if run.last < point then
        CaseRun.search runs point (middle + 1) high
      else if (point - run.first) % run.step = 0 then
        some (point + run.offset).toNat
      else
        none
  else
    none
termination_by high - low
decreasing_by all_goals omega

/-
  The one-to-one small form of a character; a character without
  one is its own. The dotted capital I has the plain small i.
-/
def lowerChar (c : Char) : Char :=
  if c.toNat < 128 then
    if 65 ≤ c.toNat ∧ c.toNat ≤ 90 then
      Char.ofNat (c.toNat + 32)
    else
      c
  else if c.toNat = 0x130 then
    'i'
  else
    match CaseRun.search lowerRuns c.toNat 0 lowerRuns.size with
    | some point => Char.ofNat point
    | none => c

/- The capital form of a character, which may be several. -/
def upperChar (c : Char) : List Char :=
  if c.toNat < 128 then
    if 97 ≤ c.toNat ∧ c.toNat ≤ 122 then
      [Char.ofNat (c.toNat - 32)]
    else
      [c]
  else
    match upperWords.find? fun entry => entry.1 == c.toNat with
    | some entry => entry.2.map Char.ofNat
    | none =>
      match CaseRun.search upperRuns c.toNat 0 upperRuns.size with
      | some point => [Char.ofNat point]
      | none => [c]

/- Whether a character is passed over when looking for case. -/
def isCaseIgnorable (c : Char) : Bool :=
  if c.toNat < 128 then
    c == '\x27' || c == '.' || c == ':' || c == '^' || c.toNat == 96
  else
    caseIgnorable.contains c.toNat

/- Whether a character carries case. -/
def isCased (c : Char) : Bool :=
  if c.toNat < 128 then
    isAsciiLetter c
  else
    casedMarks.contains c.toNat

/- Whether the first character that counts carries case. -/
def meetsCased (cs : List Char) : Bool :=
  match cs.dropWhile isCaseIgnorable with
  | [] => false
  | c :: _ => isCased c

/-
  Small letters. `before` holds the characters already passed, the
  nearest first: a capital sigma after a cased character and not
  before one takes the form that ends a word.
-/
def lowerAfter
    (before : List Char) : List Char → List Char
  | [] => []
  | c :: rest =>
    let small :=
      if c.toNat = 0x3a3 then
        if meetsCased before && !meetsCased rest then
          [Char.ofNat 0x3c2]
        else
          [Char.ofNat 0x3c3]
      else if c.toNat = 0x130 then
        ['i', Char.ofNat 0x307]
      else
        [lowerChar c]
    small ++ lowerAfter (c :: before) rest

/- A text in small letters. -/
def lower (cs : List Char) : List Char :=
  lowerAfter [] cs

/- A text in capital letters. -/
def upper (cs : List Char) : List Char :=
  cs.flatMap upperChar

/-
  A text whose words start with a capital. A word runs from a word
  character to the next blank; the rest of it is in small letters.
-/
def toTitleCase : List Char → List Char
  | [] => []
  | c :: rest =>
    if isWordChar c then
      upperChar c ++ lower (rest.takeWhile (!isBlank ·)) ++
        toTitleCase (rest.dropWhile (!isBlank ·))
    else
      c :: toTitleCase rest
termination_by cs => cs.length
decreasing_by
  · have := (List.dropWhile_suffix (!isBlank ·) (l := rest)).length_le
    simp only [List.length_cons]
    omega
  · simp

end Text

end RecordRules
