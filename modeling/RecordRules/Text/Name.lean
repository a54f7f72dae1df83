import RecordRules.Text.Digit
import RecordRules.Text.NameTable
import RecordRules.Text.Ranges

/-
  Characters by their names.

  Main declarations:
    * `Text.ListedName.next`, how a list of names is read
    * `Text.listedCode?`, the characters whose names are listed
    * `Text.unifiedIdeograph?` and `Text.CodeNames`, characters
      named after their code points
    * `Text.hangulSyllable?`, syllables named after their sounds
    * `Text.characterNamed?`
-/

namespace RecordRules

namespace Text

------------------------------------------------------------
-- Listed names
------------------------------------------------------------

/- A name as its words, with the code point that it belongs to. -/
structure ListedName where
  code : Nat
  words : List (List Char)

/- What stands before the first name of a list. -/
def ListedName.start : ListedName :=
  ⟨0, []⟩

/- The words of a name that is listed after another one. -/
def ListedName.wordsAfter
    (last : ListedName)
    (name : List Char) : List (List Char) :=
  match name with
  | [] => []
  | c :: rest =>
    match asciiDigit? c with
    | some shared => last.words.take shared ++ rest.splitOn ' '
    | none => name.splitOn ' '

/- The name that an entry of a list adds to the one before it. -/
def ListedName.next
    (last : ListedName)
    (entry : List Char) : ListedName :=
  match entry.splitOn '=' with
  | [code, name] => ⟨valueOf 16 code, last.wordsAfter name⟩
  | _ => ⟨last.code + 1, last.wordsAfter entry⟩

/- The code point of a name among the entries of a list. -/
def codeAmong?
    (words : List (List Char))
    (last : ListedName) : List (List Char) → Option Nat
  | [] => none
  | entry :: entries =>
    let name := last.next entry
    if name.words = words then
      some name.code
    else
      codeAmong? words name entries

/- The entries of the lines of a list. -/
def entriesOf (lines : List String) : List (List Char) :=
  lines.flatMap fun line => line.toList.splitOn ','

/- The code point of a name that some list has, in capitals. -/
def listedCode? (name : List Char) : Option Nat :=
  nameTable.findSome? fun lines =>
    codeAmong? (name.splitOn ' ') .start (entriesOf lines)

------------------------------------------------------------
-- Names that hold the code point
------------------------------------------------------------

/- The ideographs that the East Asian scripts have in common. -/
def unifiedIdeographs : RangeTable :=
  ⟨#[
    (0x3400, 0x4dbf), (0x4e00, 0x9fff), (0x20000, 0x2a6df),
    (0x2a700, 0x2b738), (0x2b740, 0x2b81d), (0x2b820, 0x2cea1),
    (0x2ceb0, 0x2ebe0), (0x30000, 0x3134a)
  ]⟩

/- Whether a character is a hexadecimal digit and no small letter. -/
def isCapitalHex (c : Char) : Bool :=
  (hexValue? c).isSome && c.toNat < 97

/- The code point of such an ideograph by four or five digits. -/
def unifiedIdeograph? (name : List Char) : Option Nat := do
  let digits ← "CJK UNIFIED IDEOGRAPH-".toList.isPrefixOf? name
  let code := valueOf 16 digits
  if (digits.length = 4 ∨ digits.length = 5) ∧
      digits.all isCapitalHex ∧ unifiedIdeographs.contains code then
    some code
  else
    none

/- A family of characters that are named after their code points. -/
structure CodeNames where
  stem : String
  codes : RangeTable

/- The families whose names are read in any case. -/
def codeNames : List CodeNames :=
  [
    ⟨"CJK COMPATIBILITY IDEOGRAPH-",
      ⟨#[(0xf900, 0xfa6d), (0xfa70, 0xfad9), (0x2f800, 0x2fa1d)]⟩⟩,
    ⟨"KHITAN SMALL SCRIPT CHARACTER-", ⟨#[(0x18b00, 0x18cd5)]⟩⟩,
    ⟨"NUSHU CHARACTER-", ⟨#[(0x1b170, 0x1b2fb)]⟩⟩
  ]

/- An ASCII letter as a capital one. -/
def asciiCapital (c : Char) : Char :=
  if 97 ≤ c.toNat ∧ c.toNat ≤ 122 then
    Char.ofNat (c.toNat - 32)
  else
    c

/- The code point of a name of a family, in capitals. -/
def CodeNames.code?
    (family : CodeNames)
    (name : List Char) : Option Nat := do
  let digits ← family.stem.toList.isPrefixOf? name
  let code := valueOf 16 digits
  if digits = (Nat.toDigits 16 code).map asciiCapital ∧
      family.codes.contains code then
    some code
  else
    none

------------------------------------------------------------
-- Korean syllables
------------------------------------------------------------

/- Spellings of what a syllable starts with, in their order. -/
def firstSounds : List String :=
  [
    "G", "GG", "N", "D", "DD", "R", "M", "B", "BB", "S", "SS", "", "J",
    "JJ", "C", "K", "T", "P", "H"
  ]

/- Spellings of its vowels. -/
def middleSounds : List String :=
  [
    "A", "AE", "YA", "YAE", "EO", "E", "YEO", "YE", "O", "WA", "WAE",
    "OE", "YO", "U", "WEO", "WE", "WI", "YU", "EU", "YI", "I"
  ]

/- Spellings of what it ends with. -/
def lastSounds : List String :=
  [
    "", "G", "GG", "GS", "N", "NJ", "NH", "D", "L", "LG", "LM", "LB",
    "LS", "LT", "LP", "LH", "M", "B", "BS", "S", "SS", "NG", "J", "C",
    "K", "T", "P", "H"
  ]

/-
  The longest spelling that a text starts with: its place in the
  list, and what is left of the text.
-/
def longestSound?
    (sounds : List String)
    (cs : List Char) : Option (Nat × List Char) :=
  let fitting := sounds.zipIdx.filterMap fun (sound, place) =>
    (sound.toList.isPrefixOf? cs).map fun rest => (place, rest)
  fitting.foldl
    (fun best found =>
      match best with
      | none => some found
      | some kept =>
        if found.2.length < kept.2.length then some found else best)
    none

/- The code point of a Korean syllable by the sounds of its parts. -/
def hangulSyllable? (name : List Char) : Option Nat := do
  let rest ← "HANGUL SYLLABLE ".toList.isPrefixOf? name
  let (first, rest) ← longestSound? firstSounds rest
  let (middle, rest) ← longestSound? middleSounds rest
  let (final, rest) ← longestSound? lastSounds rest
  if rest.isEmpty then
    some (0xac00 + (first * 21 + middle) * 28 + final)
  else
    none

------------------------------------------------------------
-- All names
------------------------------------------------------------

/-
  The code point of a name. The case of letters does not matter,
  other than in names of unified ideographs and of syllables.
-/
def characterNamed? (name : List Char) : Option Nat :=
  let capitals := name.map asciiCapital
  unifiedIdeograph? name <|> hangulSyllable? name <|>
    codeNames.findSome? (·.code? capitals) <|> listedCode? capitals

end Text

end RecordRules
