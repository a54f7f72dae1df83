import RecordRules.Text.Blank
import RecordRules.Text.Case

/-
  Tests on one character.

  Main declarations:
    * `Pattern.Fold`, how far letter case is told apart
    * `Pattern.Category`, digits, blanks, word characters
    * `Pattern.SetItem` and `Pattern.CharTest`
    * `Pattern.CharTest.accepts`
-/

namespace RecordRules

namespace Pattern

open Text

------------------------------------------------------------
-- Letter case
------------------------------------------------------------

/- How far letter case is told apart. -/
inductive Fold where
  | exact
  | ascii
  | everywhere
deriving DecidableEq

/- The small ASCII letter of an ASCII capital. -/
def lowerAscii (c : Char) : Char :=
  if 65 ≤ c.toNat ∧ c.toNat ≤ 90 then
    Char.ofNat (c.toNat + 32)
  else
    c

/- The form in which a character is compared. -/
def Fold.key (fold : Fold) (c : Char) : Char :=
  match fold with
  | .exact => c
  | .ascii => lowerAscii c
  | .everywhere => lowerChar c

/- The small letters that share a capital with a small letter. -/
def kinOf (c : Char) : List Char :=
  match caseKin.find? fun entry => entry.1 == c.toNat with
  | some entry => entry.2.map Char.ofNat
  | none => []

/- The characters whose one-to-one small form is the given one. -/
def capitalsOf (c : Char) : List Char :=
  if c.toNat < 128 then
    let kelvin := if c == 'k' then [Char.ofNat 0x212a] else []
    let dotted := if c == 'i' then [Char.ofNat 0x130] else []
    let plain :=
      if 97 ≤ c.toNat ∧ c.toNat ≤ 122 then
        [Char.ofNat (c.toNat - 32)]
      else
        []
    plain ++ kelvin ++ dotted
  else
    (lowerRuns.toList.map fun run =>
      Char.ofNat ((c.toNat : Int) - run.offset).toNat).filter fun d =>
        d != c && lowerChar d == c

/-
  The characters that a folded character stands for: those with
  its small form or a small form that shares its capital.
-/
def Fold.members (fold : Fold) (key : Char) : List Char :=
  match fold with
  | .exact => [key]
  | .ascii =>
    if 97 ≤ key.toNat ∧ key.toNat ≤ 122 then
      [key, Char.ofNat (key.toNat - 32)]
    else
      [key]
  | .everywhere =>
    (key :: kinOf key).flatMap fun k => k :: capitalsOf k

------------------------------------------------------------
-- Categories
------------------------------------------------------------

/- The classes of characters that have a name of their own. -/
inductive Category where
  | digit
  | blank
  | word
deriving DecidableEq

/- Whether a character is in a class, of ASCII or of any script. -/
def Category.holds
    (category : Category)
    (asciiOnly : Bool)
    (c : Char) : Bool :=
  match category with
  | .digit =>
    if asciiOnly then (asciiDigit? c).isSome else isDecimal c
  | .blank =>
    if asciiOnly then
      c == ' ' || (9 ≤ c.toNat && c.toNat ≤ 13)
    else
      isBlank c
  | .word =>
    isWordChar c && (!asciiOnly || c.toNat < 128)

------------------------------------------------------------
-- Tests
------------------------------------------------------------

/- An entry of a character set: code points, or a class. -/
inductive SetItem where
  | range (first last : Nat)
  | category (kind : Category) (asciiOnly negated : Bool)
deriving DecidableEq

/- A test on one character. -/
inductive CharTest where
  | any (lineEnds : Bool)
  | set (negated : Bool) (items : List SetItem) (fold : Fold)
deriving DecidableEq

/- Whether an entry covers a character in its folded form. -/
def SetItem.accepts
    (item : SetItem)
    (fold : Fold)
    (key : Char) : Bool :=
  match item with
  | .range first last =>
    (fold.members key).any fun c =>
      first ≤ c.toNat && c.toNat ≤ last
  | .category kind asciiOnly negated =>
    kind.holds asciiOnly key != negated

/- Whether a character passes a test. -/
def CharTest.accepts (test : CharTest) (c : Char) : Bool :=
  match test with
  | any lineEnds => lineEnds || c != '\n'
  | set negated items fold =>
    items.any (·.accepts fold (fold.key c)) != negated

end Pattern

end RecordRules
