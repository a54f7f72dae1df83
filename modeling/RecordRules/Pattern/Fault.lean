import RecordRules.Text.Quoted

/-
  Why a pattern or a replacement cannot be used.

  Main declarations:
    * `Pattern.Cause`, what is wrong with the notation
    * `Pattern.Cause.message`, the wording of each cause
    * `Pattern.Place`, an offset with its line and column
    * `Pattern.Fault`, a cause with its place, or a limit exceeded
-/

namespace RecordRules

namespace Pattern

open Text

------------------------------------------------------------
-- Causes
------------------------------------------------------------

/- What is wrong with the notation of a pattern or replacement. -/
inductive Cause where
  | escapeAtEnd
  | missing (what : String)
  | unterminatedName (mark : Char)
  | badGroupName (name : List Char)
  | unknownGroupName (name : List Char)
  | redefinedGroupName (name : List Char) (again first : Nat)
  | badGroupNumber
  | invalidGroup (number : Nat)
  | openGroup
  | groupInSameLookbehind
  | incompleteEscape (escape : List Char)
  | badEscape (escape : List Char)
  | octalTooLarge (escape : List Char)
  | unknownCharacterName (name : List Char)
  | unterminatedSet
  | badRange (first last : List Char)
  | minimumAboveMaximum
  | nothingToRepeat
  | multipleRepeat
  | unexpectedEnd
  | unknownExtension (extension : List Char)
  | unterminatedComment
  | unterminatedGroup
  | tooManyBranches
  | lateFlags
  | unknownFlag
  | badFlags (why : String)
  | unbalancedParenthesis
  | variableLookbehind
  | longLookbehind
  | unsupportedRepeat (kind : String)
deriving DecidableEq

namespace Cause

/- The wording of a cause. -/
def message : Cause → List Char
  | escapeAtEnd => "bad escape (end of pattern)".toList
  | missing what => "missing ".toList ++ what.toList
  | unterminatedName mark =>
    "missing ".toList ++ mark :: ", unterminated name".toList
  | badGroupName name =>
    "bad character in group name ".toList ++ quoted name
  | unknownGroupName name =>
    "unknown group name ".toList ++ quoted name
  | redefinedGroupName name again first =>
    "redefinition of group name ".toList ++ quoted name ++
      " as group ".toList ++ natDigits again ++
      "; was group ".toList ++ natDigits first
  | badGroupNumber => "bad group number".toList
  | invalidGroup number =>
    "invalid group reference ".toList ++ natDigits number
  | openGroup => "cannot refer to an open group".toList
  | groupInSameLookbehind =>
    ("cannot refer to group defined in the same " ++
      "lookbehind subpattern").toList
  | incompleteEscape escape => "incomplete escape ".toList ++ escape
  | badEscape escape => "bad escape ".toList ++ escape
  | octalTooLarge escape =>
    "octal escape value ".toList ++ escape ++
      " outside of range 0-0o377".toList
  | unknownCharacterName name =>
    "undefined character name ".toList ++ quoted name
  | unterminatedSet => "unterminated character set".toList
  | badRange first last =>
    "bad character range ".toList ++ first ++ '-' :: last
  | minimumAboveMaximum =>
    "min repeat greater than max repeat".toList
  | nothingToRepeat => "nothing to repeat".toList
  | multipleRepeat => "multiple repeat".toList
  | unexpectedEnd => "unexpected end of pattern".toList
  | unknownExtension extension =>
    "unknown extension ?".toList ++ extension
  | unterminatedComment =>
    "missing ), unterminated comment".toList
  | unterminatedGroup =>
    "missing ), unterminated subpattern".toList
  | tooManyBranches =>
    "conditional backref with more than two branches".toList
  | lateFlags =>
    "global flags not at the start of the expression".toList
  | unknownFlag => "unknown flag".toList
  | badFlags why => "bad inline flags: ".toList ++ why.toList
  | unbalancedParenthesis => "unbalanced parenthesis".toList
  | variableLookbehind =>
    "look-behind requires fixed-width pattern".toList
  | longLookbehind => "looks too much behind".toList
  | unsupportedRepeat kind =>
    "internal: unsupported template operator ".toList ++ kind.toList

end Cause

------------------------------------------------------------
-- Places
------------------------------------------------------------

/-
  An offset into a source text. Line and column are told only where
  the source has several lines.
-/
structure Place where
  offset : Nat
  lineAndColumn : Option (Nat × Nat)
deriving DecidableEq

namespace Place

/- The place of an offset in a source text. -/
def of
    (source : List Char)
    (offset : Nat) : Place :=
  let before := source.take offset
  let line := before.count '\n' + 1
  let column := (before.reverse.takeWhile (· != '\n')).length + 1
  { offset
    lineAndColumn :=
      if source.contains '\n' then some (line, column) else none }

/- The wording of a place. -/
def message (place : Place) : List Char :=
  " at position ".toList ++ natDigits place.offset ++
    (match place.lineAndColumn with
      | none => []
      | some (line, column) =>
        " (line ".toList ++ natDigits line ++
          ", column ".toList ++ natDigits column ++ [')'])

end Place

------------------------------------------------------------
-- Faults
------------------------------------------------------------

/-
  Why a pattern or a replacement cannot be used: faulty notation,
  or a number or combination of flags that cannot be honoured.
-/
inductive Fault where
  | malformed (cause : Cause) (place : Option Place)
  | repetitionTooLarge
  | numberTooLong (digits : Nat)
  | flagsIncompatible
  | noSuchGroup
deriving DecidableEq

/- The wording of faulty notation. -/
def malformedMessage
    (cause : Cause)
    (place : Option Place) : List Char :=
  cause.message ++ place.elim [] Place.message

end Pattern

end RecordRules
