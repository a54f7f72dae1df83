/-
  Patterns of digits.

  Main declarations:
    * `DigitPattern`
    * `DigitPattern.all` and `DigitPattern.anyOf`, patterns one
      after the other, and patterns to choose from
    * `DigitPattern.rests`, what can be left of digits once the
      pattern has taken its part
    * `DigitPattern.accepts` and `DigitPattern.startsIn`
-/

namespace RecordRules

namespace Phone

/- A pattern of digits. -/
inductive DigitPattern where
  | nothing
  | impossible
  | word (digits : List Nat)
  | of (allowed : List Nat)
  | free (count : Nat)
  | seq (p q : DigitPattern)
  | either (p q : DigitPattern)

namespace DigitPattern

/- Patterns one after the other. -/
def all : List DigitPattern → DigitPattern
  | [] => nothing
  | [p] => p
  | p :: rest => seq p (all rest)

/- Patterns to choose from. -/
def anyOf : List DigitPattern → DigitPattern
  | [] => impossible
  | [p] => p
  | p :: rest => either p (anyOf rest)

/- What can be left of digits after the part of a pattern. -/
def rests (ds : List Nat) : DigitPattern → List (List Nat)
  | nothing => [ds]
  | impossible => []
  | word digits =>
    if digits.isPrefixOf ds then [ds.drop digits.length] else []
  | of allowed =>
    match ds with
    | [] => []
    | d :: rest => if allowed.contains d then [rest] else []
  | free count =>
    if count ≤ ds.length then [ds.drop count] else []
  | seq p q => (p.rests ds).flatMap fun rest => q.rests rest
  | either p q => p.rests ds ++ q.rests ds

/- Whether digits as a whole fit a pattern. -/
def accepts
    (p : DigitPattern)
    (ds : List Nat) : Bool :=
  (p.rests ds).any List.isEmpty

/- Whether digits start with a part that fits a pattern. -/
def startsIn
    (p : DigitPattern)
    (ds : List Nat) : Bool :=
  !(p.rests ds).isEmpty

end DigitPattern

end Phone

end RecordRules
