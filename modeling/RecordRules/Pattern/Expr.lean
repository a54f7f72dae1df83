import RecordRules.Numeric.Natural
import RecordRules.Pattern.CharTest
import RecordRules.Pattern.Fault

/-
  Patterns as trees.

  Main declarations:
    * `Pattern.Anchor`, conditions on a position
    * `Pattern.Expr`
    * `Pattern.Width`, the fewest and most characters of a match
    * `Pattern.Expr.fault?`, what keeps a pattern from being used
    * `Pattern.Compiled`, a tree with its groups
-/

namespace RecordRules

namespace Pattern

------------------------------------------------------------
-- Trees
------------------------------------------------------------

/- A condition on a position between two characters. -/
inductive Anchor where
  | textStart
  | lineStart
  | textEnd
  | lastLineEnd
  | lineEnd
  | wordEdge (asciiOnly : Bool)
  | noWordEdge (asciiOnly : Bool)
deriving DecidableEq

/- How a repetition chooses between going on and stopping. -/
inductive Greed where
  | greedy
  | lazy
  | possessive
deriving DecidableEq

/- The name of a repetition in the refusal of one. -/
def Greed.name : Greed → String
  | greedy => "MAX_REPEAT"
  | lazy => "MIN_REPEAT"
  | possessive => "POSSESSIVE_REPEAT"

/- The fewest and the most characters of a match. -/
structure Width where
  least : Nat
  most : Nat
deriving DecidableEq

/- A pattern. -/
inductive Expr where
  | empty
  | one (test : CharTest)
  | anchor (a : Anchor)
  | seq (p q : Expr)
  | choice (p q : Expr)
  | group (index : Nat) (p : Expr)
  | backref (index : Nat) (fold : Fold)
  | repeated
      (greed : Greed)
      (least : Nat)
      (most : Option Nat)
      (p : Expr)
  | atomic (p : Expr)
  | ahead (negated : Bool) (p : Expr)
  | behind (negated : Bool) (width : Width) (p : Expr)
  | conditional (index : Nat) (yes no : Expr)
deriving DecidableEq

/- A pattern with the number of its groups and their names. -/
structure Compiled where
  expr : Expr
  groups : Nat
  names : List (List Char × Nat)
deriving DecidableEq

------------------------------------------------------------
-- Widths
------------------------------------------------------------

namespace Width

/- Widths are not told apart beyond this one. -/
def unbounded : Nat :=
  Numeric.twoPow 64

/- A width within the bound. -/
def capped (least most : Nat) : Width :=
  ⟨min least unbounded, min most unbounded⟩

/- The width of one thing after another. -/
def add (v w : Width) : Width :=
  capped (v.least + w.least) (v.most + w.most)

/- The width of one thing or another. -/
def either (v w : Width) : Width :=
  ⟨min v.least w.least, max v.most w.most⟩

/- The width of a repetition. -/
def times
    (w : Width)
    (least : Nat)
    (most : Option Nat) : Width :=
  match most with
  | some m => capped (w.least * least) (w.most * m)
  | none =>
    capped (w.least * least) (if w.most = 0 then 0 else unbounded)

end Width

/-
  The width of a pattern, given the widths of the groups that it
  may refer to.
-/
def Expr.width (groups : List Width) : Expr → Width
  | empty | anchor _ | ahead .. | behind .. => ⟨0, 0⟩
  | one _ => ⟨1, 1⟩
  | seq p q => (p.width groups).add (q.width groups)
  | choice p q => (p.width groups).either (q.width groups)
  | group _ p | atomic p => p.width groups
  | backref index _ => groups.getD (index - 1) ⟨0, 0⟩
  | repeated _ least most p => (p.width groups).times least most
  | conditional _ yes no =>
    (yes.width groups).either (no.width groups)

/- The widest look behind that can be carried out. -/
def widestLookbehind : Nat :=
  Numeric.twoPow 32 - 1

/-
  Why a pattern that can be read cannot be carried out: a template
  has no repetitions, and a look behind must know how far to go
  back. The first fault from the left is the one reported, and that
  of a whole before those of its parts.
-/
def Expr.fault? (template : Bool) : Expr → Option Cause
  | empty | one _ | anchor _ | backref .. => none
  | seq p q | choice p q | conditional _ p q =>
    p.fault? template <|> q.fault? template
  | group _ p | atomic p | ahead _ p => p.fault? template
  | repeated greed _ _ p =>
    if template then
      some (.unsupportedRepeat greed.name)
    else
      p.fault? template
  | behind _ width p =>
    if widestLookbehind < width.least then
      some .longLookbehind
    else if width.least ≠ width.most then
      some .variableLookbehind
    else
      p.fault? template

end Pattern

end RecordRules
