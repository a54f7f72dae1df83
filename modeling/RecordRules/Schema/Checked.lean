import RecordRules.Failure
import RecordRules.Schema.Problem

/-
  Results of checks that report every problem.

  Main declarations:
    * `Schema.Checked`, a value or all problems
    * `Schema.Checked.under`, problems seen from one level out
    * `Schema.Checked.toExcept`
-/

namespace RecordRules

namespace Schema

/- A value, or everything that is wrong with it. -/
inductive Checked (α : Type) where
  | accepted (value : α)
  | refused (problems : List Problem)

namespace Checked

variable {α β : Type}

/- The problem of a kind at the place that is checked. -/
def problem (kind : Kind) : Checked α :=
  refused [⟨[], kind⟩]

/- A function of an accepted value. -/
def map (f : α → β) : Checked α → Checked β
  | accepted a => accepted (f a)
  | refused problems => refused problems

/- Two checks side by side: the problems of both count. -/
def both
    (f : Checked (α → β))
    (a : Checked α) : Checked β :=
  match f, a with
  | accepted f, accepted a => accepted (f a)
  | accepted _, refused problems => refused problems
  | refused problems, accepted _ => refused problems
  | refused first, refused second => refused (first ++ second)

instance : Applicative Checked where
  pure := accepted
  map := map
  seq f a := both f (a ())

/- A further check of an accepted value. -/
def andThen
    (a : Checked α)
    (check : α → Checked β) : Checked β :=
  match a with
  | accepted a => check a
  | refused problems => refused problems

/- The same check seen from one level further out. -/
def under
    (key : String) : Checked α → Checked α
  | accepted a => accepted a
  | refused problems => refused (problems.map (Problem.under key))

/- Several checks, all of which have to succeed. -/
def all : List (Checked α) → Checked (List α)
  | [] => accepted []
  | a :: rest => (· :: ·) <$> a <*> all rest

/- A check as a result with one failure. -/
def toExcept : Checked α → Except Failure α
  | accepted a => .ok a
  | refused problems => .error (.misfit problems)

end Checked

end Schema

end RecordRules
