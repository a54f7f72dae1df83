import Mathlib.Tactic.SplitIfs
import RecordRules.Rule.Date
import RecordRules.Rule.Number
import RecordRules.Rule.Text

/-
  What rules compute fails for reasons of its own, never because a
  note was refused.

  Main declarations:
    * `Failure.Noteless`
    * `Value.print_noteless`
    * `Date.resolveValue_noteless` and `Date.resolveBound_noteless`
    * `NumberFormat.render_noteless` and `TextFormat.apply_noteless`
    * the same for what rules ask and what they say
-/

namespace RecordRules

------------------------------------------------------------
-- Results
------------------------------------------------------------

namespace Failure

variable {α β : Type}

/- A result is not that a note was refused. -/
def Noteless (result : Except Failure α) : Prop :=
  ∀ note field, result ≠ .error (.noteOnDetached note field)

theorem Noteless.ok (a : α) : Noteless (.ok a) :=
  nofun

/- The same failure is none of a note as any other result. -/
theorem Noteless.error
    {failure : Failure}
    (hFailure : Noteless (.error failure : Except Failure α)) :
    Noteless (.error failure : Except Failure β) := by
  intro note field hEq
  cases hEq
  exact hFailure note field rfl

theorem Noteless.bind
    {first : Except Failure α}
    {f : α → Except Failure β}
    (hFirst : Noteless first)
    (hSecond : ∀ a, Noteless (f a)) :
    Noteless (first >>= f) := by
  cases first with
  | ok a => exact hSecond a
  | error failure => exact hFirst.error

theorem Noteless.map
    {result : Except Failure α}
    (hResult : Noteless result)
    (f : α → β) :
    Noteless (result.map f) := by
  cases result with
  | ok a => nofun
  | error failure => exact hResult.error

end Failure

open Failure

theorem Schema.Checked.toExcept_noteless
    {α : Type}
    (checked : Schema.Checked α) :
    Noteless checked.toExcept := by
  cases checked <;> nofun

------------------------------------------------------------
-- Texts of values
------------------------------------------------------------

theorem Numeric.printInt_noteless
    (n : Int) :
    Noteless (Numeric.printInt n) := by
  unfold Numeric.printInt
  split <;> nofun

namespace Value

mutual

theorem quoted_noteless : (v : Value) → Noteless v.quoted
  | .null | .bool _ | .float _ | .text _ | .stamp _ | .day _ => nofun
  | .int n => Numeric.printInt_noteless n
  | .list items => by
      unfold quoted
      exact (quotedItems_noteless items).bind fun _ => .ok _
  | .object entries => by
      unfold quoted
      exact (quotedEntries_noteless entries).bind fun _ => .ok _

theorem quotedItems_noteless :
    (items : List Value) → Noteless (quotedItems items)
  | [] => nofun
  | v :: rest => by
      unfold quotedItems
      refine (quoted_noteless v).bind fun first => ?_
      exact (quotedItems_noteless rest).bind fun _ => .ok _

theorem quotedEntries_noteless :
    (entries : List (String × Value)) →
      Noteless (quotedEntries entries)
  | [] => nofun
  | (name, v) :: rest => by
      unfold quotedEntries
      refine (quoted_noteless v).bind fun first => ?_
      exact (quotedEntries_noteless rest).bind fun _ => .ok _

end

theorem print_noteless
    (v : Value) :
    Noteless v.print := by
  unfold print
  split
  · nofun
  · nofun
  · nofun
  · exact quoted_noteless v

end Value

------------------------------------------------------------
-- Dates
------------------------------------------------------------

namespace Date

variable (context : Context)

theorem Relative.resolve?_noteless
    (relative : Relative)
    (clock : Instant) :
    Noteless (relative.resolve? clock) := by
  cases relative with
  | now => nofun
  | step s =>
      have hCount : Noteless s.count := by
        unfold Step.count
        split <;> nofun
      refine hCount.bind fun count => ?_
      cases s.unit <;> nofun

theorem toLocal_noteless
    (s : Stamp) :
    Noteless (toLocal s) := by
  unfold toLocal
  split
  · nofun
  · split
    · nofun
    · split <;> nofun

theorem parseText_noteless
    (cs : List Char) :
    Noteless (parseText context cs) := by
  unfold parseText
  extract_lets text
  split
  · nofun
  · nofun
  · split
    · nofun
    · exact (toLocal_noteless _).map some

theorem parse_noteless
    (v : Value) :
    Noteless (parse context v) := by
  unfold parse
  split
  · nofun
  · exact (toLocal_noteless _).map some
  · nofun
  · refine (Value.print_noteless _).bind fun text => ?_
    extract_lets cs
    split
    · nofun
    · split
      · split <;> nofun
      · exact parseText_noteless context cs

theorem relativeOf?_noteless
    (v : Value) :
    Noteless (relativeOf? v) :=
  (Value.print_noteless v).bind fun _ => .ok _

theorem parseRelative_noteless
    (v : Value) :
    Noteless (parseRelative context v) := by
  unfold parseRelative
  split
  · nofun
  · nofun
  · nofun
  · refine (relativeOf?_noteless _).bind fun relative => ?_
    split
    · nofun
    · exact Relative.resolve?_noteless _ _

theorem isDate_noteless
    (v : Value) :
    Noteless (isDate context v) := by
  unfold isDate
  split
  · nofun
  · refine (relativeOf?_noteless _).bind fun relative => ?_
    split
    · nofun
    · exact (parse_noteless context _).bind fun _ => .ok _

theorem resolveValue_noteless
    (v : Value) :
    Noteless (resolveValue context v) := by
  refine (parseRelative_noteless context v).bind fun relative => ?_
  split
  · nofun
  · exact parse_noteless context v

theorem resolveBound_noteless
    (v : Value) :
    Noteless (resolveBound context v) := by
  unfold resolveBound
  split
  · nofun
  · refine (isDate_noteless context _).bind fun natural => ?_
    split
    · exact parse_noteless context _
    · exact parseRelative_noteless context _

end Date

theorem DateRule.boundText_noteless
    (format : Option String)
    (resolved : Option Instant)
    (bound : Value) :
    Noteless (DateRule.boundText format resolved bound) := by
  unfold DateRule.boundText
  split
  · exact Value.print_noteless bound
  · split <;> nofun

------------------------------------------------------------
-- Limits
------------------------------------------------------------

namespace Limit

variable (m : Measure)

theorem order_noteless
    (limit : Value) :
    Noteless (order m limit) := by
  unfold order
  split <;> nofun

theorem isAtLeast_noteless
    (limit : Value) :
    Noteless (isAtLeast m limit) := by
  unfold isAtLeast
  split
  · nofun
  · exact (order_noteless m _).bind fun _ => .ok _

theorem isAtMost_noteless
    (limit : Value) :
    Noteless (isAtMost m limit) := by
  unfold isAtMost
  split
  · nofun
  · exact (order_noteless m _).bind fun _ => .ok _

theorem isWithin_noteless
    (least most : Value) :
    Noteless (isWithin m least most) := by
  unfold isWithin
  split
  · nofun
  · refine (isAtLeast_noteless m least).bind fun enough => ?_
    split
    · exact isAtMost_noteless m most
    · nofun

end Limit

------------------------------------------------------------
-- Numbers
------------------------------------------------------------

theorem Amount.parse_noteless
    (v : Value) :
    Noteless (Amount.parse v) := by
  unfold Amount.parse
  split
  · nofun
  · nofun
  · nofun
  · extract_lets x
    split <;> nofun
  · exact (Value.print_noteless _).bind fun _ => .ok _

theorem Amount.display_noteless
    (v : Value) :
    Noteless (Amount.display v) := by
  unfold Amount.display
  split
  · split
    · nofun
    · exact Value.print_noteless _
  · exact Value.print_noteless _

theorem NumberFormat.render_noteless
    (format : NumberFormat)
    (x : Binary64) :
    Noteless (format.render x) := by
  have hCount (decimals : Int) :
      Noteless (NumberFormat.decimalCount decimals) := by
    unfold NumberFormat.decimalCount
    split_ifs <;> nofun
  have hBody : Noteless (format.body x) := by
    unfold NumberFormat.body
    split
    · exact (hCount _).bind fun _ => .ok _
    · split <;> nofun
  exact hBody.bind fun _ => .ok _

namespace NumberRule

theorem limitOf_noteless
    (v : Value) :
    Noteless (limitOf v) := by
  refine (Amount.parse_noteless v).bind fun number => ?_
  split <;> nofun

theorem ofArguments_noteless
    (type arguments : Value) :
    Noteless (ofArguments type arguments) := by
  unfold ofArguments
  split
  · nofun
  · nofun
  · nofun
  · exact (limitOf_noteless _).bind fun _ => .ok _
  · exact (limitOf_noteless _).bind fun _ => .ok _
  · refine (limitOf_noteless _).bind fun least => ?_
    exact (limitOf_noteless _).bind fun _ => .ok _
  · nofun

theorem holds_noteless
    (rule : NumberRule)
    (x : Binary64) :
    Noteless (rule.holds x) := by
  cases rule with
  | anyNumber | positive | negative | whole => nofun
  | atLeast limit => exact Limit.isAtLeast_noteless _ limit
  | atMost limit => exact Limit.isAtMost_noteless _ limit
  | within least most => exact Limit.isWithin_noteless _ least most

theorem message_noteless
    (rule : NumberRule) :
    Noteless rule.message := by
  cases rule with
  | anyNumber | positive | negative | whole => nofun
  | atLeast limit | atMost limit =>
      exact (Amount.display_noteless limit).bind fun _ => .ok _
  | within least most =>
      refine (Amount.display_noteless least).bind fun low => ?_
      exact (Amount.display_noteless most).bind fun _ => .ok _

end NumberRule

------------------------------------------------------------
-- Texts
------------------------------------------------------------

theorem ofFault_noteless
    {α : Type}
    (fault : Pattern.Fault) :
    Noteless (.error (.ofFault fault) : Except Failure α) := by
  cases fault <;> nofun

theorem TextFormat.apply_noteless
    (format : TextFormat)
    (cs : List Char) :
    Noteless (format.apply cs) := by
  have hReplaced replace text :
      Noteless (TextFormat.replaced replace text) := by
    unfold TextFormat.replaced
    split
    · nofun
    · extract_lets search replacement
      split
      · cases Pattern.substitute search replacement text with
        | ok text => nofun
        | error fault => exact ofFault_noteless fault
      · nofun
  have hPadded pad width filler text :
      Noteless (TextFormat.padded pad width filler text) := by
    unfold TextFormat.padded
    split
    · split <;> nofun
    · nofun
  refine (hReplaced _ _).bind fun base => ?_
  extract_lets short
  refine (hPadded _ _ _ _).bind fun left => ?_
  exact (hPadded _ _ _ _).bind fun _ => .ok _

namespace TextRule

theorem asLength_noteless
    (arguments : Value) :
    Noteless (asLength arguments) := by
  have hWhole (x : Binary64) : Noteless (wholePart x) := by
    unfold wholePart
    split <;> nofun
  have hLength (v : Value) : Noteless (lengthOf v) := by
    unfold lengthOf
    split
    · nofun
    · exact hWhole _
    · split <;> nofun
    · nofun
  unfold asLength
  split
  · exact hLength _
  · nofun
  · exact hLength _

theorem regionOf_noteless
    (arguments : Value) :
    Noteless (regionOf arguments) := by
  unfold regionOf
  split
  · split
    · nofun
    · split
      · exact (Value.print_noteless _).bind fun _ => .ok _
      · nofun
  · nofun

theorem ofArguments_noteless
    (type arguments : Value) :
    Noteless (ofArguments type arguments) := by
  unfold ofArguments
  split
  · nofun
  · exact (regionOf_noteless _).bind fun _ => .ok _
  · nofun
  · nofun
  · extract_lets pair
    refine (asLength_noteless _).bind fun least => ?_
    exact (asLength_noteless _).bind fun _ => .ok _
  · exact (asLength_noteless _).bind fun _ => .ok _
  · exact (asLength_noteless _).bind fun _ => .ok _
  · nofun

theorem textOf_noteless
    (v : Value) :
    Noteless (textOf v) := by
  unfold textOf
  split
  · nofun
  · exact Value.print_noteless v

theorem occurs_noteless
    (source : Value)
    (cs : List Char) :
    Noteless (occurs source cs) := by
  unfold occurs
  split
  · nofun
  · refine (Value.print_noteless _).bind fun text => ?_
    split
    · nofun
    · nofun
    · exact ofFault_noteless _

theorem holds_noteless
    (context : Context)
    (rule : TextRule)
    (cs : List Char) :
    Noteless (rule.holds context cs) := by
  cases rule with
  | present | email | phone _ | ssn => nofun
  | pattern source => exact occurs_noteless source cs
  | length least most => exact Limit.isWithin_noteless _ least most
  | atLeast limit => exact Limit.isAtLeast_noteless _ limit
  | atMost limit => exact Limit.isAtMost_noteless _ limit

theorem message_noteless
    (rule : TextRule) :
    Noteless rule.message := by
  cases rule with
  | present | email | phone _ | ssn | pattern _ => nofun
  | length least most =>
      refine (Value.print_noteless least).bind fun low => ?_
      exact (Value.print_noteless most).bind fun _ => .ok _
  | atLeast limit | atMost limit =>
      exact (Value.print_noteless limit).bind fun _ => .ok _

end TextRule

------------------------------------------------------------
-- Messages about changes
------------------------------------------------------------

theorem Rule.changeMessage_noteless
    (options : RuleOptions)
    (before : String)
    (v : Value) :
    Noteless (Rule.changeMessage options before v) := by
  have hText : Noteless (Rule.changeText before v) :=
    (Value.print_noteless v).bind fun _ => .ok _
  unfold Rule.changeMessage
  split
  · exact hText
  · split
    · exact hText
    · nofun

end RecordRules
