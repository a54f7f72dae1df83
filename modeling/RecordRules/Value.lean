import RecordRules.Calendar.Instant
import RecordRules.Numeric.Binary64

/-
  The values that a field can hold.

  Main declarations:
    * `Value`, texts, numbers, truth values, days and instants, and
      lists and objects of them
    * `Value.isEmpty`, the absence of a value
    * `Entries`, names with values in the order of their first use
-/

namespace RecordRules

/- A value of a field, or of a configuration. -/
inductive Value where
  | null
  | bool (b : Bool)
  | int (n : Int)
  | float (x : Binary64)
  | text (s : String)
  | stamp (s : Stamp)
  | day (d : Day)
  | list (items : List Value)
  | object (entries : List (String × Value))

instance : Inhabited Value :=
  ⟨.null⟩

------------------------------------------------------------
-- Equality
------------------------------------------------------------

mutual

/- Whether two values are the same. -/
def Value.decEq : (v w : Value) → Decidable (v = w)
  | .null, w => by
    cases w <;> first | exact isTrue rfl | exact isFalse nofun
  | .bool x, w => by
    cases w with
    | bool y => exact decidable_of_iff (x = y) (by simp)
    | _ => exact isFalse nofun
  | .int x, w => by
    cases w with
    | int y => exact decidable_of_iff (x = y) (by simp)
    | _ => exact isFalse nofun
  | .float x, w => by
    cases w with
    | float y => exact decidable_of_iff (x = y) (by simp)
    | _ => exact isFalse nofun
  | .text x, w => by
    cases w with
    | text y => exact decidable_of_iff (x = y) (by simp)
    | _ => exact isFalse nofun
  | .stamp x, w => by
    cases w with
    | stamp y => exact decidable_of_iff (x = y) (by simp)
    | _ => exact isFalse nofun
  | .day x, w => by
    cases w with
    | day y => exact decidable_of_iff (x = y) (by simp)
    | _ => exact isFalse nofun
  | .list xs, w => by
    cases w with
    | list ys =>
      have := Value.decEqItems xs ys
      exact decidable_of_iff (xs = ys) (by simp)
    | _ => exact isFalse nofun
  | .object xs, w => by
    cases w with
    | object ys =>
      have := Value.decEqEntries xs ys
      exact decidable_of_iff (xs = ys) (by simp)
    | _ => exact isFalse nofun

/- Whether two lists hold the same values. -/
def Value.decEqItems : (vs ws : List Value) → Decidable (vs = ws)
  | [], [] => isTrue rfl
  | [], _ :: _ => isFalse nofun
  | _ :: _, [] => isFalse nofun
  | v :: vs, w :: ws =>
    have := Value.decEq v w
    have := Value.decEqItems vs ws
    decidable_of_iff (v = w ∧ vs = ws) (by simp)

/- Whether two lists of entries are the same. -/
def Value.decEqEntries :
    (vs ws : List (String × Value)) → Decidable (vs = ws)
  | [], [] => isTrue rfl
  | [], _ :: _ => isFalse nofun
  | _ :: _, [] => isFalse nofun
  | (k, v) :: vs, (l, w) :: ws =>
    have := Value.decEq v w
    have := Value.decEqEntries vs ws
    decidable_of_iff (k = l ∧ v = w ∧ vs = ws) (by simp [and_assoc])

end

instance : DecidableEq Value :=
  Value.decEq

namespace Value

------------------------------------------------------------
-- Absence
------------------------------------------------------------

/- Null, what is no number, and the empty text count as absent. -/
def isEmpty : Value → Bool
  | null => true
  | float x => x.isNaN
  | text s => s == ""
  | _ => false

end Value

------------------------------------------------------------
-- Entries
------------------------------------------------------------

/- Names with values, in the order in which the names came first. -/
abbrev Entries (α : Type) :=
  List (String × α)

namespace Entries

variable {α : Type}

/- The value of a name. -/
def get?
    (entries : Entries α)
    (name : String) : Option α :=
  (entries.find? (·.1 == name)).map (·.2)

/- The entries with a value for a name, at the place of the name. -/
def put
    (entries : Entries α)
    (name : String)
    (value : α) : Entries α :=
  match entries with
  | [] => [(name, value)]
  | entry :: rest =>
    if entry.1 == name then
      (name, value) :: rest
    else
      entry :: Entries.put rest name value

/- Entries in which a later value of a name replaces an earlier. -/
def ofList (pairs : List (String × α)) : Entries α :=
  pairs.foldl (fun entries pair => put entries pair.1 pair.2) []

end Entries

end RecordRules
