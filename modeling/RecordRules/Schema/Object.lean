import RecordRules.Schema.Scalar

/-
  Objects in configurations.

  Main declarations:
    * `Schema.camelCase`, the usual spelling of a key
    * `Schema.pick?`, the entry of a key in either spelling
    * `Schema.field` and `Schema.required`
    * `Schema.readItems` and `Schema.readEntries`, lists and objects
      whose parts are checked alike
    * `Schema.Given`, a value with the keys that were given for it
-/

namespace RecordRules

namespace Schema

open Text

variable {α : Type}

------------------------------------------------------------
-- Keys
------------------------------------------------------------

/- Characters with capitals for what follows an underscore. -/
def camelChars : List Char → List Char
  | '_' :: c :: rest => c.toUpper :: camelChars rest
  | c :: rest => c :: camelChars rest
  | [] => []

/- A key with its words run together, each with a capital. -/
def camelCase (name : String) : String :=
  String.ofList (camelChars name.toList)

/-
  The entry of a key, which may be spelled with underscores or with
  capitals; the latter wins. The key comes as it was spelled.
-/
def pick?
    (entries : Entries Value)
    (name : String) : Option (String × Value) :=
  match entries.get? (camelCase name) with
  | some v => some (camelCase name, v)
  | none => (entries.get? name).map (name, ·)

------------------------------------------------------------
-- Fields
------------------------------------------------------------

/- The entries of an object; anything else is a problem. -/
def readObject
    (otherwise : Kind) : Value → Checked (Entries Value)
  | .object entries => .accepted entries
  | _ => .problem otherwise

/- A field of an object, or a value for when it is not given. -/
def field
    (entries : Entries Value)
    (name : String)
    (read : Value → Checked α)
    (default : α) : Checked α :=
  match pick? entries name with
  | some (key, v) => (read v).under key
  | none => .accepted default

/- A field of an object that has to be given. -/
def required
    (entries : Entries Value)
    (name : String)
    (read : Value → Checked α) : Checked α :=
  match pick? entries name with
  | some (key, v) => (read v).under key
  | none => (Checked.problem .missing).under (camelCase name)

------------------------------------------------------------
-- Parts that are checked alike
------------------------------------------------------------

/- The items of a list, each checked under its index. -/
def readItems (read : Value → Checked α) : Value → Checked (List α)
  | .list items =>
    Checked.all <| items.zipIdx.map fun (v, index) =>
      (read v).under (String.ofList (natDigits index))
  | _ => .problem .listType

/- The entries of an object, each checked under its key. -/
def readEntries (read : Value → Checked α) : Value → Checked (Entries α)
  | .object entries =>
    Checked.all <| entries.map fun (key, v) =>
      ((read v).under key).map (key, ·)
  | _ => .problem .objectType

------------------------------------------------------------
-- Given fields
------------------------------------------------------------

/- A value, and the names of the fields that were given for it. -/
structure Given (α : Type) where
  value : α
  names : List String
deriving DecidableEq

/- A checked object with the names among some that it gives. -/
def withGiven
    (entries : Entries Value)
    (names : List String)
    (value : Checked α) : Checked (Given α) :=
  value.map (⟨·, names.filter fun name => (pick? entries name).isSome⟩)

end Schema

end RecordRules
