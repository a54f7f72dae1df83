import RecordRules.Json

/-
  Places of the service.

  Main declarations:
    * `Service.Route`, and `Service.Route.method`
    * `Service.Route.ofSegments?`, the place of a path
    * `Service.Route.find?`, the place of an address
-/

namespace RecordRules

namespace Service

open Text

------------------------------------------------------------
-- Routes
------------------------------------------------------------

/- The places that requests go to. -/
inductive Route where
  | start
  | health
  | record
  | batch
  | log (job : String)
deriving DecidableEq

/- The method that a place answers to. -/
def Route.method : Route → String
  | start | health | log _ => "GET"
  | record | batch => "POST"

/- The place of a path, given as what stands between slashes. -/
def Route.ofSegments? : List String → Option Route
  | ["", ""] => some start
  | ["", "health"] => some health
  | ["", "records", "validate"] => some record
  | ["", "batches", "validate"] => some batch
  | ["", "batches", job, "logs"] =>
    if job == "" then none else some (log job)
  | _ => none

------------------------------------------------------------
-- Addresses
------------------------------------------------------------

/- The path of an address, without a query. -/
def pathOf (address : List Char) : List Char :=
  address.takeWhile fun c => c != '?' && c != '#'

/- A path in which escaped ASCII characters are written out. -/
def unescaped : List Char → List Char
  | [] => []
  | '%' :: a :: b :: rest =>
    match hexValue? a, hexValue? b with
    | some high, some low =>
      if high < 8 then
        Char.ofNat (high * 16 + low) :: unescaped rest
      else
        '%' :: a :: b :: unescaped rest
    | _, _ => '%' :: unescaped (a :: b :: rest)
  | c :: rest => c :: unescaped rest
termination_by cs => cs.length

/- What stands between the slashes of a path. -/
def segments : List Char → List (List Char)
  | [] => [[]]
  | c :: rest =>
    if c == '/' then
      [] :: segments rest
    else
      match segments rest with
      | [] => [[c]]
      | segment :: more => (c :: segment) :: more

/- A path without slashes at its end. -/
def withoutSlashes (path : List Char) : List Char :=
  (path.reverse.dropWhile (· == '/')).reverse

/- The place of a path. -/
def Route.ofPath? (path : List Char) : Option Route :=
  ofSegments? ((segments path).map String.ofList)

/- The place of an address; slashes at the end are no obstacle. -/
def Route.find? (address : List Char) : Option Route :=
  let path := unescaped (pathOf address)
  if path.isEmpty then
    some start
  else
    (ofPath? path).or (ofPath? (withoutSlashes path))

end Service

end RecordRules
