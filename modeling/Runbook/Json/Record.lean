import Runbook.Json.Basic

/-!
# Records

A record has fields with fixed names.  It is written as an object, in which each field comes at most
once and other fields do not matter, or as a list of its fields in their order, from which the last
ones may be missing.

## Main definitions

* `Json.record?`: the fields of a record, in the order of their names
* `Json.natural?`: a number that counts something
-/

namespace Runbook.Json

/-- The values of a field of an object, in the order in which they come. -/
def allOf (fields : List (String × Json)) (name : String) : List Json :=
  (fields.filter fun field => field.1 == name).map Prod.snd

/-- The value of a field that comes at most once: `none` if it comes twice. -/
def atMostOne? (fields : List (String × Json)) (name : String) : Option (Option Json) :=
  match allOf fields name with
  | [] => some none
  | [value] => some (some value)
  | _ => none

/-- The fields of a record with the given names; a field that is not there is `none`. -/
def record? (names : List String) : Json → Option (List (Option Json))
  | obj fields => names.mapM (atMostOne? fields)
  | arr items =>
    if items.length ≤ names.length then
      some (items.map some ++ List.replicate (names.length - items.length) none)
    else none
  | _ => none

/-- A number that counts something: an integer from zero on. -/
def natural? : Json → Option Nat
  | int n => if 0 ≤ n then some n.toNat else none
  | _ => none

/-- A field that has a value of its own if it is not there. -/
def orElse? {α : Type} (otherwise : α) (read? : Json → Option α) : Option Json → Option α
  | none => some otherwise
  | some value => read? value

/-- The truth value of a truth value. -/
def bool? : Json → Option Bool
  | bool b => some b
  | _ => none

/-- A text that may be null. -/
def nullableStr? : Json → Option (Option String)
  | null => some none
  | str s => some (some s)
  | _ => none

end Runbook.Json
