import Runbook.Json.Basic
import Runbook.Number.Digits
import Runbook.Text.Search
import Runbook.Text.WordClass

/-!
# Addresses

An address names a place inside a data value: segments joined by points, each the name of a field
and possibly the place of an item in the list that the field holds, as in `review.tags[1]`.

## Main definitions

* `Segment`: one step of an address
* `Segment.ofChars`: a written segment
* `Address.ofChars`: a written address
* `Address.find?`: the value at an address

## Design notes

Only a segment of the form `name[digits]` has a place; any other text, blanks included, is the name
of a field.  The digits of a place may be those of any script as far as the form of the segment
goes, but only ASCII digits make a number, so a place written in other digits is never found.
-/

namespace Runbook.Guard

/-- One step of an address. -/
inductive Segment where
  /-- The field of this name. -/
  | field (key : String)
  /-- An item of the list in the field of this name; a place that is no number is never found. -/
  | item (key : String) (place : Option Nat)
deriving DecidableEq, Repr

namespace Segment

/-- The digits of a place in brackets, if the whole text is one. -/
def place? (cs : List Char) : Option (List Char) :=
  match cs with
  | '[' :: rest =>
    let digits := rest.takeWhile Text.isDigit
    if !digits.isEmpty && rest.dropWhile Text.isDigit == [']'] then some digits else none
  | _ => none

/-- The number that digits write, if they are ASCII digits. -/
def number? (digits : List Char) : Option Nat :=
  if digits.all Char.isDigit then some (digitsValue digits) else none

/-- A written segment. -/
def ofChars (cs : List Char) : Segment :=
  let name := cs.takeWhile Text.isWordChar
  match place? (cs.dropWhile Text.isWordChar) with
  | some digits => if name.isEmpty then field (.ofList cs) else item (.ofList name) (number? digits)
  | none => field (.ofList cs)

/-- The value one step into an object. -/
def find? (segment : Segment) (fields : Json.Object) : Option Json :=
  match segment with
  | field key => fields.get? key
  | item key place => do
    let items ← (← fields.get? key).arr?
    items[← place]?

end Segment

/-- An address: the first segment and the others. -/
abbrev Address := List Segment

namespace Address

/-- A written address. -/
def ofChars (cs : List Char) : Address := (Text.splitOn '.' cs).map Segment.ofChars

/-- The value at an address below `value`, each step taken inside an object. -/
def walk? : Address → Json → Option Json
  | [], value => some value
  | segment :: rest, value => do walk? rest (← segment.find? (← value.obj?))

/-- The value at an address in a context. -/
def find? (address : Address) (context : Json.Object) : Option Json :=
  walk? address (.obj context)

@[simp] theorem walk?_nil (value : Json) : walk? [] value = some value := rfl

theorem walk?_cons (segment : Segment) (rest : Address) (value : Json) :
    walk? (segment :: rest) value = value.obj?.bind fun fields =>
      (segment.find? fields).bind (walk? rest) := rfl

end Address

end Runbook.Guard
