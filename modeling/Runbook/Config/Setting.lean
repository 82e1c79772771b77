import Runbook.Data.Fields
import Runbook.Json.Basic

/-!
# Settings

The values that configuration is written in, before it is known what they configure.  A table of
settings can be laid over another one.

## Main definitions

* `Setting`: a value
* `Setting.onto`: a value laid over another one
* `Setting.ofJson`: a data value as a setting

## Design notes

No setting is a real number or a date, so these are kept without their value: all that matters of
them is that they are not what is asked for.
-/

namespace Runbook

/-- A value in a configuration. -/
inductive Setting where
  | nothing
  | flag (b : Bool)
  | number (n : Int)
  | real
  | text (s : String)
  | list (items : List Setting)
  | table (fields : List (String × Setting))
deriving Repr, Inhabited

namespace Setting

mutual

/-- A value laid over another one.  Of two tables all fields stay, and where both have a field the
two values are laid over each other; otherwise the upper value hides the lower one. -/
def onto : Setting → Setting → Setting
  | table upper, table lower => table (fieldsOnto upper lower)
  | upper, _ => upper

/-- The fields of a table laid over those of another one. -/
def fieldsOnto : List (String × Setting) → Fields Setting → Fields Setting
  | [], lower => lower
  | (key, value) :: rest, lower =>
    fieldsOnto rest (lower.insert key (fieldOnto value (lower.get? key)))

/-- A value laid over the one that is there, if there is one. -/
def fieldOnto : Setting → Option Setting → Setting
  | value, some lower => onto value lower
  | value, none => value

end

mutual

/-- A data value as a setting. -/
def ofJson : Json → Setting
  | .null => nothing
  | .bool b => flag b
  | .int n => number n
  | .double _ => real
  | .str s => text s
  | .arr items => list (ofItems items)
  | .obj fields => table (ofFields fields)

/-- Data values as settings. -/
def ofItems : List Json → List Setting
  | [] => []
  | item :: rest => ofJson item :: ofItems rest

/-- The fields of an object as settings. -/
def ofFields : List (String × Json) → List (String × Setting)
  | [] => []
  | (key, value) :: rest => (key, ofJson value) :: ofFields rest

end

/-- Only two tables mix; any other value hides what it lies on. -/
theorem onto_of_not_table {upper : Setting} (lower : Setting) (h : ∀ fields, upper ≠ table fields) :
    upper.onto lower = upper := by
  cases upper with
  | table fields => exact absurd rfl (h fields)
  | _ => simp [onto]

/-- A table without fields hides nothing of a table. -/
@[simp] theorem table_nil_onto (fields : List (String × Setting)) :
    (table []).onto (table fields) = table fields := by
  simp [onto, fieldsOnto]

end Setting

end Runbook
