import Runbook.Guard.Expr
import Runbook.Hook.Policy
import Runbook.Json.Printer

/-!
# Hooks

A hook takes part in the runs of every flow that mentions its name.  Named after a step it can
check the output of the step, archive it, and carry instructions and an edit policy; named in a
guard it decides the guard.

## Main definitions

* `HookKind`: what a hook takes part in
* `FieldType`: the types of archived fields
* `Check`: what a hook has to say against a payload
* `Hook`: a hook
-/

namespace Runbook

/-- What a hook takes part in. -/
inductive HookKind where
  | auto
  | validate
  | archive
  | eval
deriving DecidableEq, Repr, Inhabited

namespace HookKind

/-- All of them, in the order in which they are listed. -/
def all : List HookKind := [auto, validate, archive, eval]

/-- The written name of a kind. -/
def name : HookKind → String
  | auto => "auto"
  | validate => "validate"
  | archive => "archive"
  | eval => "eval"

/-- The kind with the given name. -/
def ofName? (name : String) : Option HookKind := all.find? (fun kind => kind.name == name)

@[simp] theorem ofName?_name (kind : HookKind) : ofName? kind.name = some kind := by
  cases kind <;> rfl

end HookKind

/-- The declared type of an archived field. -/
inductive FieldType where
  | string
  | number
  | boolean
  | stringList
deriving DecidableEq, Repr, Inhabited

namespace FieldType

/-- All of them. -/
def all : List FieldType := [string, number, boolean, stringList]

/-- The written name of a type. -/
def name : FieldType → String
  | string => "string"
  | number => "number"
  | boolean => "boolean"
  | stringList => "string[]"

/-- The type with the given name. -/
def ofName? (name : String) : Option FieldType := all.find? (fun type => type.name == name)

@[simp] theorem ofName?_name (type : FieldType) : ofName? type.name = some type := by
  cases type <;> rfl

end FieldType

/-- The fields that an archive keeps, by name. -/
abbrev Schema := Fields FieldType

/-- What a hook has to say against a payload: a reason, or nothing. -/
abbrev Check := Json → Option String

namespace Check

/-- Nothing is ever said. -/
def accept : Check := fun _ => none

/-- The same reason whatever the payload is. -/
def reject (reason : String) : Check := fun _ => some reason

/-- The payload has to be an object with the field `key`, whatever its value. -/
def require (key reason : String) : Check
  | .obj fields => if Fields.contains fields key then none else some reason
  | _ => some reason

/-- The guard expression has to hold of the fields of the payload; a payload that is no object has
none. -/
def holds (expr reason : String) : Check := fun payload =>
  if Guard.holds expr.toList (payload.obj?.getD []) then none else some reason

/-- The payload itself is the reason. -/
def echo : Check := fun payload => some payload.compress

end Check

/-- A hook. -/
structure Hook where
  /-- The step or the guard that the hook is for. -/
  name : String
  /-- What it takes part in. -/
  kinds : List HookKind := []
  /-- A template for whoever drives the run. -/
  instructions : String := ""
  /-- The fields that it archives. -/
  schema : Option Schema := none
  /-- Its check. -/
  check : Option Check := none
  /-- What may be edited while its step is active. -/
  editPolicy : Option EditPolicy := none
  /-- The table that it archives into. -/
  archiveTable : Option String := none

namespace Hook

/-- Does the hook take part in this? -/
def hasKind (hook : Hook) (kind : HookKind) : Bool := hook.kinds.contains kind

/-- What the hook takes part in, in the fixed order and without repetition. -/
def sortedKinds (hook : Hook) : List HookKind := HookKind.all.filter hook.hasKind

/-- What the hook has to say against a payload; without a check that is nothing. -/
def complaint? (hook : Hook) (payload : Json) : Option String :=
  hook.check.bind fun check => check payload

end Hook

end Runbook
