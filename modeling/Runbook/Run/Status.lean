import Runbook.Data.Name

/-!
# Status and actions of a run

What state a run is in, and what can be recorded about it.

## Main definitions

* `Status`: running, waiting for approval, stopped, or done
* `Action`: the kinds of history rows
* `Status.allowedActions`: the operations that make sense in a status
-/

namespace Runbook

/-- The status of a run. -/
inductive Status where
  | running
  | waiting
  | stopped
  | done
deriving DecidableEq, Repr, Inhabited

namespace Status

/-- All of them. -/
def all : List Status := [running, waiting, stopped, done]

/-- The written name of a status. -/
def name : Status → String
  | running => "running"
  | waiting => "waiting"
  | stopped => "stopped"
  | done => "done"

/-- The status with the given name. -/
def parse (text : String) : Except UnknownName Status :=
  match all.find? (fun status => status.name == text) with
  | some status => .ok status
  | none => .error ⟨"workflow status", text⟩

@[simp] theorem parse_name (status : Status) : parse status.name = .ok status := by
  cases status <;> rfl

/-- The operations whose guard lets them pass in a status. -/
def allowedActions (status : Status) : List String :=
  (match status with
    | running => ["submit", "skip", "stop"]
    | waiting => ["approve", "reject", "skip", "stop"]
    | stopped => ["resume"]
    | done => []) ++ ["back", "goto", "retry"]

end Status

/-- What a history row records. -/
inductive Action where
  | start
  | submit
  | transition
  | terminate
  | skip
  | retry
  | approve
  | reject
  | goto
  | back
  | stop
  | resume
  | restore
deriving DecidableEq, Repr, Inhabited

namespace Action

/-- All of them. -/
def all : List Action :=
  [start, submit, transition, terminate, skip, retry, approve, reject, goto, back, stop, resume,
    restore]

/-- The written name of an action. -/
def name : Action → String
  | start => "start"
  | submit => "submit"
  | transition => "transition"
  | terminate => "terminate"
  | skip => "skip"
  | retry => "retry"
  | approve => "approve"
  | reject => "reject"
  | goto => "goto"
  | back => "back"
  | stop => "stop"
  | resume => "resume"
  | restore => "restore"

/-- The action with the given name. -/
def parse (text : String) : Except UnknownName Action :=
  match all.find? (fun action => action.name == text) with
  | some action => .ok action
  | none => .error ⟨"history action", text⟩

@[simp] theorem parse_name (action : Action) : parse action.name = .ok action := by
  cases action <;> rfl

end Action

end Runbook
