import Runbook.Data.Dict
import Runbook.Data.Name
import Runbook.Json.Basic
import Runbook.Text.Blank

/-!
# Flows

A flow is a flat graph of named steps.  Each step has transitions to other steps, some of them
guarded, and a configuration that says what happens on arrival.

## Main definitions

* `StepKind`: what a step was declared as
* `Transition`: an edge, possibly guarded
* `StepConfig`, `Step`: a step with its configuration
* `Flow`: the steps in the order of their declaration, and the entry

## Design notes

The steps are filed under names, and a step also carries a name of its own.  The compiler files
each step under its own name; a flow built by hand need not.
-/

namespace Runbook

/-- What a step was declared as. -/
inductive StepKind where
  | task
  | wait
  | branch
  | loop
  | jump
  | assert
  | terminate
deriving DecidableEq, Repr, Inhabited

namespace StepKind

/-- The kinds. -/
def all : List StepKind := [task, wait, branch, loop, jump, assert, terminate]

/-- The written name of a kind. -/
def name : StepKind → String
  | task => "task"
  | wait => "wait"
  | branch => "branch"
  | loop => "loop"
  | jump => "jump"
  | assert => "assert"
  | terminate => "terminate"

/-- The kind with the given name. -/
def ofName? (name : String) : Option StepKind := all.find? (fun kind => kind.name == name)

/-- The kind that a text names, blanks around it aside. -/
def parse (text : String) : Except UnknownName StepKind :=
  let name := String.ofList (Text.trim text.toList)
  match ofName? name with
  | some kind => .ok kind
  | none => .error ⟨"step type", name⟩

@[simp] theorem ofName?_name (kind : StepKind) : ofName? kind.name = some kind := by
  cases kind <;> rfl

end StepKind

/-- A directed edge to a step; without a condition it is a default edge. -/
structure Transition where
  /-- The name of the step it leads to. -/
  target : String
  /-- The guard. -/
  condition : Option String
deriving DecidableEq, Repr, Inhabited

namespace Transition

/-- A default edge. -/
def plain (target : String) : Transition := ⟨target, none⟩

/-- A guarded edge. -/
def guarded (target condition : String) : Transition := ⟨target, some condition⟩

/-- Is the edge unguarded? -/
def isDefault (t : Transition) : Bool := t.condition.isNone

@[simp] theorem isDefault_plain (target : String) : (plain target).isDefault = true := rfl

@[simp] theorem isDefault_guarded (target condition : String) :
    (guarded target condition).isDefault = false := rfl

end Transition

/-- What happens on arrival at a step. -/
structure StepConfig where
  /-- What the step was declared as. -/
  kind : StepKind := .task
  /-- Arrival pauses the run until it is approved. -/
  wait : Bool := false
  /-- Arrival ends the run. -/
  terminate : Bool := false
  /-- Why the run ends there. -/
  reason : Option String := none
  /-- The guard expression of a loop header; it should have a list as its value. -/
  iterate : Option String := none
  /-- The step follows its own transitions on arrival. -/
  auto : Bool := false
  /-- Everything else that was declared. -/
  extra : Json.Object := []
deriving DecidableEq, Inhabited

namespace StepConfig

/-- A loop header is a step with an iterate expression. -/
def isLoopHeader (c : StepConfig) : Bool := c.iterate.isSome

end StepConfig

/-- A named node of a flow. -/
structure Step where
  /-- The name that the run records. -/
  name : String
  /-- The edges, in the order of their declaration. -/
  transitions : List Transition := []
  /-- What happens on arrival. -/
  config : StepConfig := {}
deriving DecidableEq, Inhabited

/-- A flow: its steps and the one it starts at. -/
structure Flow where
  /-- The name of the flow. -/
  name : String
  /-- What the flow is for. -/
  description : String := ""
  /-- The steps by name, in the order of their declaration. -/
  steps : Dict Step
  /-- The name of the first step. -/
  entry : String
deriving DecidableEq, Inhabited

namespace Flow

/-- The step that is filed under a name. -/
def step? (flow : Flow) (name : String) : Option Step := flow.steps.get? name

/-- Is a step filed under the name? -/
def contains (flow : Flow) (name : String) : Bool := flow.steps.contains name

/-- The names under which steps are filed, in order. -/
def stepNames (flow : Flow) : List String := flow.steps.keys

end Flow

end Runbook
