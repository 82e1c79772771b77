import Runbook.Data.Dict
import Runbook.Json.Basic
import Runbook.Run.Status
import Runbook.Time.Instant

/-!
# State of a run

Where a run stands: the flow it follows, its current step, its status, the last output of each
step, and how far each active loop has come.

## Main definitions

* `LoopCounter`: how far a loop has come
* `RunState`: where a run stands
* `RunState.context`: what guards can see of it
* `RunState.displayPath`: the active loops and the current step as a text
-/

namespace Runbook

/-- How far a loop has come: the index of the current item and the number of items. -/
structure LoopCounter where
  index : Nat
  count : Nat
deriving DecidableEq, Repr, Inhabited

/-- Where a run stands. -/
structure RunState where
  /-- The name of the flow that the run follows. -/
  flowName : String
  /-- The step it is at. -/
  currentStep : String
  /-- Its status. -/
  status : Status
  /-- The initial data, and the last output of each step under its name. -/
  data : Json.Object
  /-- The active loops by the name of their header, the outermost first. -/
  loops : Dict LoopCounter
  /-- When the run was started. -/
  startedAt : Instant
deriving DecidableEq, Inhabited

namespace RunState

/-- The state at the start of a run. -/
def initial (flowName entry : String) (data : Json.Object) (now : Instant) : RunState :=
  { flowName, currentStep := entry, status := .running, data, loops := .empty, startedAt := now }

/-- The data with the index of each active loop under the name of its header. -/
def context (s : RunState) : Json.Object :=
  s.loops.entries.foldl (fun data loop => Fields.insert data loop.1 (.int loop.2.index)) s.data

/-- A loop counter as it is shown, counted from one. -/
def loopText (name : String) (counter : LoopCounter) : String :=
  name ++ "[" ++ Nat.repr (counter.index + 1) ++ "/" ++ Nat.repr counter.count ++ "]"

/-- The active loops, the outermost first, and the current step: `each[2/3] > edit`. -/
def displayPath (s : RunState) : String :=
  " > ".intercalate (s.loops.entries.map (fun loop => loopText loop.1 loop.2) ++ [s.currentStep])

end RunState

end Runbook
