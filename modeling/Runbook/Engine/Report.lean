import Runbook.Engine.Basic
import Runbook.Guard.Template

/-!
# Reports

What there is to know about the run at a glance, for whoever drives it.

## Main definitions

* `HookNote`: what the hook of the current step tells
* `Report`: the report
* `Engine.report`: the report on the live run
-/

namespace Runbook

/-- What the hook of the current step tells. -/
structure HookNote where
  name : String
  kinds : List HookKind
  /-- The instructions, with the data of the run in place of its templates. -/
  instructions : Option String
  editPolicy : Option EditPolicy
deriving DecidableEq

/-- What there is to know about a run. -/
structure Report where
  flowName : String
  currentStep : String
  displayPath : String
  totalSteps : Nat
  status : Status
  elapsed : String
  lastAction : Option HistoryEntry
  allowedActions : List String
  data : Json.Object
  summary : String
  pending : List Decision
  hook : Option HookNote
deriving DecidableEq

/-- What a hook tells at its step. -/
def Hook.note (hook : Hook) (data : Json.Object) : HookNote where
  name := hook.name
  kinds := hook.sortedKinds
  instructions :=
    if hook.instructions = "" then none
    else some (Guard.Template.render hook.instructions data)
  editPolicy := hook.editPolicy

namespace Report

/-- What is said along with pending decisions. -/
def decisionHint : String :=
  "This step has conditions that need an external decision. "
    ++ "Evaluate them, then submit with \x7b\"_goto\": \"<step>\"\x7d to choose a path."

/-- The hint, if there are decisions to take. -/
def hint? (report : Report) : Option String :=
  if report.pending.isEmpty then none else some decisionHint

/-- The run in one line. -/
def summarize (flow : Flow) (state : RunState) (elapsed : String) (last : Option HistoryEntry) :
    String :=
  ", ".intercalate
    ([flow.name ++ " > " ++ state.displayPath]
      ++ (if state.status = .waiting then ["waiting for approval"] else [])
      ++ ["elapsed " ++ elapsed]
      ++ (last.map fun entry => "last: " ++ entry.action.name).toList)

/-- The report on a run. -/
def build (flow : Flow) (state : RunState) (last : Option HistoryEntry) (hook : Option Hook)
    (now : Instant) : Report :=
  let elapsed := elapsedText (Runbook.elapsed state.startedAt now)
  { flowName := flow.name
    currentStep := state.currentStep
    displayPath := state.displayPath
    totalSteps := flow.steps.size
    status := state.status
    elapsed
    lastAction := last
    allowedActions := state.status.allowedActions
    data := state.data
    summary := summarize flow state elapsed last
    pending := ((flow.step? state.currentStep).map fun s => Decision.pending s.transitions).getD []
    hook := hook.map fun hook => hook.note state.data }

end Report

namespace Engine

/-- The hook of the current step, if the flow has the step. -/
def currentHook? (e : Engine) (flow : Flow) (state : RunState) : Option Hook :=
  if flow.contains state.currentStep then e.hooks.hook? state.currentStep else none

/-- The report on the live run, if there is one.  The flow of the run has to be loaded. -/
def report (e : Engine) (now : Instant) : Except RunFault (Option Report) := do
  match ← e.current with
  | none => return none
  | some state =>
    match e.flowOf state with
    | .error _ => .error (.notLoaded state.flowName)
    | .ok flow =>
      let entries ← e.history (some 1)
      return some (.build flow state entries.head? (e.currentHook? flow state) now)

end Engine

end Runbook
