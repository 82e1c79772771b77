import Runbook.Run.Journey

/-!
# The engine

The engine carries operations on the run out: it holds the store, the hooks, the limits and the flow
that is loaded.

## Main definitions

* `Engine`: what operations work on
* `Plan`: what an operation is going to do, and what it answers
* `Engine.commit`: do it
* `Engine.load`: load a flow

## Design notes

An operation is decided first and written afterwards.  Deciding reads the store and can fail; its
result is a plan.  Writing a plan cannot fail.  So an operation that fails has changed nothing, and
an operation that is refused has changed what its plan says, which is nothing unless the run went on
and was refused on its way.
-/

namespace Runbook

/-- What operations work on. -/
structure Engine where
  /-- What is kept. -/
  store : Store
  /-- The hooks that are known. -/
  hooks : Registry
  /-- The limits that runs are bound by. -/
  limits : Limits
  /-- The flow that is loaded. -/
  flow : Option Flow

/-- What an operation is going to do, and what it answers. -/
structure Plan where
  /-- The flow that becomes the loaded one. -/
  binds : Option Flow
  /-- What is written, in order. -/
  writes : List Write
  /-- What is answered. -/
  outcome : Outcome

namespace Plan

/-- Nothing is done. -/
def refuse (why : Refusal) : Plan := ⟨none, [], .refused why⟩

/-- Some changes, and an answer. -/
def act (writes : List Write) (outcome : Outcome) : Plan := ⟨none, writes, outcome⟩

/-- Some changes, and then a journey. -/
def travel (writes : List Write) (journey : Journey) : Plan :=
  ⟨none, writes ++ journey.writes, journey.outcome⟩

end Plan

namespace Engine

/-- The engine with an empty store and no flow. -/
def new (hooks : Registry) (limits : Limits) : Engine := ⟨.empty, hooks, limits, none⟩

/-- The engine over the same store in a later session, with these hooks: no flow is loaded. -/
def reopen (e : Engine) (hooks : Registry) : Engine := { e with hooks, flow := none }

/-- What a journey through a flow goes by. -/
def track (e : Engine) (flow : Flow) : Track := ⟨flow, e.hooks, e.limits.autoSteps⟩

/-- Do what a plan says. -/
def commit (e : Engine) (now : Instant) (plan : Plan) : Engine :=
  { e with
    flow := plan.binds.or e.flow
    store := e.store.applyAll now plan.writes }

/-- The flow of a definition and the warnings about it, unless it has errors. -/
def compile (definition : String) : Except RunFault (Flow × List Diagnostic) :=
  match Flow.ofText definition with
  | .error error => .error (.source error)
  | .ok flow =>
    let diagnostics := flow.check
    if Flow.hasErrors diagnostics then .error (.invalid (diagnostics.filter Diagnostic.isError))
    else .ok (flow, diagnostics)

/-- Load the flow of a definition, and answer the warnings about it. -/
def load (e : Engine) (definition : String) : Except RunFault (Engine × List Diagnostic) := do
  let (flow, warnings) ← compile definition
  return ({ e with flow := some flow }, warnings)

/-- The live state, if there is one. -/
def current (e : Engine) : Except RunFault (Option RunState) :=
  match e.store.current with
  | .ok state => .ok state
  | .error fault => .error (.store fault)

/-- The loaded flow, if it is the one of a run. -/
def flowOf (e : Engine) (state : RunState) : Except Refusal Flow :=
  match e.flow with
  | none => .error (.noFlow state.flowName)
  | some flow =>
    if flow.name = state.flowName then .ok flow else .error (.otherFlow flow.name state.flowName)

/-- The newest entries of the history; the limit for those who do not give one is in the limits. -/
def history (e : Engine) (limit : Option Nat) : Except RunFault (List HistoryEntry) :=
  match e.store.entries (limit.getD e.limits.history) with
  | .ok entries => .ok entries
  | .error fault => .error (.store fault)

/-- The data of the run; without a run there is none. -/
def data (e : Engine) : Except RunFault Json.Object := do
  let state ← e.current
  return (state.map RunState.data).getD []

/-- The state of a checkpoint, if there is one of the name. -/
def checkpoint? (e : Engine) (name : String) : Except RunFault (Option RunState) :=
  match e.store.checkpoint? name with
  | .ok state => .ok state
  | .error fault => .error (.store fault)

/-- What is listed of the checkpoints. -/
def checkpointInfos (e : Engine) : Except RunFault (List CheckpointInfo) :=
  match e.store.checkpointInfos with
  | .ok infos => .ok infos
  | .error fault => .error (.store fault)

end Engine

end Runbook
