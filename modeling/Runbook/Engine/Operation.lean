import Runbook.Engine.Basic

/-!
# Operations

The operations on the run, each as a plan: what it is going to write and what it answers.

## Main definitions

* `Command`: an operation with its arguments
* `Engine.plan`: what an operation is going to do
* `Engine.perform`: carry an operation out
* `Engine.execute`: the same, with faults as refusals

## Design notes

Each operation looks at the status of the run first.  `submit` takes output at a running step and
`approve` at a waiting one; apart from the row that `approve` adds, they do the same.  All that can
be refused is refused before anything is written: the choice of the next step, the check of the
hook, and the archive.  Only when the output is recorded does the run go on, and what it meets on
its way no longer takes the output back.
-/

namespace Runbook

/-- An operation with its arguments. -/
inductive Command where
  /-- Load a definition and begin a run. -/
  | start (definition : String) (data : Json.Object)
  /-- Record an output at a running step. -/
  | submit (payload : Json.Object)
  /-- Record an output at a waiting step. -/
  | approve (payload : Json.Object)
  /-- Note that a waiting step was not approved. -/
  | reject (reason : Option String)
  /-- Leave a step without output. -/
  | skip (reason : Option String)
  /-- Let a step run again. -/
  | retry
  /-- Put the run to a step. -/
  | goto (target : String)
  /-- Put the run to the step before. -/
  | back
  /-- Pause the run. -/
  | stop
  /-- Go on after a pause. -/
  | resume
  /-- Save the live state under a name. -/
  | saveCheckpoint (name : String)
  /-- Make a saved state the live one. -/
  | restoreCheckpoint (name : String)
  /-- Forget the run and its history. -/
  | reset
deriving DecidableEq

namespace Engine

/-! ## Deciding -/

/-- Decide on the live state; without one the operation is refused. -/
def onRun (e : Engine) (decide : RunState → Except RunFault Plan) : Except RunFault Plan := do
  match ← e.current with
  | some state => decide state
  | none => return .refuse .noRun

/-- Decide on the flow of a run; unless it is loaded the operation is refused. -/
def onFlow (e : Engine) (state : RunState) (decide : Flow → Plan) : Plan :=
  match e.flowOf state with
  | .ok flow => decide flow
  | .error why => .refuse why

/-- The live state with another status, and a row that says so. -/
def mark (state : RunState) (status : Status) (action : Action) : List Write :=
  [.live { state with status }, .record state.flowName state.currentStep action none]

/-- Begin a run, unless there is one that is not done. -/
def planStart (e : Engine) (now : Instant) (definition : String) (data : Json.Object) :
    Except RunFault Plan := do
  let previous ← e.current
  match previous.filter fun state => state.status != .done with
  | some active => return .refuse (.active active.flowName active.currentStep)
  | none =>
    let (flow, _) ← compile definition
    let state := RunState.initial flow.name flow.entry data now
    let journey := (e.track flow).enter state flow.entry false
    return {
      binds := some flow
      writes := .live state :: .record flow.name flow.entry .start none :: journey.writes
      outcome := .started flow.name journey.outcome }

/-- The next step that an output names.  Null and blanks name none, and a value that is no text
names the step of its text. -/
def choice? (payload : Json.Object) : Option String :=
  match Fields.get? payload Refusal.choiceKey with
  | none | some .null => none
  | some (.str s) =>
    let name := Text.trim s.toList
    if name.isEmpty then none else some (String.ofList name)
  | some value => some value.compress

/-- The reason why the hook of a step does not take an output. -/
def complaint? (hooks : Registry) (step : String) (payload : Json.Object) : Option String :=
  (hooks.hook? step).bind fun hook =>
    if hook.hasKind .validate then hook.complaint? (.obj payload) else none

/-- The archive of a step: the table of its hook and the fields that are kept. -/
def archive? (hooks : Registry) (step : String) : Option (String × Option Schema) :=
  (hooks.hook? step).bind fun hook =>
    if hook.hasKind .archive then hook.archiveTable.map fun table => (table, hook.schema) else none

/-- What is written to archive an output. -/
def archiveWrites (e : Engine) (step : String) (payload : Json.Object) :
    Except TableFault (List Write) :=
  match archive? e.hooks step with
  | none => .ok []
  | some (table, schema) =>
    (fun _ => [.archive table schema payload]) <$> e.store.archiveOutput table schema payload

/-- The row that opens a gate. -/
def approval (state : RunState) (step : Step) (approving : Bool) : List Write :=
  if approving then [.record state.flowName step.name .approve none] else []

/-- The state with the output of a step. -/
def withOutput (state : RunState) (step : Step) (payload : Json.Object) : RunState :=
  { state with status := .running, data := state.data.insert step.name (.obj payload) }

/-- The rows of an output: the live state that has it, and the text of it in the history. -/
def output (next : RunState) (step : Step) (payload : Json.Object) : List Write :=
  [.live next, .record next.flowName step.name .submit (some (Json.Object.compress payload))]

/-- The journey after an output: to the step that was chosen, if one was. -/
def onward (track : Track) (state : RunState) (step : Step) : Option String → Journey
  | some target => track.enter state target true
  | none => track.follow state step

/-- Record an output of a step and go on. -/
def planOutput (e : Engine) (state : RunState) (payload : Json.Object) (approving : Bool) : Plan :=
  e.onFlow state fun flow =>
    match flow.step? state.currentStep with
    | none => .refuse (.lostOutput state.currentStep)
    | some step =>
      let choice := choice? payload
      let payload := payload.erase Refusal.choiceKey
      match choice.filter fun target => !flow.contains target with
      | some target => .refuse (.unknownChoice target flow.stepNames)
      | none =>
        match complaint? e.hooks step.name payload with
        | some reason => .refuse (.complaint step.name reason)
        | none =>
          match e.archiveWrites step.name payload with
          | .error fault => .refuse (.notArchived fault)
          | .ok archive =>
            let next := withOutput state step payload
            .travel (archive ++ approval state step approving ++ output next step payload)
              (onward (e.track flow) next step choice)

/-- Record an output at a running step. -/
def planSubmit (e : Engine) (payload : Json.Object) (state : RunState) : Plan :=
  match state.status with
  | .done => .refuse .completed
  | .stopped => .refuse .stoppedBeforeOutput
  | .waiting => .refuse (.gated state.currentStep)
  | .running => e.planOutput state payload false

/-- Record an output at a waiting step. -/
def planApprove (e : Engine) (payload : Json.Object) (state : RunState) : Plan :=
  if state.status = .waiting then e.planOutput state payload true
  else .refuse (.notGated state.currentStep state.status)

/-- Note that a waiting step was not approved. -/
def planReject (reason : Option String) (state : RunState) : Plan :=
  if state.status = .waiting then
    .act [.record state.flowName state.currentStep .reject reason]
      (.rejected state.currentStep reason)
  else .refuse (.notGated state.currentStep state.status)

/-- Leave a step without output and go on. -/
def planSkip (e : Engine) (reason : Option String) (state : RunState) : Plan :=
  match state.status with
  | .done => .refuse .completed
  | .stopped => .refuse .stoppedBeforeSkip
  | .running | .waiting =>
    e.onFlow state fun flow =>
      match flow.step? state.currentStep with
      | none => .refuse (.lostSkip state.currentStep)
      | some step =>
        let next := { state with status := .running }
        .travel [.record state.flowName step.name .skip reason, .live next]
          ((e.track flow).follow next step)

/-- Let a step run again. -/
def planRetry (state : RunState) : Plan :=
  .act (mark state .running .retry) (.retrying state.currentStep)

/-- Put the run to a step of its flow. -/
def planGoto (e : Engine) (target : String) (state : RunState) : Plan :=
  e.onFlow state fun flow =>
    if flow.contains target then
      .act (mark { state with currentStep := target } .running .goto) (.jumped target)
    else .refuse (.unknownTarget target flow.stepNames)

/-- Can the run go back to the step of an entry?  It can if that is another step and, when a flow is
loaded, one of the flow. -/
def leadsBack (e : Engine) (state : RunState) (entry : HistoryEntry) : Bool :=
  entry.step != state.currentStep && e.flow.all fun flow => flow.contains entry.step

/-- Put the run to the step before. -/
def planBack (e : Engine) (state : RunState) : Except RunFault Plan := do
  let entries ← e.history (some e.limits.backScan)
  match entries.find? (e.leadsBack state) with
  | some entry =>
    return .act (mark { state with currentStep := entry.step } .running .back)
      (.movedBack entry.step)
  | none => return .refuse .noPrevious

/-- Pause the run. -/
def planStop (state : RunState) : Plan :=
  match state.status with
  | .done => .refuse .stopAfterEnd
  | .stopped => .refuse .stopAgain
  | .running | .waiting => .act (mark state .stopped .stop) (.stopped state.currentStep)

/-- Is the step of the run gated? -/
def isGated (flow : Flow) (state : RunState) : Bool :=
  (flow.step? state.currentStep).any fun step => step.config.wait

/-- Go on after a pause; a gated step waits again. -/
def planResume (e : Engine) (state : RunState) : Plan :=
  if state.status = .stopped then
    e.onFlow state fun flow =>
      .act (mark state (if isGated flow state then .waiting else .running) .resume)
        (.resumed state.currentStep)
  else .refuse (.notStopped state.status)

/-- Save the live state under a name. -/
def planSave (name : String) (state : RunState) : Plan :=
  .act [.checkpoint name state] (.saved name state.currentStep)

/-- Make a saved state the live one. -/
def planRestore (e : Engine) (name : String) : Except RunFault Plan := do
  match ← e.checkpoint? name with
  | some state =>
    return .act
      [.live state, .record state.flowName state.currentStep .restore (some name)]
      (.restored name state.currentStep)
  | none => return .refuse (.noCheckpoint name)

/-- What an operation is going to do. -/
def plan (e : Engine) (now : Instant) : Command → Except RunFault Plan
  | .start definition data => e.planStart now definition data
  | .submit payload => e.onRun fun state => pure (e.planSubmit payload state)
  | .approve payload => e.onRun fun state => pure (e.planApprove payload state)
  | .reject reason => e.onRun fun state => pure (planReject reason state)
  | .skip reason => e.onRun fun state => pure (e.planSkip reason state)
  | .retry => e.onRun fun state => pure (planRetry state)
  | .goto target => e.onRun fun state => pure (e.planGoto target state)
  | .back => e.onRun e.planBack
  | .stop => e.onRun fun state => pure (planStop state)
  | .resume => e.onRun fun state => pure (e.planResume state)
  | .saveCheckpoint name => e.onRun fun state => pure (planSave name state)
  | .restoreCheckpoint name => e.planRestore name
  | .reset => .ok (.act [.clear] .cleared)

/-! ## Carrying out -/

/-- Carry an operation out: the engine afterwards and the answer, or the fault that kept it from
being decided. -/
def perform (e : Engine) (now : Instant) (command : Command) : Except RunFault (Engine × Outcome) :=
  (fun plan => (e.commit now plan, plan.outcome)) <$> e.plan now command

/-- Carry an operation out; a fault is a refusal that changes nothing. -/
def execute (e : Engine) (now : Instant) (command : Command) : Engine × Outcome :=
  match e.perform now command with
  | .ok result => result
  | .error fault => (e, .refused (.fault fault))

end Engine

end Runbook
