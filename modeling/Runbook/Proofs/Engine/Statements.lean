import Mathlib
import Runbook.Engine.Operation
import Runbook.Engine.Report
import Runbook.Proofs.Store.Writes

/-!
# Operations, statement by statement

`Engine.plan` decides an operation before anything is written, so a fault cannot leave half of an
operation behind.  A database knows nothing of plans.  There the statements of an operation are
carried out one after the other, each of them sees what the ones before have changed, and if one of
them fails, what was changed by then stays changed.  This module carries the operations out in that
way, with every read, every check and every write in its place, and shows that it comes to the same.
So a fault always comes before the first write, and before another flow is bound.

## Main definitions

* `Statements`: statements on an engine, which keep what they have changed when they fail
* `Statements.operate`: an operation as statements
* `Call`: everything that can be asked of an engine, looks included
* `Call.statements`, `Call.outright`: a call as statements, and as it is carried out elsewhere

## Main statements

* `Statements.performs_arrive`: a journey writes as it goes what is read off its hops in the end
* `Statements.run_operate`: an operation as statements does what its plan says
* `Call.run_statements`: the two ways to carry a call out agree
* `Call.eq_of_fault`: a call that ends in a fault has changed nothing

## Design notes

Writes of rows are taken not to fail.  An archive is different, as its table may not fit: making the
table and adding the row are two statements, and the second one may fail after the first.  That is
no fault but a refusal, and it changes nothing either (`Store.ensureArchive_eq_of_refused`).
-/

namespace Runbook

/-- Statements on an engine.  A fault ends them, and leaves the engine as it is at that point. -/
abbrev Statements (α : Type) := ExceptT RunFault (StateM Engine) α

namespace Statements

variable {α β : Type}

/-- Carry the statements out. -/
def run (p : Statements α) (e : Engine) : Except RunFault α × Engine := StateT.run (ExceptT.run p) e

/-- Look at the engine, which may fail. -/
def look (read : Engine → Except RunFault α) : Statements α :=
  ExceptT.mk fun e => (read e, e)

/-- Change the store. -/
def write (now : Instant) (w : Write) : Statements Unit :=
  modify fun e => { e with store := e.store.apply now w }

@[simp] theorem run_pure (a : α) (e : Engine) : run (pure a) e = (.ok a, e) := rfl

@[simp] theorem run_get (e : Engine) : run get e = (.ok e, e) := rfl

@[simp] theorem run_set (e after : Engine) : run (set after) e = (.ok ⟨⟩, after) := rfl

@[simp] theorem run_look (read : Engine → Except RunFault α) (e : Engine) :
    run (look read) e = (read e, e) := rfl

theorem run_bind (p : Statements α) (next : α → Statements β) (e : Engine) :
    run (p >>= next) e =
      match run p e with
      | (.ok a, e) => run (next a) e
      | (.error fault, e) => (.error fault, e) := by
  unfold run
  rw [ExceptT.run_bind, StateT.run_bind]
  cases (ExceptT.run p).run e with
  | mk result after => cases result <;> rfl

/-! ## Journeys -/

/-- The run ends at a loop header. -/
def endAt (now : Instant) (header : Step) (ending : LoopEnding) (state : RunState) :
    Statements Outcome := do
  write now (.live { state with currentStep := header.name, status := .done })
  return .endedLoop ending header.name

/-- Take the way out of a loop. -/
def leaveLoop (now : Instant) (go : RunState → String → Statements Outcome) (header : Step)
    (exits : List Transition) (ending : LoopEnding) (state : RunState) : Statements Outcome :=
  match exits with
  | exit :: _ => go state exit.target
  | [] => endAt now header ending state

/-- Go through a loop header, and on with `go`.  A counter that changes is saved at once. -/
def passThrough (now : Instant) (go : RunState → String → Statements Outcome) (state : RunState)
    (header : Step) : Statements Outcome :=
  match header.transitions with
  | [] => endAt now header .noBody state
  | body :: exits =>
    match state.loops.get? header.name with
    | none =>
      if header.items state = 0 then leaveLoop now go header exits .skipped state
      else do
        let counted :=
          { state with loops := state.loops.insert header.name ⟨0, header.items state⟩ }
        write now (.live counted)
        go counted body.target
    | some counter =>
      if counter.index + 1 < counter.count then do
        let counted :=
          { state with
            loops := state.loops.insert header.name { counter with index := counter.index + 1 } }
        write now (.live counted)
        go counted body.target
      else do
        let left := { state with loops := state.loops.erase header.name }
        write now (.live left)
        leaveLoop now go header exits .completed left

/-- Leave a plain step, and go on with `go`. -/
def leave (now : Instant) (track : Track) (go : RunState → String → Statements Outcome)
    (state : RunState) (step : Step) : Statements Outcome :=
  match step.route track.hooks state with
  | .towards target => go state target
  | .undecided pending => return .undecided step.name pending
  | .done => do
    write now (.live { state with status := .done })
    return .completed
  | .stuck => return .refused (.noTransition step.name)

/-- Arrive at a step, with a budget of arrivals. -/
def arrive (now : Instant) (track : Track) : Nat → RunState → String → Bool → Statements Outcome
  | 0, state, _, _ => return .refused (.tooManySteps state.currentStep track.limit)
  | budget + 1, state, target, recorded =>
    match track.flow.step? target with
    | none => return .refused (.missingTarget target)
    | some step =>
      if step.config.isLoopHeader then
        passThrough now (fun state target => arrive now track budget state target true) state step
      else if step.config.terminate then do
        let reason := step.config.reason.getD Track.defaultReason
        write now (.live (Track.atEnd step state))
        write now (.record state.flowName step.name .terminate (some reason))
        return .terminated step.name reason
      else do
        write now (.live (Track.atStep step state))
        if recorded then write now (.record state.flowName step.name .transition none)
        if step.advances then
          leave now track (fun state target => arrive now track budget state target true)
            (Track.atStep step state) step
        else return .arrived step.name

/-- Leave a step, be it a loop header or not. -/
def follow (now : Instant) (track : Track) (state : RunState) (step : Step) : Statements Outcome :=
  if step.config.isLoopHeader then
    passThrough now (fun state target => arrive now track track.limit state target true) state step
  else leave now track (fun state target => arrive now track track.budget state target true) state
    step

/-! ### What journeys write -/

/-- The statements make these changes, the first one first, and end in this answer. -/
def Performs (now : Instant) (p : Statements Outcome) (writes : List Write) (outcome : Outcome) :
    Prop :=
  ∀ e, run p e = (.ok outcome, { e with store := e.store.applyAll now writes })

section Journeys

variable {now : Instant} {p : Statements Outcome} {writes : List Write} {outcome : Outcome}

theorem performs_pure (now : Instant) (outcome : Outcome) :
    Performs now (pure outcome) [] outcome := fun _ => rfl

/-- A change in front of some statements. -/
theorem Performs.write (performs : Performs now p writes outcome) (w : Write) :
    Performs now (do write now w; p) (w :: writes) outcome := by
  intro e
  rw [run_bind]
  exact performs { e with store := e.store.apply now w }

/-- Another answer to the same changes. -/
theorem Performs.map (performs : Performs now p writes outcome) (answer : Outcome → Outcome) :
    Performs now (do let outcome ← p; return answer outcome) writes (answer outcome) := by
  intro e
  rw [run_bind, performs e]
  rfl

variable {go : RunState → String → Journey} {went : RunState → String → Statements Outcome}

theorem performs_endAt (header : Step) (ending : LoopEnding) (state : RunState) :
    Performs now (endAt now header ending state) (Track.endAt header ending state).writes
      (Track.endAt header ending state).outcome :=
  (performs_pure now _).write _

/-- Going through a loop header saves the counter that its pass changes. -/
theorem performs_passThrough (onward : ∀ state target,
      Performs now (went state target) (go state target).writes (go state target).outcome)
    (state : RunState) (header : Step) :
    Performs now (passThrough now went state header) (Track.passThrough go state header).writes
      (Track.passThrough go state header).outcome := by
  unfold passThrough Track.passThrough
  cases header.transitions with
  | nil => exact performs_endAt header .noBody state
  | cons body exits =>
    dsimp only
    unfold Step.pass
    cases state.loops.get? header.name with
    | none =>
      by_cases empty : header.items state = 0
      · simp only [empty, if_true]
        cases exits with
        | nil => exact performs_endAt header .skipped state
        | cons exit more => exact onward state exit.target
      · simp only [empty, if_false]
        exact (onward _ body.target).write _
    | some counter =>
      dsimp only
      split
      · exact (onward _ body.target).write _
      · cases exits with
        | nil => exact (performs_endAt header .completed _).write _
        | cons exit more => exact (onward _ exit.target).write _

theorem performs_leave (track : Track) (onward : ∀ state target,
      Performs now (went state target) (go state target).writes (go state target).outcome)
    (state : RunState) (step : Step) :
    Performs now (leave now track went state step) (track.leave go state step).writes
      (track.leave go state step).outcome := by
  unfold leave Track.leave
  cases step.route track.hooks state with
  | towards target => exact onward state target
  | undecided pending => exact performs_pure now _
  | done => exact (performs_pure now _).write _
  | stuck => exact performs_pure now _

/-- **A journey that starts with an arrival** writes as it goes what is read off its hops. -/
theorem performs_arrive (now : Instant) (track : Track) (budget : Nat) (state : RunState)
    (target : String) (recorded : Bool) :
    Performs now (arrive now track budget state target recorded)
      (track.arrive budget state target recorded).writes
      (track.arrive budget state target recorded).outcome := by
  induction budget generalizing state target recorded with
  | zero => exact performs_pure now _
  | succ budget ih =>
    unfold arrive Track.arrive
    cases track.flow.step? target with
    | none => exact performs_pure now _
    | some step =>
      dsimp only
      split
      · exact performs_passThrough (fun state target => ih state target true) state step
      · split
        · exact ((performs_pure now _).write _).write _
        · have rest : Performs now
              (if step.advances then
                leave now track (fun state target => arrive now track budget state target true)
                  (Track.atStep step state) step
              else return .arrived step.name)
              (if step.advances then
                track.leave (fun state target => track.arrive budget state target true)
                  (Track.atStep step state) step
              else .stay (.arrived step.name)).writes
              (if step.advances then
                track.leave (fun state target => track.arrive budget state target true)
                  (Track.atStep step state) step
              else .stay (.arrived step.name)).outcome := by
            split
            · exact performs_leave track (fun state target => ih state target true) _ step
            · exact performs_pure now _
          -- the row of the arrival is written only if it is recorded
          cases recorded with
          | true => exact (rest.write _).write _
          | false => exact rest.write _

/-- A journey that starts with leaving a step. -/
theorem performs_follow (now : Instant) (track : Track) (state : RunState) (step : Step) :
    Performs now (follow now track state step) (track.follow state step).writes
      (track.follow state step).outcome := by
  unfold follow Track.follow
  split
  · exact performs_passThrough (fun state target => performs_arrive now track _ state target true)
      state step
  · exact performs_leave track (fun state target => performs_arrive now track _ state target true)
      state step

end Journeys

/-! ## Operations -/

/-- Go on with the live state; without one the operation is refused. -/
def onRun (decide : RunState → Statements Outcome) : Statements Outcome := do
  match ← look Engine.current with
  | some state => decide state
  | none => return .refused .noRun

/-- Go on with the flow of a run; unless it is loaded the operation is refused. -/
def onFlow (state : RunState) (decide : Flow → Statements Outcome) : Statements Outcome := do
  match (← get).flowOf state with
  | .ok flow => decide flow
  | .error why => return .refused why

/-- Load a definition. -/
def load (definition : String) : Statements (Flow × List Diagnostic) := do
  let (flow, warnings) ← look fun _ => Engine.compile definition
  modify fun e => { e with flow := some flow }
  return (flow, warnings)

/-- Load a definition and begin a run, unless there is one that is not done. -/
def start (now : Instant) (definition : String) (data : Json.Object) : Statements Outcome := do
  match (← look Engine.current).filter fun state => state.status != .done with
  | some active => return .refused (.active active.flowName active.currentStep)
  | none =>
    let (flow, _) ← load definition
    let track := (← get).track flow
    let state := RunState.initial flow.name flow.entry data now
    write now (.live state)
    write now (.record flow.name flow.entry .start none)
    let arrival ← arrive now track track.budget state flow.entry false
    return .started flow.name arrival

/-- Archive an output: make the table, then add the row.  The answer is what kept it from being
archived. -/
def archive (step : String) (payload : Json.Object) : Statements (Option TableFault) := do
  let e ← get
  match Engine.archive? e.hooks step with
  | none => return none
  | some (table, schema) =>
    match e.store.ensureArchive table schema with
    | .error fault => return some fault
    | .ok made =>
      set { e with store := made }
      match made.archive table schema payload with
      | .error fault => return some fault
      | .ok (added, _) =>
        set { e with store := added }
        return none

/-- Record an output of a step and go on. -/
def recordOutput (now : Instant) (state : RunState) (payload : Json.Object) (approving : Bool) :
    Statements Outcome :=
  onFlow state fun flow => do
    match flow.step? state.currentStep with
    | none => return .refused (.lostOutput state.currentStep)
    | some step =>
      let choice := Engine.choice? payload
      let payload := payload.erase Refusal.choiceKey
      match choice.filter fun target => !flow.contains target with
      | some target => return .refused (.unknownChoice target flow.stepNames)
      | none =>
        match Engine.complaint? (← get).hooks step.name payload with
        | some reason => return .refused (.complaint step.name reason)
        | none =>
          match ← archive step.name payload with
          | some fault => return .refused (.notArchived fault)
          | none =>
            let track := (← get).track flow
            if approving then write now (.record state.flowName step.name .approve none)
            let next := Engine.withOutput state step payload
            write now (.live next)
            write now (.record next.flowName step.name .submit
              (some (Json.Object.compress payload)))
            match choice with
            | some target => arrive now track track.budget next target true
            | none => follow now track next step

/-- Change the status of the run and note it. -/
def mark (now : Instant) (state : RunState) (status : Status) (action : Action) :
    Statements Unit := do
  write now (.live { state with status })
  write now (.record state.flowName state.currentStep action none)

/-- Leave a step without output and go on. -/
def skip (now : Instant) (reason : Option String) (state : RunState) : Statements Outcome :=
  onFlow state fun flow => do
    match flow.step? state.currentStep with
    | none => return .refused (.lostSkip state.currentStep)
    | some step =>
      let track := (← get).track flow
      write now (.record state.flowName step.name .skip reason)
      let next := { state with status := .running }
      write now (.live next)
      follow now track next step

/-- An operation as statements. -/
def operate (now : Instant) : Command → Statements Outcome
  | .start definition data => start now definition data
  | .submit payload => onRun fun state =>
    match state.status with
    | .done => return .refused .completed
    | .stopped => return .refused .stoppedBeforeOutput
    | .waiting => return .refused (.gated state.currentStep)
    | .running => recordOutput now state payload false
  | .approve payload => onRun fun state =>
    if state.status = .waiting then recordOutput now state payload true
    else return .refused (.notGated state.currentStep state.status)
  | .reject reason => onRun fun state =>
    if state.status = .waiting then do
      write now (.record state.flowName state.currentStep .reject reason)
      return .rejected state.currentStep reason
    else return .refused (.notGated state.currentStep state.status)
  | .skip reason => onRun fun state =>
    match state.status with
    | .done => return .refused .completed
    | .stopped => return .refused .stoppedBeforeSkip
    | .running | .waiting => skip now reason state
  | .retry => onRun fun state => do
    mark now state .running .retry
    return .retrying state.currentStep
  | .goto target => onRun fun state => onFlow state fun flow =>
    if flow.contains target then do
      mark now { state with currentStep := target } .running .goto
      return .jumped target
    else return .refused (.unknownTarget target flow.stepNames)
  | .back => onRun fun state => do
    let e ← get
    match (← look fun e => e.history (some e.limits.backScan)).find? (e.leadsBack state) with
    | some entry =>
      mark now { state with currentStep := entry.step } .running .back
      return .movedBack entry.step
    | none => return .refused .noPrevious
  | .stop => onRun fun state =>
    match state.status with
    | .done => return .refused .stopAfterEnd
    | .stopped => return .refused .stopAgain
    | .running | .waiting => do
      mark now state .stopped .stop
      return .stopped state.currentStep
  | .resume => onRun fun state =>
    if state.status = .stopped then onFlow state fun flow => do
      mark now state (if Engine.isGated flow state then .waiting else .running) .resume
      return .resumed state.currentStep
    else return .refused (.notStopped state.status)
  | .saveCheckpoint name => onRun fun state => do
    write now (.checkpoint name state)
    return .saved name state.currentStep
  | .restoreCheckpoint name => do
    match ← look fun e => e.checkpoint? name with
    | none => return .refused (.noCheckpoint name)
    | some state =>
      write now (.live state)
      write now (.record state.flowName state.currentStep .restore (some name))
      return .restored name state.currentStep
  | .reset => do
    write now .clear
    return .cleared

/-! ### What operations do -/

section Operations

variable {e : Engine} {now : Instant}

/-- What comes of a decision: a plan is carried out, and a fault changes nothing. -/
def settled (e : Engine) (now : Instant) : Except RunFault Plan → Except RunFault Outcome × Engine
  | .ok plan => (.ok plan.outcome, e.commit now plan)
  | .error fault => (.error fault, e)

/-- Statements that make the changes of a plan do what the plan says, if it binds no flow. -/
theorem run_act {p : Statements Outcome} {writes : List Write} {outcome : Outcome}
    (performs : Performs now p writes outcome) :
    run p e = settled e now (.ok (.act writes outcome)) := performs e

/-- A look in front of statements: its fault is the fault of the decision. -/
theorem run_look_bind {α : Type} {read : Engine → Except RunFault α} {next : α → Statements Outcome}
    {decided : α → Except RunFault Plan}
    (same : ∀ a, run (next a) e = settled e now (decided a)) :
    run (look read >>= next) e = settled e now (read e >>= decided) := by
  rw [run_bind, run_look]
  cases read e with
  | ok a => exact same a
  | error fault => rfl

/-- Loading in front of statements: they find the flow loaded, and a definition that cannot be
loaded changes nothing. -/
theorem run_load_bind {definition : String} {next : Flow × List Diagnostic → Statements Outcome}
    {decided : Flow × List Diagnostic → Except RunFault Plan}
    (same : ∀ found, run (next found) { e with flow := some found.1 } =
      settled e now (decided found)) :
    run (load definition >>= next) e = settled e now (Engine.compile definition >>= decided) := by
  rw [run_bind, load, run_bind, run_look]
  cases Engine.compile definition with
  | ok found => exact same found
  | error fault => rfl

theorem run_onRun {decide : RunState → Statements Outcome}
    {decided : RunState → Except RunFault Plan}
    (same : ∀ state, run (decide state) e = settled e now (decided state)) :
    run (onRun decide) e = settled e now (e.onRun decided) := by
  refine run_look_bind fun live => ?_
  cases live with
  | none => rfl
  | some state => exact same state

theorem run_onFlow {state : RunState} {decide : Flow → Statements Outcome} {decided : Flow → Plan}
    (same : ∀ flow, run (decide flow) e = settled e now (.ok (decided flow))) :
    run (onFlow state decide) e = settled e now (.ok (e.onFlow state decided)) := by
  rw [onFlow, run_bind, run_get, Engine.onFlow]
  dsimp only
  cases e.flowOf state with
  | ok flow => exact same flow
  | error why => rfl

/-- A run begins after its definition was loaded, and nothing after that can fail. -/
theorem run_start (definition : String) (data : Json.Object) :
    run (start now definition data) e = settled e now (e.planStart now definition data) := by
  refine run_look_bind fun previous => ?_
  cases previous.filter fun state => state.status != .done with
  | some active => rfl
  | none =>
    refine run_load_bind fun found => ?_
    obtain ⟨flow, warnings⟩ := found
    have arrives := performs_arrive now (e.track flow) (e.track flow).budget
      (RunState.initial flow.name flow.entry data now) flow.entry false
    have started := ((arrives.map (.started flow.name)).write
      (.record flow.name flow.entry .start none)).write
        (.live (.initial flow.name flow.entry data now)) { e with flow := some flow }
    -- the flow that was loaded changes neither the hooks nor the limit
    dsimp only [Engine.track] at started ⊢
    exact started

/-- An output that is refused by its archive has changed nothing, though its table is made first. -/
theorem run_archive (now : Instant) (step : String) (payload : Json.Object) :
    run (archive step payload) e =
      match e.archiveWrites step payload with
      | .ok writes => (.ok none, { e with store := e.store.applyAll now writes })
      | .error fault => (.ok (some fault), e) := by
  rw [archive, run_bind, run_get, Engine.archiveWrites]
  dsimp only
  cases Engine.archive? e.hooks step with
  | none => rfl
  | some archive =>
    obtain ⟨table, schema⟩ := archive
    dsimp only
    cases made : e.store.ensureArchive table schema with
    | error fault =>
      have refused : e.store.archiveOutput table schema payload = .error fault := by
        rw [Store.archiveOutput, made]
        rfl
      rw [refused]
      rfl
    | ok between =>
      dsimp only
      rw [run_bind, run_set]
      dsimp only
      cases added : between.archive table schema payload with
      | error fault =>
        have refused : e.store.archiveOutput table schema payload = .error fault := by
          simp only [Store.archiveOutput, made, bind, Except.bind, added]
        obtain rfl := Store.ensureArchive_eq_of_refused made added
        rw [refused]
        rfl
      | ok result =>
        have archived : e.store.archiveOutput table schema payload = .ok result.1 := by
          simp only [Store.archiveOutput, made, bind, Except.bind, added]
          rfl
        have applied : e.store.apply now (.archive table schema payload) = result.1 := by
          simp only [Store.apply, archived]
        rw [archived]
        show _ = (_, { e with store := e.store.apply now (.archive table schema payload) })
        rw [applied]
        rfl

/-- The journey after an output. -/
theorem performs_onward (now : Instant) (track : Track) (state : RunState) (step : Step)
    (choice : Option String) :
    Performs now
      (match choice with
        | some target => arrive now track track.budget state target true
        | none => follow now track state step)
      (Engine.onward track state step choice).writes
      (Engine.onward track state step choice).outcome := by
  cases choice with
  | none => exact performs_follow now track state step
  | some target => exact performs_arrive now track track.budget state target true

/-- Whatever is in the way of an output is in the way before the first write that lasts. -/
theorem run_recordOutput (state : RunState) (payload : Json.Object) (approving : Bool) :
    run (recordOutput now state payload approving) e =
      settled e now (.ok (e.planOutput state payload approving)) := by
  refine run_onFlow fun flow => ?_
  cases flow.step? state.currentStep with
  | none => rfl
  | some step =>
    dsimp only
    cases (Engine.choice? payload).filter fun target => !flow.contains target with
    | some target => rfl
    | none =>
      dsimp only
      rw [run_bind, run_get]
      dsimp only
      cases Engine.complaint? e.hooks step.name (payload.erase Refusal.choiceKey) with
      | some reason => rfl
      | none =>
        dsimp only
        rw [run_bind, run_archive now]
        cases e.archiveWrites step.name (payload.erase Refusal.choiceKey) with
        | error fault => rfl
        | ok archive =>
          dsimp only
          have onward := performs_onward now (e.track flow)
            (Engine.withOutput state step (payload.erase Refusal.choiceKey)) step
            (Engine.choice? payload)
          have recorded := (onward.write (.record state.flowName step.name .submit
            (some (Json.Object.compress (payload.erase Refusal.choiceKey))))).write
              (.live (Engine.withOutput state step (payload.erase Refusal.choiceKey)))
          rw [settled, Engine.commit, Plan.travel]
          dsimp only
          rw [List.append_assoc, List.append_assoc, Store.applyAll_append, run_bind, run_get]
          -- nor does what was archived
          dsimp only [Engine.track] at recorded ⊢
          cases approving with
          | true => exact (recorded.write _) { e with store := e.store.applyAll now archive }
          | false => exact recorded { e with store := e.store.applyAll now archive }

/-- Changing the status of a run, in front of an answer. -/
theorem run_mark (state : RunState) (status : Status) (action : Action) (outcome : Outcome) :
    run (do mark now state status action; return outcome) e =
      settled e now (.ok (.act (Engine.mark state status action) outcome)) :=
  run_act (((performs_pure now outcome).write _).write _)

theorem run_skip (reason : Option String) (state : RunState) :
    run (skip now reason state) e =
      settled e now (.ok (e.onFlow state fun flow =>
        match flow.step? state.currentStep with
        | none => .refuse (.lostSkip state.currentStep)
        | some step =>
          .travel [.record state.flowName step.name .skip reason,
              .live { state with status := .running }]
            ((e.track flow).follow { state with status := .running } step))) := by
  refine run_onFlow fun flow => ?_
  cases flow.step? state.currentStep with
  | none => rfl
  | some step =>
    have follows := performs_follow now (e.track flow) { state with status := .running }
      step
    exact ((follows.write _).write _) e

/-- **An operation as statements does what its plan says**, and a fault has changed nothing. -/
theorem run_operate (e : Engine) (now : Instant) (command : Command) :
    run (operate now command) e = settled e now (e.plan now command) := by
  cases command with
  | start definition data => exact run_start definition data
  | submit payload =>
    refine run_onRun fun state => ?_
    unfold Engine.planSubmit
    cases state.status with
    | running => exact run_recordOutput state payload false
    | waiting | stopped | done => rfl
  | approve payload =>
    refine run_onRun fun state => ?_
    unfold Engine.planApprove
    split
    · exact run_recordOutput state payload true
    · rfl
  | reject reason =>
    refine run_onRun fun state => ?_
    unfold Engine.planReject
    split
    · exact run_act ((performs_pure now _).write _)
    · rfl
  | skip reason =>
    refine run_onRun fun state => ?_
    unfold Engine.planSkip
    cases state.status with
    | running | waiting => exact run_skip reason state
    | stopped | done => rfl
  | retry => exact run_onRun fun state => run_mark state .running .retry _
  | goto target =>
    refine run_onRun fun state => run_onFlow fun flow => ?_
    split
    · exact run_mark _ .running .goto _
    · rfl
  | back =>
    refine run_onRun fun state => ?_
    rw [run_bind, run_get]
    refine run_look_bind fun entries => ?_
    cases entries.find? (e.leadsBack state) with
    | none => rfl
    | some entry => exact run_mark { state with currentStep := entry.step } .running .back _
  | stop =>
    refine run_onRun fun state => ?_
    unfold Engine.planStop
    cases state.status with
    | running | waiting => exact run_mark state .stopped .stop _
    | stopped | done => rfl
  | resume =>
    refine run_onRun fun state => ?_
    unfold Engine.planResume
    split
    · exact run_onFlow fun flow => run_mark state _ .resume _
    · rfl
  | saveCheckpoint name => exact run_onRun fun state => run_act ((performs_pure now _).write _)
  | restoreCheckpoint name =>
    refine run_look_bind fun saved => ?_
    cases saved with
    | none => rfl
    | some state => exact run_act (((performs_pure now _).write _).write _)
  | reset => exact run_act ((performs_pure now _).write _)

end Operations

end Statements

/-! ## Calls -/

/-- Everything that can be asked of an engine. -/
inductive Call where
  /-- Carry an operation out. -/
  | operate (command : Command)
  /-- Load a definition. -/
  | load (definition : String)
  /-- Report on the live run. -/
  | report
  /-- Show the newest entries of the history. -/
  | history (limit : Option Nat)
  /-- Show the data of the run. -/
  | data
  /-- Show the state of a checkpoint. -/
  | checkpoint (name : String)
  /-- List the checkpoints. -/
  | checkpoints

/-- What is answered to a call. -/
inductive Answer where
  | outcome (outcome : Outcome)
  | warnings (warnings : List Diagnostic)
  | report (report : Option Report)
  | entries (entries : List HistoryEntry)
  | data (data : Json.Object)
  | state (state : Option RunState)
  | infos (infos : List CheckpointInfo)

namespace Call

variable {e : Engine} {now : Instant}

/-- The statements of a call. -/
def statements (now : Instant) : Call → Statements Answer
  | operate command => do return .outcome (← Statements.operate now command)
  | load definition => do return .warnings (← Statements.load definition).2
  | report => do return .report (← Statements.look fun e => e.report now)
  | history limit => do return .entries (← Statements.look fun e => e.history limit)
  | data => do return .data (← Statements.look Engine.data)
  | checkpoint name => do return .state (← Statements.look fun e => e.checkpoint? name)
  | checkpoints => do return .infos (← Statements.look Engine.checkpointInfos)

/-- The answer to a call and the engine after it, by the functions that carry calls out. -/
def outright (e : Engine) (now : Instant) : Call → Except RunFault Answer × Engine
  | operate command =>
    match e.perform now command with
    | .ok (after, outcome) => (.ok (.outcome outcome), after)
    | .error fault => (.error fault, e)
  | load definition =>
    match e.load definition with
    | .ok (after, warnings) => (.ok (.warnings warnings), after)
    | .error fault => (.error fault, e)
  | report => (.report <$> e.report now, e)
  | history limit => (.entries <$> e.history limit, e)
  | data => (.data <$> e.data, e)
  | checkpoint name => (.state <$> e.checkpoint? name, e)
  | checkpoints => (.infos <$> e.checkpointInfos, e)

/-- A look changes nothing, whether it fails or not. -/
theorem run_look_map {α : Type} (read : Engine → Except RunFault α) (answer : α → Answer) :
    (do return answer (← Statements.look read) : Statements Answer).run e =
      (answer <$> read e, e) := by
  rw [Statements.run_bind, Statements.run_look]
  cases read e <;> rfl

/-- **The two ways to carry a call out agree.** -/
theorem run_statements (e : Engine) (now : Instant) (call : Call) :
    (call.statements now).run e = call.outright e now := by
  cases call with
  | operate command =>
    rw [statements, Statements.run_bind, Statements.run_operate, outright, Engine.perform]
    cases e.plan now command <;> rfl
  | load definition =>
    rw [statements, Statements.run_bind, Statements.load, Statements.run_bind, Statements.run_look,
      outright, Engine.load]
    cases Engine.compile definition <;> rfl
  | report => exact run_look_map _ _
  | history limit => exact run_look_map _ _
  | data => exact run_look_map _ _
  | checkpoint name => exact run_look_map _ _
  | checkpoints => exact run_look_map _ _

/-- Where a call ends in a fault, the engine is the one from before. -/
theorem outright_of_fault {call : Call} {fault : RunFault} {after : Engine}
    (ended : call.outright e now = (.error fault, after)) : after = e := by
  cases call with
  | operate command =>
    rw [outright] at ended
    cases performed : e.perform now command with
    | ok result =>
      rw [performed] at ended
      cases ended
    | error fault =>
      rw [performed] at ended
      exact (Prod.mk.inj ended).2.symm
  | load definition =>
    rw [outright] at ended
    cases loaded : e.load definition with
    | ok result =>
      rw [loaded] at ended
      cases ended
    | error fault =>
      rw [loaded] at ended
      exact (Prod.mk.inj ended).2.symm
  | report | history | data | checkpoint | checkpoints => exact (Prod.mk.inj ended).2.symm

/-- **A call that ends in a fault has changed nothing.**  Whatever the store holds, altered texts
included, and whatever is asked: if one of the statements fails, then none before it has changed the
live row, the history, the checkpoints, the archives or the flow that is loaded.  The fault is the
one that the call ends in elsewhere. -/
theorem eq_of_fault {e after : Engine} {now : Instant} {call : Call} {fault : RunFault}
    (ended : (call.statements now).run e = (.error fault, after)) :
    after = e ∧ call.outright e now = (.error fault, e) := by
  have same := run_statements e now call
  rw [ended] at same
  obtain rfl := outright_of_fault same.symm
  exact ⟨rfl, same.symm⟩

/-- A run with a history in which an action was altered. -/
def altered : Engine where
  store := ((Store.empty.saveLive (.initial "unnamed flow" "a" [] ⟨0⟩)).append "unnamed flow" "a"
    .start none ⟨0⟩).overwrite "workflow_history" "action" "lost"
  hooks := .empty
  limits := {}
  flow := none

/-- Going back reads the live row and then the history, and fails at that. -/
theorem eq_of_fault_altered : ∃ fault after,
    ((operate .back).statements ⟨1⟩).run altered = (.error fault, after) ∧ after = altered := by
  have ended : ((operate .back).statements ⟨1⟩).run altered =
      (.error (.store (.unknownName "action" ⟨"history action", "lost"⟩)), altered) := by
    cbv
  exact ⟨_, _, ended, (eq_of_fault ended).1⟩

end Call

end Runbook
