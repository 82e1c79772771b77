import Runbook.Run.Limits
import Runbook.Run.Route
import Runbook.Store.Basic

/-!
# Journeys

What a run does by itself once it leaves a step: it passes through loop headers, arrives at steps,
and goes on from those that are declared to advance, until it stands at a step, ends, or is out of
arrivals.

## Main definitions

* `Write`: a change of the store; `Store.apply` and `Store.applyAll` make it
* `Hop`: a part of a journey, with the state after it
* `Journey`: hops and how they ended
* `Track.arrive`: the journey that starts with an arrival
* `Track.follow`: the journey that starts with leaving a step

## Design notes

A journey is computed without a store.  Its hops carry the states of the run one after the other,
and what is written is read off the hops: a pass through a header writes the live state if it
changed a counter, an arrival writes the live state and then a row of the history.

Each arrival needs one from a budget, and the recursion is on that budget.  A pass through a header
costs an arrival too, the one at the step it leads to, so cycles of headers end as well.
-/

namespace Runbook

/-! ## Writes -/

/-- A change of the store. -/
inductive Write where
  /-- The live state becomes this one. -/
  | live (state : RunState)
  /-- The history gets a row. -/
  | record (flow step : String) (action : Action) (data : Option String)
  /-- A checkpoint is saved. -/
  | checkpoint (name : String) (state : RunState)
  /-- An output is archived. -/
  | archive (table : String) (schema : Option Schema) (payload : Json.Object)
  /-- The run and its history are forgotten. -/
  | clear

namespace Store

/-- Make an archive table if there is none, and add the row of an output. -/
def archiveOutput (store : Store) (table : String) (schema : Option Schema)
    (payload : Json.Object) : Except TableFault Store := do
  let store ← store.ensureArchive table schema
  let (store, _) ← store.archive table schema payload
  return store

/-- The store after a change.  An output that does not fit its table is not archived. -/
def apply (now : Instant) (store : Store) : Write → Store
  | .live state => store.saveLive state
  | .record flow step action data => store.append flow step action data now
  | .checkpoint name state => store.saveCheckpoint name state now
  | .archive table schema payload =>
    match store.archiveOutput table schema payload with
    | .ok store => store
    | .error _ => store
  | .clear => store.clear

/-- The store after some changes, the first one first. -/
def applyAll (now : Instant) (store : Store) (writes : List Write) : Store :=
  writes.foldl (apply now) store

@[simp] theorem applyAll_nil (now : Instant) (store : Store) : store.applyAll now [] = store := rfl

@[simp] theorem applyAll_cons (now : Instant) (store : Store) (w : Write) (writes : List Write) :
    store.applyAll now (w :: writes) = (store.apply now w).applyAll now writes := rfl

/-- Changes are made one after the other. -/
theorem applyAll_append (now : Instant) (store : Store) (writes more : List Write) :
    store.applyAll now (writes ++ more) = (store.applyAll now writes).applyAll now more :=
  List.foldl_append

end Store

/-! ## Hops -/

/-- A part of a journey.  Each hop carries the state after it. -/
inductive Hop where
  /-- Through a loop header. -/
  | pass (header : String) (pass : Pass) (state : RunState)
  /-- To a step; the first arrival of a run is not recorded. -/
  | arrive (step : String) (recorded : Bool) (state : RunState)
  /-- To a step that ends the run. -/
  | terminate (step reason : String) (state : RunState)
  /-- The run ends where it stands. -/
  | finish (state : RunState)

namespace Hop

/-- The state after a hop. -/
def state : Hop → RunState
  | pass _ _ state | arrive _ _ state | terminate _ _ state | finish state => state

/-- What a hop writes. -/
def writes : Hop → List Write
  | pass _ .skip _ => []
  | pass _ _ state => [.live state]
  | arrive step recorded state =>
    .live state ::
      (if recorded then [.record state.flowName step .transition none] else [])
  | terminate step reason state =>
    [.live state, .record state.flowName step .terminate (some reason)]
  | finish state => [.live state]

end Hop

/-- What a run does by itself: hops, and how they ended. -/
structure Journey where
  hops : List Hop
  outcome : Outcome

namespace Journey

/-- The journey that goes nowhere. -/
def stay (outcome : Outcome) : Journey := ⟨[], outcome⟩

/-- The journey with a hop in front. -/
def after (hop : Hop) (rest : Journey) : Journey := ⟨hop :: rest.hops, rest.outcome⟩

/-- What a journey writes. -/
def writes (journey : Journey) : List Write := journey.hops.flatMap Hop.writes

@[simp] theorem hops_stay (outcome : Outcome) : (stay outcome).hops = [] := rfl

@[simp] theorem outcome_stay (outcome : Outcome) : (stay outcome).outcome = outcome := rfl

@[simp] theorem hops_after (hop : Hop) (rest : Journey) :
    (after hop rest).hops = hop :: rest.hops := rfl

@[simp] theorem outcome_after (hop : Hop) (rest : Journey) :
    (after hop rest).outcome = rest.outcome := rfl

@[simp] theorem writes_after (hop : Hop) (rest : Journey) :
    (after hop rest).writes = hop.writes ++ rest.writes := rfl

end Journey

/-! ## The journey of a run -/

/-- What a journey goes by: the flow, the hooks, and how many arrivals may follow the first one. -/
structure Track where
  flow : Flow
  hooks : Registry
  limit : Nat

namespace Track

/-- The run ends at a loop header. -/
def endAt (header : Step) (ending : LoopEnding) (state : RunState) : Journey :=
  .after (.finish { state with currentStep := header.name, status := .done })
    (.stay (.endedLoop ending header.name))

/-- Go through a loop header, and on with `go`. -/
def passThrough (go : RunState → String → Journey) (state : RunState) (header : Step) : Journey :=
  match header.transitions with
  | [] => endAt header .noBody state
  | body :: exits =>
    let pass := header.pass state
    let state := pass.apply header.name state
    .after (.pass header.name pass state)
      (if pass.entersBody then go state body.target
      else
        match exits with
        | exit :: _ => go state exit.target
        | [] => endAt header pass.ending state)

/-- Leave a plain step, and go on with `go`. -/
def leave (track : Track) (go : RunState → String → Journey) (state : RunState) (step : Step) :
    Journey :=
  match step.route track.hooks state with
  | .towards target => go state target
  | .undecided pending => .stay (.undecided step.name pending)
  | .done => .after (.finish { state with status := .done }) (.stay .completed)
  | .stuck => .stay (.refused (.noTransition step.name))

/-- Why a run ends at a step that gives no reason. -/
def defaultReason : String := "workflow completed"

/-- The state at a step that ends the run. -/
def atEnd (step : Step) (state : RunState) : RunState :=
  { state with currentStep := step.name, status := .done }

/-- The state at any other step: waiting if the step is gated. -/
def atStep (step : Step) (state : RunState) : RunState :=
  { state with
    currentStep := step.name
    status := if step.config.wait then .waiting else .running }

/-- The journey that starts with an arrival, with a budget of arrivals. -/
def arrive (track : Track) : Nat → RunState → String → Bool → Journey
  | 0, state, _, _ => .stay (.refused (.tooManySteps state.currentStep track.limit))
  | budget + 1, state, target, recorded =>
    match track.flow.step? target with
    | none => .stay (.refused (.missingTarget target))
    | some step =>
      if step.config.isLoopHeader then
        passThrough (fun state target => arrive track budget state target true) state step
      else if step.config.terminate then
        let reason := step.config.reason.getD defaultReason
        .after (.terminate step.name reason (atEnd step state))
          (.stay (.terminated step.name reason))
      else
        .after (.arrive step.name recorded (atStep step state))
          (if step.advances then
            track.leave (fun state target => arrive track budget state target true)
              (atStep step state) step
          else .stay (.arrived step.name))

/-- The budget of a journey that starts with an arrival. -/
def budget (track : Track) : Nat := track.limit + 1

/-- The journey of a run that is put to a step of the flow. -/
def enter (track : Track) (state : RunState) (target : String) (recorded : Bool) : Journey :=
  track.arrive track.budget state target recorded

/-- The journey of a run that leaves a step.  A loop header is passed through, which costs an
arrival. -/
def follow (track : Track) (state : RunState) (step : Step) : Journey :=
  if step.config.isLoopHeader then
    passThrough (fun state target => track.arrive track.limit state target true) state step
  else track.leave (fun state target => track.enter state target true) state step

end Track

end Runbook
