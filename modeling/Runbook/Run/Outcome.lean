import Runbook.Flow.Decision
import Runbook.Run.Fault

/-!
# Outcomes of operations

An operation on a run succeeds or is refused.  Either way it answers with what happened, a message,
the step where the run stands if that is known, and the decisions that are left to someone outside.

## Main definitions

* `Refusal`: why an operation is refused
* `LoopEnding`: how a run ends at a loop header
* `Outcome`: what an operation answers
* `Outcome.succeeded`, `Outcome.message`, `Outcome.newStep?`, `Outcome.pending`: what is shown of it
-/

namespace Runbook

/-- Why an operation is refused. -/
inductive Refusal where
  /-- There is no run. -/
  | noRun
  /-- A run that is not done is in the way of a new one. -/
  | active (flow step : String)
  /-- Outputs and skips are not taken when the run is done. -/
  | completed
  /-- Outputs are not taken when the run is stopped. -/
  | stoppedBeforeOutput
  /-- Steps are not skipped when the run is stopped. -/
  | stoppedBeforeSkip
  /-- The step takes no output without approval. -/
  | gated (step : String)
  /-- There is nothing to approve or to reject. -/
  | notGated (step : String) (status : Status)
  /-- No flow is loaded. -/
  | noFlow (run : String)
  /-- Another flow is loaded. -/
  | otherFlow (loaded run : String)
  /-- The step whose output comes is not in the flow. -/
  | lostOutput (step : String)
  /-- The step to skip is not in the flow. -/
  | lostSkip (step : String)
  /-- The step chosen along with an output is not in the flow. -/
  | unknownChoice (target : String) (steps : List String)
  /-- A hook has something to say against the output. -/
  | complaint (step reason : String)
  /-- The output cannot be archived. -/
  | notArchived (fault : TableFault)
  /-- The step to go to is not in the flow. -/
  | unknownTarget (target : String) (steps : List String)
  /-- No step before is known. -/
  | noPrevious
  /-- A run that is done is not stopped. -/
  | stopAfterEnd
  /-- A stopped run is not stopped again. -/
  | stopAgain
  /-- Only a stopped run is resumed. -/
  | notStopped (status : Status)
  /-- There is no checkpoint of the name. -/
  | noCheckpoint (name : String)
  /-- Too many arrivals followed one another. -/
  | tooManySteps (step : String) (limit : Nat)
  /-- A transition leads to no step. -/
  | missingTarget (target : String)
  /-- No guard holds and no transition is unguarded. -/
  | noTransition (step : String)
  /-- The operation could not be decided. -/
  | fault (fault : RunFault)

namespace Refusal

/-- Where outputs name the next step. -/
def choiceKey : String := "_goto"

/-- A name in quotes. -/
def named (name : String) : String := "\"" ++ name ++ "\""

/-- The wording of a refusal. -/
def message : Refusal → String
  | noRun => "No active workflow. Start one first."
  | active flow step =>
    "Workflow " ++ named flow ++ " is still active at " ++ named step
      ++ ". Finish it or reset before starting another."
  | completed =>
    "Workflow is already completed. Use goto to jump to a step if you need to revisit."
  | stoppedBeforeOutput => "Workflow is stopped. Use resume before submitting."
  | stoppedBeforeSkip => "Workflow is stopped. Use resume first."
  | gated step =>
    "Step " ++ named step
      ++ " is waiting for approval. Use approve to continue or reject to send it back."
  | notGated step status =>
    "Step " ++ named step ++ " is not waiting for approval (status: " ++ status.name ++ ")."
  | noFlow run =>
    "No flow loaded for workflow " ++ named run ++ ". Load its definition first."
  | otherFlow loaded run =>
    "Loaded flow " ++ named loaded ++ " does not match the active workflow " ++ named run
      ++ ". Load the matching definition first."
  | lostOutput step =>
    "Step " ++ named step ++ " not found in flow definition. The definition may have changed. "
      ++ "Use goto to jump to a valid step."
  | lostSkip step => "Current step " ++ named step ++ " not found in flow."
  | unknownChoice target steps =>
    choiceKey ++ " target " ++ named target ++ " not found. Available steps: "
      ++ ", ".intercalate steps
  | complaint step reason =>
    "Output rejected by step " ++ named step ++ ": " ++ reason
      ++ ". Please fix the issues and resubmit."
  | notArchived e => "Failed to archive output: " ++ (StoreFault.table e).message
  | unknownTarget target steps =>
    "Step " ++ named target ++ " not found. Available steps: " ++ ", ".intercalate steps
  | noPrevious => "Cannot go back: no previous step in history."
  | stopAfterEnd => "Workflow already completed."
  | stopAgain => "Workflow already stopped."
  | notStopped status => "Cannot resume: status is " ++ status.name ++ "."
  | noCheckpoint name => "Checkpoint " ++ named name ++ " not found."
  | tooManySteps step limit =>
    "Auto-advance stopped at " ++ named step ++ " after " ++ Nat.repr limit
      ++ " steps. Check the flow for a cycle of automatic steps."
  | missingTarget target =>
    "Target step " ++ named target ++ " not found in the flow. The definition may have changed."
  | noTransition step =>
    "No matching transition from step " ++ named step
      ++ ". None of the conditions were met and there is no default path."
  | fault e => e.message

end Refusal

/-- How a run ends at a loop header without a way out. -/
inductive LoopEnding where
  | noBody
  | skipped
  | completed
deriving DecidableEq, Repr

/-- The wording of an ending. -/
def LoopEnding.label : LoopEnding → String
  | noBody => "Loop has no body"
  | skipped => "Loop skipped (empty)"
  | completed => "Loop completed"

/-- What an operation answers. -/
inductive Outcome where
  /-- The run stands at a step. -/
  | arrived (step : String)
  /-- The run ended at a step that ends it. -/
  | terminated (step reason : String)
  /-- The run ended at a step without transitions. -/
  | completed
  /-- The run ended at a loop header. -/
  | endedLoop (ending : LoopEnding) (header : String)
  /-- Someone outside has to decide where the run goes. -/
  | undecided (step : String) (pending : List Decision)
  /-- A gated step was rejected. -/
  | rejected (step : String) (reason : Option String)
  /-- The step is tried again. -/
  | retrying (step : String)
  /-- The run was put to a step. -/
  | jumped (step : String)
  /-- The run was put to the step before. -/
  | movedBack (step : String)
  /-- The run was stopped. -/
  | stopped (step : String)
  /-- The run goes on. -/
  | resumed (step : String)
  /-- A checkpoint was saved. -/
  | saved (name step : String)
  /-- A checkpoint was made the live state. -/
  | restored (name step : String)
  /-- The run and its history were forgotten. -/
  | cleared
  /-- A run was started; `arrival` is what happened at its first step. -/
  | started (flow : String) (arrival : Outcome)
  /-- The operation was refused. -/
  | refused (why : Refusal)

namespace Outcome

/-- Was the operation carried out? -/
def succeeded : Outcome → Bool
  | started _ arrival => arrival.succeeded
  | refused _ => false
  | _ => true

/-- Where the run stands afterwards, if the operation says so. -/
def newStep? : Outcome → Option String
  | arrived step | terminated step _ | undecided step _ | rejected step _ | retrying step
  | jumped step | movedBack step | stopped step | resumed step | saved _ step
  | restored _ step => some step
  | started _ arrival => arrival.newStep?
  | completed | endedLoop _ _ | cleared | refused _ => none

/-- The decisions that are left to someone outside. -/
def pending : Outcome → List Decision
  | undecided _ decisions => decisions
  | started _ arrival => arrival.pending
  | _ => []

/-- The wording of an outcome. -/
def message : Outcome → String
  | arrived step => "Advanced to: " ++ step
  | terminated _ reason => "Workflow completed: " ++ reason
  | completed => "Workflow completed: no more transitions from this step."
  | endedLoop ending header => ending.label ++ ": " ++ header
  | undecided step decisions =>
    "Step " ++ Refusal.named step ++ " has conditions that need an external decision. "
      ++ "Evaluate them and submit with \x7b" ++ Refusal.named Refusal.choiceKey ++ ": <one of "
      ++ ", ".intercalate (decisions.map fun d => Refusal.named d.target)
      ++ ">\x7d to choose a path."
  | rejected _ reason => "Rejected: " ++ reason.getD "no reason given"
  | retrying step => "Retrying step " ++ Refusal.named step ++ ". Please attempt it again."
  | jumped step => "Jumped to: " ++ step
  | movedBack step => "Moved back to: " ++ step
  | stopped step => "Workflow stopped at: " ++ step
  | resumed step => "Resumed at: " ++ step
  | saved name _ => "Checkpoint saved: " ++ name
  | restored name step => "Restored checkpoint " ++ Refusal.named name ++ " at: " ++ step
  | cleared => "Workflow state reset."
  | started flow arrival => "Flow " ++ Refusal.named flow ++ " started: " ++ arrival.message
  | refused why => why.message

@[simp] theorem succeeded_refused (why : Refusal) : (refused why).succeeded = false := rfl

@[simp] theorem succeeded_started (flow : String) (arrival : Outcome) :
    (started flow arrival).succeeded = arrival.succeeded := rfl

end Outcome

end Runbook
