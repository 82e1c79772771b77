import Runbook.Proofs.Engine.Session
import Runbook.Proofs.Run.Walk

/-!
# The actions that are allowed

A report lists the operations that make sense in the status of the run, and the operations look at
the status themselves, each in its own way.  This module shows that the list and the operations
agree: if nothing but the status can be in the way, then an operation that is listed is carried out
and notes it, and any other one is refused and changes nothing.

## Main definitions

* `Command.action?`: the action under which a report lists an operation
* `Status.Takes`: the statuses in which an operation is carried out
* `Engine.Serves`: the arguments of an operation are of use at the run

## Main statements

* `Status.mem_allowedActions_iff`: the list and the checks of the status agree
* `Engine.Does.exists_first_note`: what is carried out is noted first of all
* `Engine.does_of_allowed`: an operation that is listed is carried out, if nothing else is in its way
* `Engine.refused_of_not_allowed`: an operation that is not listed is refused
* `Engine.recorded_iff_allowed`: a report lists the operations that are carried out

## Design notes

An operation that is carried out may fail all the same, when the run finds no way on.  Its row is in
the history then, so what tells the listed operations from the others is the row and not the answer.
-/

namespace Runbook

namespace Command

/-- The action under whose name a report lists the operation.  Beginning and forgetting a run and
what is done to checkpoints are not listed. -/
def action? : Command → Option Action
  | submit _ => some .submit
  | approve _ => some .approve
  | reject _ => some .reject
  | skip _ => some .skip
  | retry => some .retry
  | goto _ => some .goto
  | back => some .back
  | stop => some .stop
  | resume => some .resume
  | start _ _ | saveCheckpoint _ | restoreCheckpoint _ | reset => none

end Command

namespace Status

/-- The statuses in which an operation on the run may be carried out, as its own check of the status
says. -/
def Takes (status : Status) : Action → Prop
  | .submit => status = .running
  | .approve | .reject => status = .waiting
  | .skip | .stop => status = .running ∨ status = .waiting
  | .resume => status = .stopped
  | .retry | .goto | .back => True
  | _ => False

/-- **The list of a report and the checks of the operations agree.** -/
theorem mem_allowedActions_iff {status : Status} {action : Action} :
    action.name ∈ status.allowedActions ↔ status.Takes action := by
  cases status <;> cases action <;> simp [allowedActions, Takes, Action.name]

end Status

namespace Engine

variable {e : Engine} {now : Instant} {command : Command} {action : Action} {plan : Plan}
  {flow : Flow} {state : RunState}

/-- The arguments of an operation are of use at the run: a step that is named is one of the flow, and
for going back the rows that are searched can be read and name another step of the flow. -/
def Serves (e : Engine) (flow : Flow) (state : RunState) : Command → Prop
  | .submit payload | .approve payload =>
    ∀ target, choice? payload = some target → flow.contains target = true
  | .goto target => flow.contains target = true
  | .back => ∃ entries, e.history (some e.limits.backScan) = .ok entries ∧
      ∃ entry ∈ entries, entry.step ≠ state.currentStep ∧ flow.contains entry.step = true
  | _ => True

/-! ## What is carried out -/

/-- An output that is recorded is noted first of all, or the approval that it comes with is. -/
theorem Records.exists_first_note {payload : Json.Object} {approving : Bool}
    (records : e.Records state payload approving plan) :
    Write.Keep plan.writes ∧ ∃ newer note, Write.notes plan.writes = newer ++ [note] ∧
      note.action = (if approving then Action.approve else Action.submit).name := by
  obtain @⟨flow, step, archive, bound, filed, chosen, -, archived⟩ := records
  obtain ⟨keeps, notes, -⟩ := @ownWrites_spec e state step _ archive archived approving
  refine ⟨Write.keep_append.2 ⟨keeps, Journey.keep_writes _⟩, ?_⟩
  simp only [Plan.travel, Write.notes_append, notes]
  cases approving with
  | false => exact ⟨_, _, rfl, rfl⟩
  | true =>
    refine ⟨_, ⟨state.flowName, step.name, Action.approve.name, none⟩,
      (List.append_assoc _ [_] [_]).symm, rfl⟩

/-- **What is carried out is noted first of all.** -/
theorem Does.exists_first_note (does : e.Does now command plan)
    (listed : command.action? = some action) :
    Write.Keep plan.writes ∧ ∃ newer note, Write.notes plan.writes = newer ++ [note] ∧
      note.action = action.name := by
  have alone {flow step : String} {data : Option String} :
      ∃ newer note, Write.notes [.record flow step action data] = newer ++ [note] ∧
        note.action = action.name := ⟨[], _, rfl, rfl⟩
  cases does with
  | submit live running records =>
    obtain rfl := Option.some.inj listed
    exact records.exists_first_note
  | approve live waiting records =>
    obtain rfl := Option.some.inj listed
    exact records.exists_first_note
  | reject live waiting =>
    obtain rfl := Option.some.inj listed
    exact ⟨by simp [Plan.act], alone⟩
  | skip live active bound filed =>
    obtain rfl := Option.some.inj listed
    refine ⟨Write.keep_append.2 ⟨by simp, Journey.keep_writes _⟩, ?_⟩
    simp only [Plan.travel, Write.notes_append]
    exact ⟨_, _, rfl, rfl⟩
  | retry live | goto live bound known | back live read found | stop live active
  | resume live paused bound =>
    -- each of them saves the state and notes itself
    obtain rfl := Option.some.inj listed
    exact ⟨by simp [planRetry, mark, Plan.act], alone⟩
  | start | saveCheckpoint | restoreCheckpoint | reset => cases listed

/-- So the history has a row of the operation right after the rows that were there. -/
theorem Does.exists_row (does : e.Does now command plan)
    (listed : command.action? = some action) :
    ∃ added row, (e.execute now command).1.store.history = added ++ row :: e.store.history ∧
      row.action = action.name := by
  obtain ⟨keeps, newer, note, first, same⟩ := does.exists_first_note listed
  obtain ⟨rows, history, notes, -⟩ := e.store.history_applyAll now keeps
  rw [first, List.map_eq_append_iff] at notes
  obtain ⟨added, rest, rfl, -, last⟩ := notes
  obtain ⟨row, rfl, rfl⟩ := List.map_eq_singleton_iff.1 last
  refine ⟨added, row, ?_, same⟩
  rw [execute_of_plan does.planned]
  show (e.store.applyAll now plan.writes).history = _
  rw [history, List.append_assoc]
  rfl

/-! ## Allowed and not allowed -/

/-- Without a hook for the step an output is recorded, if the step that it names is one of the
flow. -/
theorem exists_records (bound : e.flowOf state = .ok flow)
    (here : flow.contains state.currentStep = true)
    (hookless : ∀ name step, flow.step? name = some step → e.hooks.hook? step.name = none)
    {payload : Json.Object} (serves : ∀ target, choice? payload = some target →
      flow.contains target = true) (approving : Bool) :
    ∃ plan, e.Records state payload approving plan := by
  obtain ⟨step, filed⟩ := Flow.contains_iff_step?.1 here
  have none := hookless _ step filed
  have passed : complaint? e.hooks step.name (payload.erase Refusal.choiceKey) = .none := by
    rw [complaint?, none]
    rfl
  have archived : e.archiveWrites step.name (payload.erase Refusal.choiceKey) = .ok [] := by
    rw [archiveWrites, archive?, none]
    rfl
  exact ⟨_, .intro bound filed serves passed archived⟩

/-- **An operation that is listed is carried out**, if nothing but the status can be in the way. -/
theorem does_of_allowed (live : e.current = .ok (some state)) (bound : e.flowOf state = .ok flow)
    (here : flow.contains state.currentStep = true)
    (hookless : ∀ name step, flow.step? name = some step → e.hooks.hook? step.name = none)
    (now : Instant) (listed : command.action? = some action)
    (serves : e.Serves flow state command) (allowed : action.name ∈ state.status.allowedActions) :
    ∃ plan, e.Does now command plan := by
  cases command with
  | submit payload =>
    obtain rfl := Option.some.inj listed
    have running : state.status = .running := Status.mem_allowedActions_iff.1 allowed
    obtain ⟨plan, records⟩ := exists_records bound here hookless serves false
    exact ⟨plan, .submit live running records⟩
  | approve payload =>
    obtain rfl := Option.some.inj listed
    have waiting : state.status = .waiting := Status.mem_allowedActions_iff.1 allowed
    obtain ⟨plan, records⟩ := exists_records bound here hookless serves true
    exact ⟨plan, .approve live waiting records⟩
  | reject reason =>
    obtain rfl := Option.some.inj listed
    have waiting : state.status = .waiting := Status.mem_allowedActions_iff.1 allowed
    exact ⟨_, .reject live waiting⟩
  | skip reason =>
    obtain rfl := Option.some.inj listed
    have active : state.status = .running ∨ state.status = .waiting :=
      Status.mem_allowedActions_iff.1 allowed
    obtain ⟨step, filed⟩ := Flow.contains_iff_step?.1 here
    exact ⟨_, .skip live active bound filed⟩
  | retry => exact ⟨_, .retry live⟩
  | goto target => exact ⟨_, .goto live bound serves⟩
  | back =>
    obtain ⟨entries, read, entry, member, other, known⟩ := serves
    have leads : e.leadsBack state entry = true := by
      simp [leadsBack, other, flow_of_flowOf bound, known]
    obtain ⟨found, first⟩ := Option.isSome_iff_exists.1
      (List.find?_isSome.2 ⟨entry, member, leads⟩)
    exact ⟨_, .back live read first⟩
  | stop =>
    obtain rfl := Option.some.inj listed
    have active : state.status = .running ∨ state.status = .waiting :=
      Status.mem_allowedActions_iff.1 allowed
    exact ⟨_, .stop live active⟩
  | resume =>
    obtain rfl := Option.some.inj listed
    have paused : state.status = .stopped := Status.mem_allowedActions_iff.1 allowed
    exact ⟨_, .resume live paused bound⟩
  | start | saveCheckpoint | restoreCheckpoint | reset => cases listed

/-- **An operation that is not listed is refused.** -/
theorem refused_of_not_allowed (live : e.current = .ok (some state)) (now : Instant)
    (listed : command.action? = some action)
    (forbidden : action.name ∉ state.status.allowedActions) :
    ∃ why, e.execute now command = (e, .refused why) := by
  have refuse {decide : RunState → Except RunFault Plan} {why : Refusal}
      (planned : e.plan now command = e.onRun decide)
      (refuses : decide state = .ok (.refuse why)) :
      ∃ why, e.execute now command = (e, .refused why) :=
    ⟨why, execute_of_refuse (planned.trans ((onRun_of_current live _).trans refuses))⟩
  rw [Status.mem_allowedActions_iff] at forbidden
  cases command with
  | submit payload =>
    obtain rfl := Option.some.inj listed
    cases status : state.status with
    | running => exact absurd status forbidden
    | waiting | stopped | done => exact refuse rfl (by rw [planSubmit, status]; rfl)
  | approve payload =>
    obtain rfl := Option.some.inj listed
    exact refuse rfl (congrArg Except.ok (if_neg forbidden))
  | reject reason =>
    obtain rfl := Option.some.inj listed
    exact refuse rfl (congrArg Except.ok (if_neg forbidden))
  | skip reason =>
    obtain rfl := Option.some.inj listed
    cases status : state.status with
    | running => exact absurd (.inl status) forbidden
    | waiting => exact absurd (.inr status) forbidden
    | stopped | done => exact refuse rfl (by rw [planSkip, status]; rfl)
  | stop =>
    obtain rfl := Option.some.inj listed
    cases status : state.status with
    | running => exact absurd (.inl status) forbidden
    | waiting => exact absurd (.inr status) forbidden
    | stopped | done => exact refuse rfl (by rw [planStop, status]; rfl)
  | resume =>
    obtain rfl := Option.some.inj listed
    exact refuse rfl (congrArg Except.ok (if_neg forbidden))
  | retry | goto | back =>
    -- these are listed in every status
    obtain rfl := Option.some.inj listed
    exact absurd trivial forbidden
  | start | saveCheckpoint | restoreCheckpoint | reset => cases listed

/-- **A report lists the operations that are carried out.**  The flow of the run is loaded and has
its current step, no step of it has a hook, and the arguments of the operation are of use.  Then the
operation puts its row into the history if a report lists it, and otherwise it fails and changes
nothing at all. -/
theorem recorded_iff_allowed (live : e.current = .ok (some state)) (loaded : e.flow = some flow)
    (own : flow.name = state.flowName) (here : flow.contains state.currentStep = true)
    (hookless : ∀ name step, flow.step? name = some step → e.hooks.hook? step.name = none)
    (now : Instant) (listed : command.action? = some action)
    (serves : e.Serves flow state command) :
    (∀ later report, e.report later = .ok (some report) →
      report.allowedActions = state.status.allowedActions) ∧
    (action.name ∈ state.status.allowedActions →
      ∃ added row, (e.execute now command).1.store.history = added ++ row :: e.store.history ∧
        row.action = action.name) ∧
    (action.name ∉ state.status.allowedActions →
      (e.execute now command).2.succeeded = false ∧ (e.execute now command).1 = e) := by
  have bound : e.flowOf state = .ok flow := by
    unfold flowOf
    rw [loaded]
    exact if_pos own
  refine ⟨fun later report told => ?_, fun allowed => ?_, fun forbidden => ?_⟩
  · obtain ⟨last, rfl⟩ := exists_report_eq live bound told
    rfl
  · obtain ⟨plan, does⟩ := does_of_allowed live bound here hookless now listed serves allowed
    exact does.exists_row listed
  · obtain ⟨why, same⟩ := refused_of_not_allowed live now listed forbidden
    rw [same]
    exact ⟨rfl, rfl⟩

/-- At its first step a run takes an output and no approval, and its report says so. -/
theorem recorded_iff_allowed_beforeGate :
    (∃ added row, (beforeGate.execute ⟨1⟩ (.submit [])).1.store.history = added ++ [row] ∧
      row.action = "submit") ∧
    ((beforeGate.execute ⟨1⟩ (.approve [])).2.succeeded = false ∧
      (beforeGate.execute ⟨1⟩ (.approve [])).1 = beforeGate) ∧
    ∃ report, beforeGate.report ⟨1⟩ = .ok (some report) ∧
      report.allowedActions = ["submit", "skip", "stop", "back", "goto", "retry"] := by
  have live : beforeGate.current = .ok (some (.initial "unnamed flow" "a" [] ⟨0⟩)) := by cbv
  have here : Flow.gateFlow.contains "a" = true := by cbv
  have hookless (name : String) (step : Step) (_ : Flow.gateFlow.step? name = some step) :
      beforeGate.hooks.hook? step.name = none := rfl
  have unchosen (target : String) (named : choice? [] = some target) :
      Flow.gateFlow.contains target = true := by
    cases named
  have submits : (Command.submit []).action? = some .submit := rfl
  have approves : (Command.approve []).action? = some .approve := rfl
  have told : ∃ report, beforeGate.report ⟨1⟩ = .ok (some report) := ⟨_, by rfl⟩
  obtain ⟨lists, recorded, -⟩ :=
    recorded_iff_allowed live rfl rfl here hookless ⟨1⟩ submits unchosen
  obtain ⟨-, -, refused⟩ :=
    recorded_iff_allowed live rfl rfl here hookless ⟨1⟩ approves unchosen
  obtain ⟨report, told⟩ := told
  exact ⟨recorded (by decide), refused (by decide), report, told, lists ⟨1⟩ report told⟩

end Engine

end Runbook
